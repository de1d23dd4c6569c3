import Flowchart.Tool.Order
import Flowchart.Shell.Format

/-!
Tools for the characters of a stream: they change, drop and squeeze characters, pick parts of lines, turn lines
around, and put blanks in the place of tabs and tabs in the place of blanks.
-/

namespace Flowchart.Tool

open Files

/-! ### Sets of characters -/

/-- A part of a set that is written down. -/
inductive SetPart where
  | single (c : Char)
  | range (first last : Char)
  | named (name : Text)
  /-- A character again and again; without a number as often as there is room. -/
  | repeated (c : Char) (count : Option Nat)

def allOctets : List Char := (List.range 256).map Char.ofNat

/-- Reads one character of a set, which may be an escape. -/
def setCharacter : Text → Option (Char × Text)
  | [] => none
  | ['\\'] => some ('\\', [])
  | '\\' :: c :: rest =>
    if Text.isOctalDigit c then
      let digits := ((c :: rest).take 3).takeWhile Text.isOctalDigit
      let n := Text.natOfDigits 8 digits
      if n < 256 then some (Char.ofNat n, (c :: rest).drop digits.length)
      else some (Char.ofNat (n / 8), (c :: rest).drop 2)
    else if c = 'e' then some ('e', rest)
    else some ((Shell.letterEscape? c).getD c, rest)
  | c :: rest => some (c, rest)

/-- Reads what stands in brackets at the start of a set. -/
def bracketPart? (t : Text) : Option (Except Text (SetPart × Text)) :=
  match t with
  | '[' :: ':' :: rest =>
    let name := rest.takeWhile (· ≠ ':')
    match rest.drop name.length with
    | ':' :: ']' :: more =>
      if name = [] then some (.error "missing character class name '[::]'".toList)
      else if Text.classNames.contains name then some (.ok (.named name, more))
      else some (.error ("invalid character class ".toList ++ quoted name))
    | _ => none
  | '[' :: '=' :: c :: '=' :: ']' :: more => some (.ok (.single c, more))
  | '[' :: rest => do
    let (c, behind) ← setCharacter rest
    match behind with
    | '*' :: more =>
      let digits := more.takeWhile Char.isDigit
      match more.drop digits.length with
      | ']' :: after =>
        let n := if digits.head? = some '0' then Text.natOfDigits 8 digits else Text.natOfDigits 10 digits
        some (.ok (.repeated c (if n = 0 then none else some n), after))
      | _ => none
    | _ => none
  | _ => none

/-- A character as it is written in a set. -/
def setShown (c : Char) : Text := if isPrintable c then [c] else escapeOf c

def setParts : Nat → Text → Except Text (List SetPart)
  | 0, _ => .ok []
  | fuel + 1, t =>
    match bracketPart? t, setCharacter t with
    | some (.error message), _ => .error message
    | some (.ok (part, rest)), _ => do return part :: (← setParts fuel rest)
    | none, none => .ok []
    | none, some (c, rest) =>
      match rest with
      | '-' :: more =>
        match setCharacter more with
        | some (last, after) =>
          if last < c then
            .error ("range-endpoints of '".toList ++ setShown c ++ '-' :: setShown last ++
              "' are in reverse collating sequence order".toList)
          else do return .range c last :: (← setParts fuel after)
        | none => do return .single c :: (← setParts fuel rest)
      | rest => do return .single c :: (← setParts fuel rest)

/-- The characters of a part, where a part that fills up gets the given number. -/
def SetPart.characters (fill : Nat) : SetPart → List Char
  | .single c => [c]
  | .range a b => (List.range (b.toNat - a.toNat + 1)).map fun k => Char.ofNat (a.toNat + k)
  | .named name => allOctets.filter (Text.inClass name)
  | .repeated c (some n) => List.replicate n c
  | .repeated c none => List.replicate fill c

/-- The characters of a set, filled up to a length if it can be. -/
def setCharacters (length : Nat) (parts : List SetPart) : List Char :=
  let plain := (parts.flatMap (SetPart.characters 0)).length
  parts.flatMap (SetPart.characters (length - plain))

/-- Drops a character that follows an equal one, if it is in a set. -/
def squeezeCharacters (isIn : Char → Bool) : Text → Text
  | a :: b :: rest =>
    if a = b ∧ isIn a then squeezeCharacters isIn (b :: rest) else a :: squeezeCharacters isIn (b :: rest)
  | t => t

/-- The image of each character of a set, by number. -/
def imageTable (set images : List Char) : Array Char :=
  (set.zipIdx).foldl (fun table (c, k) => table.setIfInBounds c.toNat ((images[k]?).getD ((images.getLast?).getD c)))
    allOctets.toArray

/-- Which octets are in a set, by number. -/
def memberTable (set : List Char) : Array Bool :=
  set.foldl (fun table c => table.setIfInBounds c.toNat true) (Array.replicate 256 false)

/-- Changes, drops or squeezes characters of the standard input. -/
def translate : Service :=
  withLeadingOptions
    { letters := "cCdst"
      long := [("delete", 'd'), ("squeeze-repeats", 's'), ("complement", 'c'), ("truncate-set1", 't')] } 1 fun o c p =>
    let deletes := o.has 'd'
    let squeezes := o.has 's'
    let refuse (message : Text) (why : String) : Exit × Process := c.refuse (message ++ why.toList) 1 p
    match o.operands with
    | [] => c.refuse "missing operand".toList 1 p
    | [one] =>
      if deletes ∧ squeezes then refuse ("missing operand after ".toList ++ quoted one)
        "\nTwo strings must be given when both deleting and squeezing repeats."
      else if !deletes ∧ !squeezes then
        refuse ("missing operand after ".toList ++ quoted one) "\nTwo strings must be given when translating."
      else run deletes squeezes o c p one none
    | [one, two] =>
      if deletes ∧ !squeezes then refuse ("extra operand ".toList ++ quoted two)
        "\nOnly one string may be given when deleting without squeezing repeats."
      else run deletes squeezes o c p one (some two)
    | _ :: _ :: extra :: _ => c.refuse ("extra operand ".toList ++ quoted extra) 1 p
where
  /-- Works with sets that are to be read. -/
  run (deletes squeezes : Bool) (o : Options) (c : Call) (p : Process) (one : Text) (two : Option Text) :
      Exit × Process :=
    match setParts (one.length + 1) one, setParts ((two.getD []).length + 1) (two.getD []) with
    | .error message, _ | _, .error message => c.fail message 1 p
    | .ok first, .ok second =>
      let negated := o.has 'c' || o.has 'C'
      let members := memberTable (setCharacters 0 first)
      let set := if negated then allOctets.filter fun c => !(members.getD c.toNat false) else setCharacters 0 first
      let images := setCharacters set.length second
      let translates := !deletes && two.isSome
      if translates ∧ images = [] ∧ !o.has 't' then
        c.fail "when not truncating set1, string2 must be non-empty".toList 1 p
      else
        let isIn := let table := memberTable set; fun c : Char => table.getD c.toNat false
        let isImage := let table := memberTable images; fun c : Char => table.getD c.toNat false
        let (p, t) := p.readAll 0
        let out :=
          if deletes then
            let kept := t.filter fun c => !isIn c
            if squeezes then squeezeCharacters isImage kept else kept
          else if translates then
            let set := if o.has 't' then set.take images.length else set
            let table := imageTable set images
            let changed := t.map fun c => table.getD c.toNat c
            if squeezes then squeezeCharacters isImage changed else changed
          else squeezeCharacters isIn t
        ends 0 (p.write 1 out)

/-! ### Parts of lines -/

/-- Ranges of numbers: where each starts, and where it stops if it does. -/
abbrev Ranges := List (Nat × Option Nat)

/-- Whether a number is in a range. -/
def Ranges.holds (rs : Ranges) (n : Nat) : Bool := rs.any fun (a, b) => a ≤ n && (b.map fun b => decide (n ≤ b)).getD true

/-- Whether a range starts with a number. -/
def Ranges.starts (rs : Ranges) (n : Nat) : Bool :=
  rs.holds n && (n = 0 || !rs.holds (n - 1) || rs.any fun (a, _) => a = n)

/-- Reads ranges of numbers with commas or blanks between them. -/
def rangesOf (ofFields : Bool) (t : Text) : Except Text Ranges :=
  let wrong (part : Text) : Text := (if ofFields then "invalid field value " else "invalid byte/character position ").toList
    ++ quoted part
  let zero := (if ofFields then "fields are numbered from 1" else "byte/character positions are numbered from 1").toList
  ((Text.splitAt ',' t).flatMap (Text.splitAt ' ')).mapM fun part =>
    match Text.cut? '-' part with
    | none =>
      match natural? part with
      | some 0 => .error zero
      | some n => .ok (n, some n)
      | none => if part = [] then .error zero else .error (wrong part)
    | some (first, last) =>
      match if first = [] then some 1 else natural? first, if last = [] then some 0 else natural? last with
      | some m, some n =>
        if first = [] ∧ last = [] then .error "invalid range with no endpoint: -".toList
        else if m = 0 ∨ (last ≠ [] ∧ n = 0 ∧ first = []) then .error zero
        else if last ≠ [] ∧ n < m then .error "invalid decreasing range".toList
        else .ok (m, if last = [] then none else some n)
      | _, _ => .error (wrong (if (natural? first).isNone ∧ first ≠ [] then part else part))

/-- Writes fields or characters of lines. -/
def fields : Service :=
  withOptions
    { letters := "snzκ", valued := "bcdfω"
      long := [("delimiter", 'd'), ("fields", 'f'), ("bytes", 'b'), ("characters", 'c'), ("complement", 'κ'),
        ("only-delimited", 's'), ("output-delimiter", 'ω'), ("zero-terminated", 'z')] } 1 fun o c p =>
    let lists := o.given.filter fun g => "bcf".toList.contains g.1
    match lists with
    | [] => c.refuse "you must specify a list of bytes, characters, or fields".toList 1 p
    | _ :: _ :: _ => c.refuse "only one list may be specified".toList 1 p
    | [(letter, text)] =>
      let ofFields := letter = 'f'
      match rangesOf ofFields text with
      | .error message => c.refuse message 1 p
      | .ok ranges =>
        if !ofFields ∧ o.has 'd' then
          c.refuse "an input delimiter may be specified only when operating on fields".toList 1 p
        else if !ofFields ∧ o.has 's' then
          c.refuse "suppressing non-delimited lines makes sense\n\tonly when operating on fields".toList 1 p
        else if 1 < ((o.value? 'd').getD []).length then c.refuse "the delimiter must be a single character".toList 1 p
        else
          let mark := if o.has 'z' then '\x00' else '\n'
          let turned := o.has 'κ'
          let keeps (k : Nat) : Bool := ranges.holds k != turned
          let starts (k : Nat) : Bool := if turned then keeps k && (k = 1 || !keeps (k - 1)) else ranges.starts k
          let delimiter := match o.value? 'd' with
            | some (c :: _) => c
            | some [] => '\x00'
            | none => '\t'
          let between := (o.value? 'ω').getD [delimiter]
          let row (line : Text) : Option Text :=
            if ofFields then
              if !line.contains delimiter then (if o.has 's' then none else some line)
              else some (between.intercalate
                (((Text.splitAt delimiter line).zipIdx 1).filterMap fun (field, k) => if keeps k then some field else none))
            else
              some (((line.zipIdx 1).foldl (fun (out, found) (c, k) =>
                if keeps k then
                  let gap := if found && o.has 'ω' && starts k then between.reverse else []
                  (c :: gap ++ out, true)
                else (out, found)) (([] : Text), false)).1.reverse)
          forInputs c unreadable p (inputs o.operands) fun t =>
            ((piecesOf mark t).filterMap fun piece => row (unmarked mark piece)).flatMap (· ++ [mark])

/-- Turns the characters of each line around. -/
def turnedAround : Service :=
  withOptions { letters := "" } 1 fun o c p =>
    let message (operand : Text) (fault : Fault) : Text := "cannot open ".toList ++ operand ++ told fault
    forInputs c message p (inputs o.operands) fun t =>
      (lines t).flatMap fun line => (unmarked '\n' line).reverse ++ if line.getLast? = some '\n' then ['\n'] else []

/-! ### Tabs -/

/-- Where tabs stop: at each of some columns and then at every column that a number divides, or not at all. -/
structure TabStops where
  columns : List Nat
  every : Option Nat

def TabStops.next (s : TabStops) (column : Nat) : Option Nat :=
  match s.columns.find? (column < ·), s.every with
  | some c, _ => some c
  | none, some n => if n = 0 then none else some (column - column % n + n)
  | none, none => none

/-- Reads tab stops: one number for all of them, or the columns. -/
def tabStops? (values : List Text) : Except Text TabStops := do
  let parts := (values.flatMap fun t => (Text.splitAt ',' t).flatMap (Text.splitAt ' ')).filter (· ≠ [])
  let numbers ← parts.mapM fun part =>
    match natural? (if part.head? = some '/' ∨ part.head? = some '+' then part.tail else part) with
    | some 0 => .error "tab size cannot be 0".toList
    | some n => .ok n
    | none => .error ("tab size contains invalid character(s): ".toList ++ quoted (part.dropWhile Char.isDigit))
  match numbers with
  | [] => return ⟨[], some 8⟩
  | [n] => return ⟨[], some n⟩
  | ns =>
    if (ns.zip ns.tail).any fun (a, b) => b ≤ a then .error "tab sizes must be ascending".toList
    else return ⟨ns, none⟩

/-- Puts an argument such as `-4` into the form of an option with a value. -/
def stopsFirst (arguments : List Text) : List Text :=
  arguments.flatMap fun a => match a with
    | '-' :: d :: rest => if d.isDigit then [['-', 't'], d :: rest] else [a]
    | _ => [a]

/-- Writes blanks for the tabs of a line. -/
def expanded (s : TabStops) (onlyFirst : Bool) (column : Nat) (leading : Bool) : Text → Text
  | [] => []
  | c :: rest =>
    if c = '\t' ∧ (leading ∨ !onlyFirst) then
      let next := (s.next column).getD (column + 1)
      List.replicate (next - column) ' ' ++ expanded s onlyFirst next leading rest
    else if c = '\x08' then c :: expanded s onlyFirst (column - 1) false rest
    else c :: expanded s onlyFirst (column + 1) (leading && (c = ' ' || c = '\t')) rest

/-- Puts blanks in the place of tabs. -/
def expand : Service := fun c p =>
  withOptions { letters := "i", valued := "t", long := [("initial", 'i'), ("tabs", 't')] } 1 (fun o c p =>
    match tabStops? (o.values 't') with
    | .error message => c.fail message 1 p
    | .ok s =>
      forInputs c unreadable p (inputs o.operands) fun t => (lines t).flatMap (expanded s (o.has 'i') 0 true))
    { c with arguments := stopsFirst c.arguments } p

/-- Writes tabs for the blanks of a line: `blanks` stand before the rest, from a column on. -/
def unexpanded (s : TabStops) (all : Bool) (column : Nat) (blanks : Text) (leading : Bool) : Text → Text
  | [] => blanks
  | c :: rest =>
    if (c = ' ' ∨ c = '\t') ∧ (leading ∨ all) then
      match s.next (column + blanks.length) with
      | none => blanks ++ c :: unexpanded s all (column + blanks.length + 1) [] leading rest
      | some next =>
        if c = '\t' then '\t' :: unexpanded s all next [] leading rest
        else if column + blanks.length + 1 = next then
          -- a single blank before a stop stays, unless blanks follow it
          let follows := rest.head? = some ' ' || rest.head? = some '\t'
          (if blanks = [] ∧ !follows then [' '] else ['\t']) ++ unexpanded s all next [] leading rest
        else unexpanded s all column (blanks ++ [' ']) leading rest
    else blanks ++ c :: unexpanded s all (column + blanks.length + 1) [] false rest
termination_by rest => rest.length

/-- Puts tabs in the place of blanks: those at the start of each line, or all. -/
def unexpand : Service := fun c p =>
  withOptions { letters := "af", valued := "t", long := [("all", 'a'), ("first-only", 'f'), ("tabs", 't')] } 1
    (fun o c p =>
      match tabStops? (o.values 't') with
      | .error message => c.fail message 1 p
      | .ok s =>
        let all := (o.has 'a' || o.has 't') && !o.has 'f'
        forInputs c unreadable p (inputs o.operands) fun t => (lines t).flatMap fun line =>
          unexpanded s all 0 [] true (unmarked '\n' line) ++ if line.getLast? = some '\n' then ['\n'] else [])
    { c with arguments := stopsFirst c.arguments } p

end Flowchart.Tool
