import Flowchart.Number.Decimal
import Flowchart.Tool.Lines

/-!
Tools for lines in an order: sorting them, dropping repeated ones, comparing and joining sorted files, and
putting the items of a relation in an order that the relation allows.
-/

namespace Flowchart.Tool

def octetOrder : Text → Text → Ordering
  | [], [] => .eq
  | [], _ :: _ => .lt
  | _ :: _, [] => .gt
  | a :: s, b :: t => (compare a.toNat b.toNat).then (octetOrder s t)

/-- Whether a character divides fields. -/
def isFieldBlank (c : Char) : Bool := c == ' ' || c == '\t' || c == '\n'

/-! ### Keys -/

inductive Measure where
  | octets
  | number
  | quantity
  | size
  | month
  | version
deriving DecidableEq, Repr

/-- A manner of comparing: what is measured, what counts, and which way. -/
structure Manner where
  measure : Measure := .octets
  skipBlanks : Bool := false
  fold : Bool := false
  dictionary : Bool := false
  printable : Bool := false
  reverse : Bool := false
deriving DecidableEq, Repr

/-- Applies a letter to a manner, if it is one. -/
def Manner.add? (m : Manner) : Char → Option Manner
  | 'b' => some { m with skipBlanks := true }
  | 'd' => some { m with dictionary := true }
  | 'f' => some { m with fold := true }
  | 'i' => some { m with printable := true }
  | 'r' => some { m with reverse := true }
  | 'n' => some { m with measure := .number }
  | 'g' => some { m with measure := .quantity }
  | 'h' => some { m with measure := .size }
  | 'M' => some { m with measure := .month }
  | 'V' => some { m with measure := .version }
  | _ => none

/-- A position in a line: fields to go over and characters behind them, and whether blanks before those are
passed over. -/
structure Position where
  fields : Nat
  characters : Nat
  skipBlanks : Bool
deriving DecidableEq, Repr

/-- A key: where it starts, where it stops if not at the end of the line, and how it is compared. -/
structure Key where
  start : Position
  stop : Option Position
  manner : Manner
deriving Repr

/-- Goes over fields. With a separator the one behind the last field is gone over too, if `through`. -/
def overFields (separator : Option Char) (through : Bool) : Nat → Text → Text
  | 0, t => t
  | n + 1, t =>
    match separator with
    | some c =>
      let rest := t.dropWhile (· ≠ c)
      overFields separator through n (if n ≠ 0 ∨ through then rest.tail else rest)
    | none => overFields separator through n ((t.dropWhile isFieldBlank).dropWhile (!isFieldBlank ·))

/-- The part of a line that is a key. -/
def Key.of (separator : Option Char) (k : Key) (line : Text) : Text :=
  let start := overFields separator true k.start.fields line
  let start := if k.start.skipBlanks then start.dropWhile isFieldBlank else start
  let start := start.drop k.start.characters
  match k.stop with
  | none => start
  | some stop =>
    let fields := if stop.characters = 0 then stop.fields + 1 else stop.fields
    let rest := overFields separator (stop.characters ≠ 0) fields line
    let rest := if stop.characters ≠ 0 ∧ stop.skipBlanks then rest.dropWhile isFieldBlank else rest
    let rest := rest.drop stop.characters
    start.take (start.length - rest.length)

/-- The number that a text starts with, as its sign, its digits and the digits behind its point. -/
def leadingNumber (t : Text) : Bool × Text × Text :=
  let t := t.dropWhile isFieldBlank
  let (negative, t) := match t with
    | '-' :: rest => (true, rest)
    | t => (false, t)
  let whole := t.takeWhile Char.isDigit
  let behind := match t.drop whole.length with
    | '.' :: rest => rest.takeWhile Char.isDigit
    | _ => []
  (negative, whole.dropWhile (· = '0'), (behind.reverse.dropWhile (· = '0')).reverse)

def numberOrder (s t : Text) : Ordering :=
  let value (t : Text) : Int × Nat :=
    let (negative, whole, behind) := leadingNumber t
    let n : Int := Text.natOfDigits 10 (whole ++ behind)
    (if negative then -n else n, behind.length)
  let (a, p) := value s
  let (b, q) := value t
  compare (a * Int.pow 10 q) (b * Int.pow 10 p)

/-- The order of quantities: what is none comes first, then what is not a number. -/
def quantityOrder (s t : Text) : Ordering :=
  let rank : Option Quantity → Nat
    | none => 0
    | some (.nan _) => 1
    | some (.infinite true) => 2
    | some (.finite ..) => 3
    | some (.infinite false) => 4
  let a := (Quantity.read? s).map Prod.fst
  let b := (Quantity.read? t).map Prod.fst
  match a, b with
  | some (.finite m num den), some (.finite n num' den') =>
    let signed (negative : Bool) (k : Nat) : Int := if negative then -(k : Int) else k
    compare (signed m (num * den')) (signed n (num' * den))
  | a, b => compare (rank a) (rank b)

/-- The order of numbers with units behind them: first by sign and unit. -/
def sizeOrder (s t : Text) : Ordering :=
  let rank (t : Text) : Int :=
    let (negative, whole, behind) := leadingNumber t
    if whole = [] ∧ behind = [] then 0
    else
      let rest := (t.dropWhile isFieldBlank).dropWhile fun c => c.isDigit || c == '-' || c == '.'
      let unit : Int := match rest with
        | c :: _ => ((" kMGTPEZYRQ".toList.idxOf? (if c = 'K' then 'k' else c)).getD 0 : Nat)
        | [] => 0
      let n := unit + 1
      if negative then -n else n
  (compare (rank s) (rank t)).then (numberOrder s t)

/-- The number of the month that a text starts with. -/
def monthOf (t : Text) : Nat :=
  let name := ((t.dropWhile isFieldBlank).take 3).map Char.toUpper
  match ["JAN", "FEB", "MAR", "APR", "MAY", "JUN", "JUL", "AUG", "SEP", "OCT", "NOV",
    "DEC"].findIdx? fun m => m.toList = name with
  | some k => k + 1
  | none => 0

/-- The rank of a character between the numbers of versions. -/
def versionRank : Option Char → Int
  | none => 0
  | some c => if c.isDigit then 0 else if c.isAlpha then c.toNat else if c = '~' then -2 else c.toNat + 256

/-- The order of versions: texts between numbers and numbers in turn. -/
def versionParts : Nat → Text → Text → Ordering
  | 0, _, _ => .eq
  | fuel + 1, s, t =>
    if s = [] ∧ t = [] then .eq
    else
      let isText (t : Text) : Bool := (t.head?.map fun c => !c.isDigit).getD false
      if isText s || isText t then
        match compare (versionRank s.head?) (versionRank t.head?) with
        | .eq => versionParts fuel (if isText s then s.tail else s) (if isText t then t.tail else t)
        | order => order
      else
        let m := (s.takeWhile Char.isDigit)
        let n := (t.takeWhile Char.isDigit)
        match compare (Text.natOfDigits 10 m) (Text.natOfDigits 10 n) with
        | .eq => versionParts fuel (s.drop m.length) (t.drop n.length)
        | order => order

/-- The length of a text without the endings that are made of a dot, a letter and letters or digits. -/
def withoutEndings (t : Text) : Text :=
  let rec strip : Nat → Text → Text
    | 0, t => t
    | fuel + 1, t =>
      let ending := (t.reverse.takeWhile fun c => c.isAlphanum || c == '~').reverse
      let start := t.take (t.length - ending.length)
      match ending, start.getLast? with
      | c :: _, some '.' => if (c.isAlpha || c == '~') ∧ start.length ≠ 1 then strip fuel start.dropLast else t
      | _, _ => t
  strip t.length t

/-- The order of names with versions in them. -/
def versionOrder (s t : Text) : Ordering :=
  if s = t then .eq
  else if s = [] then .lt
  else if t = [] then .gt
  else
    let fuel := s.length + t.length + 1
    (versionParts fuel (withoutEndings s) (withoutEndings t)).then (versionParts fuel s t)

/-- Compares two keys in a manner, not turned around. -/
def Manner.compare (m : Manner) (s t : Text) : Ordering :=
  let visible (t : Text) : Text :=
    let t := if m.dictionary then t.filter fun c => isFieldBlank c || c.isAlphanum else t
    let t := if m.printable then t.filter isPrintable else t
    if m.fold then t.map Char.toUpper else t
  match m.measure with
  | .octets => octetOrder (visible s) (visible t)
  | .number => numberOrder s t
  | .quantity => quantityOrder s t
  | .size => sizeOrder s t
  | .month => Ord.compare (monthOf s) (monthOf t)
  | .version => versionOrder (visible s) (visible t)

/-! ### Sorting -/

/-- What a sort has been asked to do. -/
structure Sorting where
  keys : List Key
  separator : Option Char
  /-- The manner of keys that have none of their own. -/
  manner : Manner
  stable : Bool
  unique : Bool

/-- The order of two lines by their keys. -/
def Sorting.keyOrder (s : Sorting) (a b : Text) : Ordering :=
  s.keys.foldl (fun order k =>
    order.then
      (let found := k.manner.compare (k.of s.separator a) (k.of s.separator b)
       if k.manner.reverse then found.swap else found)) .eq

/-- The order of two lines; the octets decide where the keys do not. -/
def Sorting.order (s : Sorting) (a b : Text) : Ordering :=
  (s.keyOrder a b).then
    (if s.stable ∨ s.unique then .eq
     else if s.manner.reverse then (octetOrder a b).swap else octetOrder a b)

/-- Drops lines that are equal to the line before. -/
def distinct (same : Text → Text → Bool) : List Text → List Text
  | a :: b :: more => if same a b then distinct same (a :: more) else a :: distinct same (b :: more)
  | ls => ls
termination_by ls => ls.length

def positionOf (t : Text) : Except Text (Nat × Option Nat × Text) := do
  let digits := t.takeWhile Char.isDigit
  if digits = [] then .error ("invalid number at field start: invalid count at start of ".toList ++ cited t)
  else match t.drop digits.length with
    | '.' :: rest =>
      let behind := rest.takeWhile Char.isDigit
      if behind = [] then .error ("invalid number after '.': invalid count at start of ".toList ++ cited rest)
      else return (Text.natOfDigits 10 digits, some (Text.natOfDigits 10 behind), rest.drop behind.length)
    | rest => return (Text.natOfDigits 10 digits, none, rest)

/-- Reads the letters behind a position. -/
def mannerOf (m : Manner) (blanks : Bool) : Text → Manner × Bool × Text
  | [] => (m, blanks, [])
  | 'b' :: rest => mannerOf m true rest
  | c :: rest =>
    match m.add? c with
    | some m => mannerOf m blanks rest
    | none => (m, blanks, c :: rest)

/-- Reads a key. Letters of its own keep it from the manner of the whole sort. -/
def keyOf (whole : Manner) (t : Text) : Except Text Key := do
  let wrong (reason : String) : Except Text Key :=
    .error (reason.toList ++ ": invalid field specification ".toList ++ cited t)
  let (field, character, rest) ← positionOf t
  if field = 0 then wrong "field number is zero"
  else if character = some 0 then wrong "character offset is zero"
  else
    let (m, blanks, rest) := mannerOf {} false rest
    let finish (m : Manner) (blanks : Bool) (stop : Option Position) : Key :=
      let own := m ≠ {} ∨ blanks ∨ (stop.map Position.skipBlanks).getD false
      let start : Position := ⟨field - 1, character.getD 1 - 1, if own then blanks else whole.skipBlanks⟩
      let stop := stop.map fun s => if own then s else { s with skipBlanks := whole.skipBlanks }
      ⟨start, stop, if own then m else whole⟩
    match rest with
    | [] => return finish m blanks none
    | ',' :: rest =>
      let digits := rest.takeWhile Char.isDigit
      if digits = [] then
        .error ("invalid number after ',': invalid count at start of ".toList ++ cited rest)
      else
        let (last, character, rest) ← positionOf rest
        if last = 0 then wrong "field number is zero"
        else
          let (m, stopBlanks, rest) := mannerOf m false rest
          if rest = [] then return finish m blanks (some ⟨last - 1, character.getD 0, stopBlanks⟩)
          else wrong "stray character in field spec"
    | _ => wrong "stray character in field spec"

/-- What the options of a sort ask for. -/
def sortingOf (o : Options) : Except Text Sorting := do
  let whole := o.given.foldl (fun m g => (m.add? g.1).getD m) ({} : Manner)
  let keys ← (o.values 'k').mapM (keyOf whole)
  let separator ← match o.value? 't' with
    | none => .ok none
    | some ['\\', '0'] => .ok (some '\x00')
    | some [c] => .ok (some c)
    | some [] => .error "empty tab".toList
    | some t => .error ("multi-character tab ".toList ++ cited t)
  let plain : Key := ⟨⟨0, 0, whole.skipBlanks⟩, none, whole⟩
  let keys := if keys.isEmpty ∧ { whole with reverse := false } ≠ {} then [plain] else keys
  return ⟨if keys.isEmpty ∧ o.has 'u' then [plain] else keys, separator, whole, o.has 's', o.has 'u'⟩

/-- The first line that does not stand in its order, and its number. -/
def disorder? (s : Sorting) (n : Nat) : List Text → Option (Nat × Text)
  | a :: b :: more =>
    let order := s.order a b
    if order = .gt ∨ (s.unique ∧ order = .eq) then some (n + 1, b) else disorder? s (n + 1) (b :: more)
  | _ => none

/-- Writes the lines of all inputs in their order. -/
def sorted : Service :=
  withOptions
    { letters := "bcCdfghimMnrRsuVz", valued := "koStT"
      long := [("reverse", 'r'), ("numeric-sort", 'n'), ("unique", 'u'), ("ignore-case", 'f'), ("key", 'k'),
        ("field-separator", 't'), ("output", 'o'), ("stable", 's'), ("check", 'c'), ("merge", 'm'),
        ("ignore-leading-blanks", 'b'), ("dictionary-order", 'd'), ("general-numeric-sort", 'g'),
        ("human-numeric-sort", 'h'), ("month-sort", 'M'), ("version-sort", 'V'), ("ignore-nonprinting", 'i'),
        ("zero-terminated", 'z')] } 2 fun o c p =>
    match sortingOf o with
    | .error message => c.fail message 2 p
    | .ok s =>
      let mark := if o.has 'z' then '\x00' else '\n'
      let message (operand : Text) (fault : Fault) :=
        if fault = .isDirectory then "read failed: ".toList ++ named operand ++ told fault
        else "cannot read: ".toList ++ named operand ++ told fault
      let (p, ls, fault) := (inputs o.operands).foldl (fun (p, ls, fault) operand =>
        if fault = none then
          match take p operand with
          | .ok (p, t) => (p, ls ++ (piecesOf mark t).map (unmarked mark), none)
          | .error f => (p, ls, some (message operand f))
        else (p, ls, fault)) (p, [], none)
      match fault with
      | some message => c.fail message 2 p
      | none =>
        if o.has 'c' ∨ o.has 'C' then
          match disorder? s 1 ls with
          | none => ends 0 p
          | some (n, line) =>
            if o.has 'C' then ends 1 p
            else c.fail ((o.operands.head?.getD ['-']) ++ ':' :: Text.decimal n ++ ": disorder: ".toList ++ line) 1 p
        else
          let ls := ls.mergeSort fun a b => s.order a b ≠ .gt
          let ls := if s.unique then distinct (fun a b => s.keyOrder a b = .eq) ls else ls
          let t := ls.flatMap (· ++ [mark])
          match o.value? 'o' with
          | none => ends 0 (p.write 1 t)
          | some target =>
            match p.store target false t with
            | .ok p => ends 0 p
            | .error fault => c.fail ("open failed: ".toList ++ named target ++ told fault) 2 p

/-! ### Repeated lines -/

def runsOf (agree : Text → Text → Bool) : List Text → List (List Text)
  | [] => []
  | a :: more =>
    match runsOf agree more with
    | (b :: run) :: found => if agree a b then (a :: b :: run) :: found else [a] :: (b :: run) :: found
    | found => [a] :: found

/-- Writes each run of lines that agree once, or those that the options ask for. -/
def uniqueLines : Service :=
  withOptions
    { letters := "cdDuiz", valued := "fsw", loose := "ργ"
      long := [("count", 'c'), ("repeated", 'd'), ("unique", 'u'), ("ignore-case", 'i'), ("skip-fields", 'f'),
        ("skip-chars", 's'), ("check-chars", 'w'), ("all-repeated", 'ρ'), ("zero-terminated", 'z'), ("group", 'γ')] }
    1 fun o c p =>
    let number (letter : Char) : Option Nat := (o.value? letter).bind natural?
    let input := o.operands.head?.getD ['-']
    match ("fsw".toList.find? fun letter => (o.value? letter).isSome && (number letter).isNone), o.operands with
    | some letter, _ =>
      let what := if letter = 'f' then "skip fields" else if letter = 's' then "skip bytes" else "compare bytes"
      c.fail ((o.value? letter).getD [] ++ ": invalid number of ".toList ++ what.toList ++ " to ".toList) 1 p
    | none, _ :: _ :: extra :: _ => c.refuse ("extra operand ".toList ++ quoted extra) 1 p
    | none, _ =>
      match take p input with
      | .error fault =>
        c.fail (if fault = .isDirectory then "error reading ".toList ++ quoted input ++ told fault
          else unreadable input fault) 1 p
      | .ok (p, t) =>
        let mark := if o.has 'z' then '\x00' else '\n'
        let compared (line : Text) : Text :=
          let rest := (List.replicate ((number 'f').getD 0) ()).foldl
            (fun t _ => (t.dropWhile isFieldBlank).dropWhile (!isFieldBlank ·)) line
          let rest := rest.drop ((number 's').getD 0)
          let rest := match number 'w' with
            | some n => rest.take n
            | none => rest
          if o.has 'i' then rest.map Char.toUpper else rest
        let runs := runsOf (fun a b => compared a = compared b) ((piecesOf mark t).map (unmarked mark))
        let all := o.has 'D' || o.has 'ρ'
        let chosen := runs.filter fun run =>
          (!(o.has 'd' || all) || 1 < run.length) && (!o.has 'u' || run.length = 1)
        let shown (run : List Text) : List Text :=
          if all || o.has 'γ' then run
          else (run.take 1).map fun line =>
            if o.has 'c' then right 7 (Text.decimal run.length) ++ ' ' :: line else line
        let blocks := chosen.map fun run => (shown run).flatMap (· ++ [mark])
        let apart := (o.value? 'ρ').getD []
        let out := if o.has 'γ' ∨ apart = "separate".toList then [mark].intercalate blocks
          else if apart = "prepend".toList then blocks.flatMap (mark :: ·)
          else blocks.flatten
        match o.operands with
        | [_, target] =>
          match p.store target false out with
          | .ok p => ends 0 p
          | .error fault => c.fail (unreadable target fault) 1 p
        | _ => ends 0 (p.write 1 out)

/-! ### Sorted files -/

/-- Reads two files that are operands. -/
def takeTwo (c : Call) (p : Process) (o : Options) (go : Text → Text → Process → Exit × Process) : Exit × Process :=
  match o.operands with
  | [] => c.refuse "missing operand".toList 1 p
  | [one] => c.refuse ("missing operand after ".toList ++ cited one) 1 p
  | [one, two] =>
    match take p one with
    | .error fault => c.fail (unreadable one fault) 1 p
    | .ok (p, s) =>
      match take p two with
      | .error fault => c.fail (unreadable two fault) 1 p
      | .ok (p, t) => go s t p
  | _ :: _ :: extra :: _ => c.refuse ("extra operand ".toList ++ cited extra) 1 p

/-- Where a line of two sorted files stands: in the first one, the second one, or both. -/
inductive Side where
  | first
  | second
  | both
deriving DecidableEq, Repr

/-- The lines of two sorted files together. -/
def merged : List Text → List Text → List (Side × Text)
  | [], bs => bs.map (Side.second, ·)
  | as, [] => as.map (Side.first, ·)
  | a :: as, b :: bs =>
    match octetOrder a b with
    | .lt => (.first, a) :: merged as (b :: bs)
    | .gt => (.second, b) :: merged (a :: as) bs
    | .eq => (.both, a) :: merged as bs
termination_by as bs => as.length + bs.length

/-- Whether lines stand in their order. -/
def isSorted : List Text → Bool
  | a :: b :: more => octetOrder a b ≠ .gt && isSorted (b :: more)
  | _ => true

/-- Writes the lines of two sorted files in columns: those of the first, of the second, and of both. -/
def common : Service :=
  withOptions
    { letters := "123zτκν", valued := "ω", long := [("output-delimiter", 'ω'), ("total", 'τ'), ("zero-terminated", 'z'),
        ("check-order", 'κ'), ("nocheck-order", 'ν')] } 1 fun o c p =>
    takeTwo c p o fun s t p =>
      let mark := if o.has 'z' then '\x00' else '\n'
      let delimiter := (o.value? 'ω').getD ['\t']
      let (as, bs) := ((piecesOf mark s).map (unmarked mark), (piecesOf mark t).map (unmarked mark))
      let found := merged as bs
      let indent (side : Side) : Text :=
        (if side ≠ .first ∧ !o.has '1' then delimiter else []) ++ (if side = .both ∧ !o.has '2' then delimiter else [])
      let hidden (side : Side) : Bool := match side with
        | .first => o.has '1'
        | .second => o.has '2'
        | .both => o.has '3'
      let rows := found.filterMap fun (side, line) =>
        if hidden side then none else some (indent side ++ line ++ [mark])
      let count (side : Side) : Text := Text.decimal (found.countP fun f => f.1 = side)
      let total := if o.has 'τ' then
        delimiter.intercalate [count .first, count .second, count .both, "total".toList] ++ [mark] else []
      let p := p.write 1 (rows.flatten ++ total)
      let unpaired := found.any fun f => f.1 ≠ .both
      let wrong := if unpaired then [(1, as), (2, bs)].filter fun (_, ls) => !isSorted ls else []
      let p := wrong.foldl (fun p (n, _) =>
        c.complain ("file ".toList ++ Text.decimal n ++ " is not in sorted order".toList) p) p
      if wrong = [] then ends 0 p else c.fail "input is not in sorted order".toList 1 p

/-! ### Joining -/

def fieldsOf (separator : Option Char) (line : Text) : List Text :=
  match separator with
  | some c => Text.splitAt c line
  | none =>
    let rec words : Nat → Text → List Text
      | 0, _ => []
      | fuel + 1, t =>
        let t := t.dropWhile isFieldBlank
        if t = [] then []
        else t.takeWhile (!isFieldBlank ·) :: words fuel (t.dropWhile (!isFieldBlank ·))
    words (line.length + 1) line

/-- A field of the output of a join: the field that is joined by, or a field of a file. -/
inductive Column where
  | key
  | of (second : Bool) (field : Nat)

def column? (t : Text) : Option Column :=
  match Text.cut? '.' t with
  | none => if t = ['0'] then some .key else none
  | some (file, field) =>
    match natural? file, natural? field with
    | some 1, some (n + 1) => some (.of false n)
    | some 2, some (n + 1) => some (.of true n)
    | _, _ => none

/-- Joins the lines of two sorted files that have the same key. -/
def joinedRows (key : Bool → List Text → Text) (row : Option (List Text) → Option (List Text) → Text)
    (only : Bool → Bool) (paired : Bool) : Nat → List (List Text) → List (List Text) → List Text
  | 0, _, _ => []
  | _ + 1, [], bs => if only true then bs.map fun b => row none (some b) else []
  | _ + 1, as, [] => if only false then as.map fun a => row (some a) none else []
  | fuel + 1, a :: as, b :: bs =>
    let go := joinedRows key row only paired fuel
    match octetOrder (key false a) (key true b) with
    | .lt => (if only false then [row (some a) none] else []) ++ go as (b :: bs)
    | .gt => (if only true then [row none (some b)] else []) ++ go (a :: as) bs
    | .eq =>
      let partners := bs.takeWhile fun x => key true x = key true b
      let again : Bool := (as.head?.map fun next => decide (key false next = key false a)).getD false
      (if paired then (b :: partners).map fun x => row (some a) (some x) else [])
        ++ go as (if again then b :: bs else bs.drop partners.length)

/-- Joins two sorted files by a field. -/
def joins : Service :=
  withOptions { letters := "izη", valued := "12jtaveo", long := [("ignore-case", 'i'), ("header", 'η')] } 1 fun o c p =>
    takeTwo c p o fun s t p =>
      let number (letters : List Char) : Nat :=
        ((letters.findSome? fun letter => (o.value? letter).bind natural?).getD 1) - 1
      let keyField (second : Bool) : Nat := number (if second then ['2', 'j'] else ['1', 'j'])
      let separator := (o.value? 't').bind List.head?
      let blank := separator.getD ' '
      let key (second : Bool) (fields : List Text) : Text :=
        let t := (fields[keyField second]?).getD []
        if o.has 'i' then t.map Char.toUpper else t
      let missing := (o.value? 'e').getD []
      let columns := (o.values 'o').flatMap fun t =>
        ((Text.splitAt ',' t).flatMap (Text.splitAt ' ')).filterMap column?
      let usual (second : Bool) (fields : List Text) : List Text := fields.eraseIdx (keyField second)
      let row (a b : Option (List Text)) : Text :=
        let keyText := match a, b with
          | some a, _ => (a[keyField false]?).getD []
          | none, some b => (b[keyField true]?).getD []
          | none, none => []
        let cells := if columns.isEmpty then
            keyText :: (a.map (usual false)).getD [] ++ (b.map (usual true)).getD []
          else columns.map fun
            | .key => keyText
            | .of second n =>
              match (if second then b else a).bind fun fields => fields[n]? with
              | some [] | none => missing
              | some t => t
        [blank].intercalate cells
      let unpaired := (o.values 'a' ++ o.values 'v')
      let only (second : Bool) : Bool := unpaired.contains (if second then ['2'] else ['1'])
      let rows := joinedRows key row only (!o.has 'v') (s.length + t.length + 1) ((plainLines s).map (fieldsOf separator))
        ((plainLines t).map (fieldsOf separator))
      ends 0 (p.write 1 (joined rows))

/-! ### Relations -/

/-- An item of a relation: how many items have to come before it, those that come behind it, and whether it
has been written. -/
structure Item where
  name : Text
  before : Nat := 0
  behind : List Text := []
  done : Bool := false

/-- The items of a relation, in the order of their names. -/
abbrev Items := List Item

namespace Items

def change (items : Items) (name : Text) (f : Item → Item) : Items :=
  items.map fun i => if i.name = name then f i else i

/-- The number of items that have to come before one. -/
def before (items : Items) (name : Text) : Nat := ((items.find? fun i => i.name = name).map Item.before).getD 0

def relate (items : Items) (a b : Text) : Items :=
  let add (items : Items) (name : Text) : Items :=
    if items.any fun i => i.name = name then items
    else (items.filter fun i => octetOrder i.name name = .lt) ++ { name } ::
      items.filter fun i => octetOrder i.name name = .gt
  let items := add (add items a) b
  if a = b then items
  else
    let items := change items b fun i => { i with before := i.before + 1 }
    change items a fun i => { i with behind := b :: i.behind }

/-- Writes items that nothing has to come before, and then those that may come behind them. -/
def drain : Nat → List Text → Items → List Text × Items
  | 0, _, items => ([], items)
  | _ + 1, [], items => ([], items)
  | fuel + 1, name :: queue, items =>
    let behind := ((items.find? fun i => i.name = name).map Item.behind).getD []
    let items := change items name fun i => { i with done := true }
    let (items, ready) := behind.foldl (fun (items, ready) next =>
      let items := change items next fun i => { i with before := i.before - 1 }
      (items, if before items next = 0 then ready ++ [next] else ready)) (items, ([] : List Text))
    let (out, items) := drain fuel (queue ++ ready) items
    (name :: out, items)

/-- Looks for a way that leads around, from each item to one on the way: gives the way, the last item first,
and the pair that closes it when it is closed. -/
def findLoop (way : List Text) : Items → List Text × Option (Text × Text)
  | [] => (way, none)
  | i :: more =>
    if i.before = 0 then findLoop way more
    else match way with
      | [] => findLoop [i.name] more
      | last :: _ =>
        if !i.behind.contains last then findLoop way more
        else if way.dropLast.contains i.name then (way, some (i.name, last))
        else findLoop (i.name :: way) more

/-- Breaks a loop: gives the items on it. -/
def breakLoop : Nat → List Text → Items → List Text × Items
  | 0, _, items => ([], items)
  | fuel + 1, way, items =>
    match findLoop way items with
    | (way, none) => if way = [] then ([], items) else breakLoop fuel way items
    | (way, some (a, b)) =>
      let items := change items a fun i => { i with behind := i.behind.erase b }
      (way.takeWhile (· ≠ a) ++ [a], change items b fun i => { i with before := i.before - 1 })

/-- Puts the items in an order; where there is none a loop is told and broken. -/
def inOrder : Nat → Items → List (Text ⊕ List Text)
  | 0, _ => []
  | fuel + 1, items =>
    let free := (items.filter fun i => i.before = 0 && !i.done).map Item.name
    let (out, items) := drain (items.length + 1) free items
    let out := out.map Sum.inl
    if items.all Item.done then out
    else
      let (loop, items) := breakLoop (items.length * items.length + 2) [] items
      out ++ Sum.inr loop :: inOrder fuel items

end Items

/-- Writes the items of pairs so that the first item of each pair stands before the second one. -/
def relationOrder : Service :=
  withOptions { letters := "" } 1 fun o c p =>
    match o.operands with
    | _ :: extra :: _ => c.refuse ("extra operand ".toList ++ cited extra) 1 p
    | operands =>
      let input := operands.head?.getD ['-']
      match take p input with
      | .error fault =>
        c.fail (named input ++ (if fault = .isDirectory then ": read error".toList else []) ++ told fault) 1 p
      | .ok (p, t) =>
        let words := fieldsOf none t
        if words.length % 2 ≠ 0 then
          c.fail (named input ++ ": input contains an odd number of tokens".toList) 1 p
        else
          let items := (Text.chunksOf 2 words).foldl (fun items pair =>
            match pair with
            | [a, b] => Items.relate items a b
            | _ => items) ([] : Items)
          let out := Items.inOrder (words.length * words.length + 1) items
          let p := out.foldl (fun p part =>
            match part with
            | .inl name => p.write 1 (name ++ ['\n'])
            | .inr loop =>
              loop.foldl (fun p name => c.complain name p)
                (c.complain (named input ++ ": input contains a loop:".toList) p)) p
          ends (statusOf (out.all Sum.isLeft)) p

end Flowchart.Tool
