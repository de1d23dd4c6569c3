import Flowchart.Shell.Condition
import Flowchart.Shell.Format
import Flowchart.Tool.Listing

/-!
Tools that work on the words that they are given: they write them, take paths apart, count, test conditions
and send signals.
-/

namespace Flowchart.Tool

open Files

/-! ### Arguments -/

/-- Ends with a status whatever it is called with. -/
def constant (status : Nat) : Service := fun _ p => ends status p

/-- Writes its arguments. Options stand before them and are made of the letters `n`, `e` and `E`. -/
def echo : Service := fun c p =>
  let isOption := fun a : Text => match a with
    | '-' :: d :: rest => (d :: rest).all fun c => "neE".toList.contains c
    | _ => false
  let options := (c.arguments.takeWhile isOption).flatMap List.tail
  let t := [' '].intercalate (c.arguments.dropWhile isOption)
  let escapes := (options.reverse.find? (· ≠ 'n')) = some 'e'
  let (t, stops) := if escapes then Shell.unescape .program (t.length + 1) t else (t, false)
  ends 0 (p.write 1 (t ++ if stops ∨ 'n' ∈ options then [] else ['\n']))

/-- Writes its arguments in a format. -/
def format : Service := fun c p =>
  match if c.arguments.head? = some ['-', '-'] then c.arguments.tail else c.arguments with
  | [] => c.refuse "missing operand".toList 1 p
  | f :: arguments =>
    let (r, left) := Shell.formatted .program quoted f arguments
    let p := r.complaints.foldl (fun p complaint => c.complain complaint p) (p.write 1 r.out)
    let p := match left, r.stops with
      | extra :: _, false => c.complain ("warning: ignoring excess arguments, starting with ".toList ++ quoted extra) p
      | _, _ => p
    ends (min r.status 1) p

/-- Writes variables of its environment. -/
def environment : Service :=
  withOptions { letters := "0" } 2 fun o c p =>
    let mark := if o.has '0' then '\x00' else '\n'
    if o.operands = [] then ends 0 (p.write 1 (c.environment.flatMap fun v => v.1 ++ '=' :: v.2 ++ [mark]))
    else
      let found := o.operands.map fun name => c.environment.lookup name
      ends (statusOf (found.all Option.isSome)) (p.write 1 (found.flatMap fun v => (v.map (· ++ [mark])).getD []))

/-- Writes the last names of paths, without a suffix if one is given. -/
def baseName : Service :=
  withLeadingOptions
    { letters := "az", valued := "s", long := [("suffix", 's'), ("multiple", 'a'), ("zero", 'z')] } 1 fun o c p =>
    let mark := if o.has 'z' then '\x00' else '\n'
    let without (suffix name : Text) : Text :=
      if suffix.length < name.length ∧ suffix.reverse.isPrefixOf name.reverse then
        name.take (name.length - suffix.length)
      else name
    let write (p : Process) (suffix path : Text) : Process := p.write 1 (without suffix (lastName path) ++ [mark])
    match o.operands with
    | [] => c.refuse "missing operand".toList 1 p
    | operands =>
      if o.has 'a' || o.has 's' then
        ends 0 (operands.foldl (fun p path => write p ((o.value? 's').getD []) path) p)
      else match operands with
        | [path] => ends 0 (write p [] path)
        | [path, suffix] => ends 0 (write p suffix path)
        | operands => c.refuse ("extra operand ".toList ++ quoted ((operands[2]?).getD [])) 1 p

/-- Writes the paths of the directories that paths are in. -/
def directoryName : Service :=
  withOptions { letters := "z", long := [("zero", 'z')] } 1 fun o c p =>
    let mark := if o.has 'z' then '\x00' else '\n'
    if o.operands = [] then c.refuse "missing operand".toList 1 p
    else ends 0 (o.operands.foldl (fun p path => p.write 1 (directoryOf path ++ [mark])) p)

/-- Writes the path of the directory of a process. -/
def currentDirectory : Service := fun _ p =>
  let path := dropSlashes p.directory
  ends 0 (p.write 1 ((if path.head? = some '/' then path else '/' :: path) ++ ['\n']))

/-- Lets time pass, of which nothing is seen. -/
def sleep : Service :=
  withOptions { letters := "" } 1 fun o c p =>
    let isInterval := fun t : Text =>
      match Quantity.read? t with
      | some (q, rest) => !q.isNegative && [[], ['s'], ['m'], ['h'], ['d']].contains rest
      | none => false
    let wrong := o.operands.filter (!isInterval ·)
    match wrong with
    | [] => if o.operands = [] then c.refuse "missing operand".toList 1 p else ends 0 p
    | wrong =>
      let p := wrong.dropLast.foldl (fun p t => c.complain ("invalid time interval ".toList ++ quoted t) p) p
      c.refuse ("invalid time interval ".toList ++ quoted ((wrong.getLast?).getD [])) 1 p

/-! ### Numbers in a row -/

/-- A decimal number: its digits as a whole number, and how many of them stand behind the point. -/
structure Decimal where
  digits : Int
  places : Nat

/-- Reads a decimal number, without an exponent. -/
def Decimal.read? (t : Text) : Option Decimal :=
  let t := t.dropWhile Text.isSpace
  let (negative, t) := match t with
    | '-' :: rest => (true, rest)
    | '+' :: rest => (false, rest)
    | t => (false, t)
  let whole := t.takeWhile Char.isDigit
  match t.drop whole.length with
  | [] => if whole = [] then none else some ⟨sign negative (Text.natOfDigits 10 whole), 0⟩
  | '.' :: behind =>
    if behind.all Char.isDigit ∧ (whole ≠ [] ∨ behind ≠ []) then
      some ⟨sign negative (Text.natOfDigits 10 (whole ++ behind)), behind.length⟩
    else none
  | _ => none
where
  /-- A number with a sign. -/
  sign (negative : Bool) (n : Nat) : Int := if negative then -n else n

/-- A decimal number with so many places, at least as many as it has. -/
def Decimal.scaled (d : Decimal) (places : Nat) : Int := d.digits * Int.pow 10 (places - d.places)

/-- The text of a number that stands for so many places. -/
def placed (places : Nat) (n : Int) : Text := (if n < 0 then ['-'] else []) ++ Quantity.pointed places n.natAbs

/-- What a format of one number is made of: whether it has one directive, and nothing wrong. -/
def formatFault? (f : Text) : Option Text :=
  let rec look : Nat → Bool → Text → Option Text
    | 0, _, _ => none
    | _ + 1, true, [] => none
    | _ + 1, false, [] => some ("format ".toList ++ quoted f ++ " has no % directive".toList)
    | fuel + 1, found, '%' :: '%' :: rest => look fuel found rest
    | fuel + 1, found, '%' :: rest =>
      if found then some ("format ".toList ++ quoted f ++ " has too many % directives".toList)
      else
        let rest := rest.dropWhile fun c => "-+#0 '".toList.contains c
        let rest := rest.dropWhile Char.isDigit
        let rest := if rest.head? = some '.' then rest.tail.dropWhile Char.isDigit else rest
        let rest := if rest.head? = some 'L' then rest.tail else rest
        match rest with
        | [] => some ("format ".toList ++ quoted f ++ " ends in %".toList)
        | c :: rest =>
          if "aefgAEFG".toList.contains c then look fuel true rest
          else some ("format ".toList ++ quoted f ++ " has unknown %".toList ++ c :: " directive".toList)
    | fuel + 1, found, _ :: rest => look fuel found rest
  look (f.length + 1) false f

/-- How many numbers are written in a row at most. -/
def maxNumbers : Nat := 1000000

/-- Writes the numbers from one to another. -/
def numbers : Service := fun c p =>
  let isNumber := fun a : Text => match a with
    | '-' :: d :: _ => d.isDigit || d == '.'
    | _ => false
  let before := c.arguments.takeWhile (!isNumber ·)
  let known : Known :=
    { letters := "w", valued := "fs", long := [("equal-width", 'w'), ("format", 'f'), ("separator", 's')] }
  let onlyOptions : Bool := match readOptions known true {} (before.length + 1) before with
    | .ok o => o.operands.isEmpty
    | .error _ => false
  let arguments := if onlyOptions && !before.contains ['-', '-'] then before ++ ['-', '-'] :: c.arguments.drop before.length
    else c.arguments
  withLeadingOptions known 1
    (fun o c p =>
      let read (t : Text) : Option Decimal := Decimal.read? t <|>
        match Quantity.read? t with
        | some (.finite negative n 1, []) => some ⟨if negative then -(n : Int) else n, 0⟩
        | _ => none
      match o.operands.find? fun t => (read t).isNone, o.operands.filterMap read, (o.value? 'f').bind formatFault? with
      | _, _, some message => c.fail message 1 p
      | _, [], none =>
        match o.operands with
        | wrong :: _ => c.refuse ("invalid floating point argument: ".toList ++ quoted wrong) 1 p
        | [] => c.refuse "missing operand".toList 1 p
      | wrong?, ds, none =>
        if 3 < o.operands.length then c.refuse ("extra operand ".toList ++ quoted ((o.operands[3]?).getD [])) 1 p
        else if let some wrong := wrong? then c.refuse ("invalid floating point argument: ".toList ++ quoted wrong) 1 p
        else
          let one : Decimal := ⟨1, 0⟩
          let (first, increment, last) := match ds with
            | [last] => (one, one, last)
            | [first, last] => (first, one, last)
            | first :: increment :: last :: _ => (first, increment, last)
            | [] => (one, one, one)
          let places := max first.places increment.places
          let all := max places last.places
          let (a, s, b) := (first.scaled all, increment.scaled all, last.scaled all)
          if s = 0 then c.refuse ("invalid Zero increment value: ".toList ++ quoted ((o.operands[1]?).getD [])) 1 p
          else if o.has 'w' ∧ o.has 'f' then
            c.refuse "format string may not be specified when printing equal width strings".toList 1 p
          else
            let count := min ((b - a) / s + 1).toNat maxNumbers
            let count := if (b - a) * s < 0 then 0 else count
            let digits (k : Nat) : Text := placed places ((a + s * k) / Int.pow 10 (all - places))
            let width := max (digits 0).length (digits (count - 1)).length
            let width := max width (placed places (b / Int.pow 10 (all - places))).length
            let shown (k : Nat) : Text :=
              match o.value? 'f' with
              | some f =>
                let f := f.filter (· ≠ 'L')
                (Shell.formatted .program quoted f [placed all (a + s * k)]).1.out
              | none =>
                let t := digits k
                if o.has 'w' then
                  let bare := if t.head? = some '-' then t.tail else t
                  let sign := if t.head? = some '-' then ['-'] else []
                  sign ++ List.replicate (width - t.length) '0' ++ bare
                else t
            let rows := (List.range count).map shown
            ends 0 (if rows = [] then p else p.write 1 (((o.value? 's').getD ['\n']).intercalate rows ++ ['\n'])))
    { c with arguments := arguments } p

/-! ### Conditions -/

/-- What stands at a path of a process. -/
def subjectAt (p : Process) (path : Text) : Option Shell.Condition.Subject :=
  match Process.device? path with
  | some descriptor =>
    (p.stream? descriptor).map fun n => { kind := .device, identity := "descriptor ".toList ++ Text.decimal n }
  | none =>
    match p.look path with
    | .error _ => none
    | .ok (_, .file n) =>
      let f := p.tree.fileNumbered n
      some ⟨.file, f.content.length, f.mode, some f.written, "file ".toList ++ Text.decimal n⟩
    | .ok (place, .directory mode) =>
      some { kind := .directory, size := directorySize, mode, written := some Tree.startTime, identity := place.path }
    | .ok (place, _) => some { kind := .device, identity := place.path }

def viewOf (p : Process) : Shell.Condition.View where
  look := subjectAt p
  isLink path := match p.look path false with
    | .ok (_, .link _) => true
    | _ => false

def condition : Service := fun c p =>
  let bracket := lastName c.name = ['[']
  if bracket ∧ c.arguments.getLast? ≠ some [']'] then c.fail "missing ']'".toList 2 p
  else match Shell.Condition.test (viewOf p) (if bracket then c.arguments.dropLast else c.arguments) with
    | .ok answer => ends (statusOf answer) p
    | .error message => c.fail message 2 p

/-! ### Signals -/

def signal? (t : Text) : Option Nat :=
  match natural? t with
  | some n => if n ≤ 64 then some n else none
  | none =>
    let t := t.map Char.toUpper
    if t = "EXIT".toList then some 0
    else (signalNames.find? fun s => s.2 = t ∨ "SIG".toList ++ s.2 = t).map Prod.fst

def kill : Service := fun c p =>
  let send (signal : Nat) (targets : List Text) : Exit × Process :=
    forEach c p targets fun p target =>
      match integer? target with
      | none => .error ("failed to parse argument: ".toList ++ quoted target)
      | some n =>
        match p.world.send? n.toNat signal with
        | some w => .ok { p with world := w }
        | none => .error ('(' :: signedDigits n ++ "): No such process".toList)
  let byName (name : Text) (targets : List Text) : Exit × Process :=
    match signal? name with
    | some n => send n targets
    | none => c.fail ("unknown signal: ".toList ++ name) 1 p
  match c.arguments with
  | [['-', 'l'], n] => ends 0 (p.write 1 (((natural? n).bind fun n => signalNames.lookup n).getD n ++ ['\n']))
  | ['-', 's'] :: name :: targets => byName name targets
  | ['-', '-'] :: targets => send 15 targets
  | ('-' :: name) :: targets => byName name targets
  | [] => c.fail "not enough arguments".toList 1 p
  | targets => send 15 targets

end Flowchart.Tool
