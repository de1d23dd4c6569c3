import Flowchart.Tool.Lines

/-!
The tool that shows octets: as numbers in some base, as characters or by name, so many in a row, with the
offset of the first one before them. Rows like the row before are left out.
-/

namespace Flowchart.Tool

open Files

/-- How a number in a dump is written. -/
inductive DumpForm where
  | signed
  | unsigned
  | octal
  | hex
  | character
  | name
deriving DecidableEq

/-- How the octets of a row are shown: as what, how many of them make up one, and whether they are shown as
characters behind the row too. -/
structure DumpKind where
  form : DumpForm
  size : Nat
  tail : Bool
deriving DecidableEq

namespace DumpKind

/-- The width of what is written at most. -/
def width (k : DumpKind) : Nat :=
  match k.form with
  | .character | .name => 3
  | .hex => 2 * k.size
  | .octal => (8 * k.size + 2) / 3
  | .unsigned => (Text.decimal (Nat.pow 2 (8 * k.size) - 1)).length
  | .signed => (Text.decimal (Nat.pow 2 (8 * k.size - 1))).length + 1

/-- The names of the octets that are not shown as themselves. -/
def names : List String :=
  ["nul", "soh", "stx", "etx", "eot", "enq", "ack", "bel", "bs", "ht", "nl", "vt", "ff", "cr", "so", "si", "dle", "dc1",
   "dc2", "dc3", "dc4", "nak", "syn", "etb", "can", "em", "sub", "esc", "fs", "gs", "rs", "us", "sp"]

def zeroed (width : Nat) (digits : List Char) : Text := List.replicate (width - digits.length) '0' ++ digits

/-- Writes the number that some octets make up. -/
def shown (k : DumpKind) (n : Nat) : Text :=
  match k.form with
  | .hex => zeroed k.width (Nat.toDigits 16 n)
  | .octal => zeroed k.width (Nat.toDigits 8 n)
  | .unsigned => Text.decimal n
  | .signed => if n < Nat.pow 2 (8 * k.size - 1) then Text.decimal n else '-' :: Text.decimal (Nat.pow 2 (8 * k.size) - n)
  | .name =>
    let n := n % 128
    if n = 127 then "del".toList else (names[n]?.map String.toList).getD [Char.ofNat n]
  | .character =>
    let c := Char.ofNat n
    if n = 0 then ['\\', '0']
    else match escapeLetters.lookup c with
      | some letter => ['\\', letter]
      | none => if isPrintable c then [c] else zeroed 3 (Nat.toDigits 8 n)

end DumpKind

/-- Reads the kinds that a text of types asks for. -/
def dumpKinds (whole : Text) : Nat → Text → Except Text (List DumpKind)
  | 0, _ | _, [] => .ok []
  | fuel + 1, c :: rest => do
    let form? := [('d', DumpForm.signed), ('u', .unsigned), ('o', .octal), ('x', .hex)].lookup c
    let wrong : Text := "invalid character '".toList ++ c :: "' in type string ".toList ++ quoted whole
    let (k, rest) ← match form?, rest with
      | some form, letter :: more =>
        match [('C', 1), ('S', 2), ('I', 4), ('L', 8)].lookup letter with
        | some size => .ok (DumpKind.mk form size false, more)
        | none =>
          let digits := rest.takeWhile Char.isDigit
          let size := if digits = [] then 4 else Text.natOfDigits 10 digits
          if [1, 2, 4, 8].contains size then .ok (DumpKind.mk form size false, rest.drop digits.length)
          else .error ("invalid type string ".toList ++ quoted whole ++ ";\nthis system doesn't provide a ".toList
            ++ Text.decimal size ++ "-byte integral type".toList)
      | some form, [] => .ok (⟨form, 4, false⟩, [])
      | none, rest =>
        if c = 'c' then .ok (⟨.character, 1, false⟩, rest)
        else if c = 'a' then .ok (⟨.name, 1, false⟩, rest)
        else .error wrong
    let tail := rest.head? = some 'z'
    return { k with tail } :: (← dumpKinds whole fuel (if tail then rest.tail else rest))

/-- The number that octets make up; in most dumps the first one is lowest. -/
def dumpedNumber (highFirst : Bool) (octets : List UInt8) : Nat :=
  (if highFirst then octets else octets.reverse).foldl (fun n b => n * 256 + b.toNat) 0

structure DumpRow where
  highFirst : Bool
  /-- How many octets a full row shows. -/
  size : Nat
  /-- The width of the widest kind. -/
  width : Nat

/-- One kind of a row. What is short of the widest kind is made up by blanks between its numbers. -/
def DumpRow.line (r : DumpRow) (octets : List UInt8) (k : DumpKind) : Text :=
  let fields := r.size / k.size
  let spare := r.width - k.width * fields
  let padded := octets ++ List.replicate (r.size - octets.length) 0
  let used := (octets.length + k.size - 1) / k.size
  let numbers := (List.range used).flatMap fun n =>
    let before := spare * (fields - n) / fields
    let behind := spare * (fields - n - 1) / fields
    right (k.width + before - behind) (k.shown (dumpedNumber r.highFirst ((padded.drop (n * k.size)).take k.size)))
  let trailer := if k.tail then
      let unused := fields - used
      List.replicate (unused * k.width + spare * unused / fields) ' ' ++ "  >".toList
        ++ (octets.map fun b => let c := Char.ofNat b.toNat; if isPrintable c then c else '.') ++ ['<']
    else []
  numbers ++ trailer

/-- Rows with the offsets before them; a star stands for rows that are like the row before. -/
def dumpedRows (r : DumpRow) (kinds : List DumpKind) (all : Bool) (address : Nat → Text) (blank : Nat) (offset : Nat)
    (last : Option (List UInt8)) (starred : Bool) : List (List UInt8) → Text
  | [] => []
  | octets :: more =>
    let next := offset + octets.length
    if !all && octets.length = r.size && last = some octets then
      (if starred then [] else ['*', '\n']) ++ dumpedRows r kinds all address blank next last true more
    else
      ((kinds.zipIdx.map fun (k, n) =>
        (if n = 0 then address offset else List.replicate blank ' ') ++ r.line octets k ++ ['\n']).flatten)
      ++ dumpedRows r kinds all address blank next (some octets) false more

/-- The parts of some octets with so many in each. -/
def octetRows (n : Nat) (b : List UInt8) : List (List UInt8) := Text.chunksOf n b

/-- Reads a number of octets: decimal, octal behind a zero, or hexadecimal. -/
def octetCount? (t : Text) : Option Nat :=
  match t with
  | '0' :: x :: digits =>
    if x = 'x' ∨ x = 'X' then
      if digits ≠ [] ∧ digits.all Text.isHexDigit then some (Text.natOfDigits 16 digits) else none
    else if (x :: digits).all fun c => '0' ≤ c && c ≤ '7' then some (Text.natOfDigits 8 (x :: digits)) else amount? t
  | t => amount? t

/-- The kinds that letters stand for. -/
def kindLetters : List (Char × DumpKind) :=
  [('a', ⟨.name, 1, false⟩), ('b', ⟨.octal, 1, false⟩), ('c', ⟨.character, 1, false⟩), ('d', ⟨.unsigned, 2, false⟩),
   ('h', ⟨.hex, 2, false⟩), ('i', ⟨.signed, 4, false⟩), ('l', ⟨.signed, 8, false⟩), ('o', ⟨.octal, 2, false⟩),
   ('s', ⟨.signed, 2, false⟩), ('x', ⟨.hex, 2, false⟩), ('B', ⟨.octal, 2, false⟩), ('H', ⟨.hex, 4, false⟩),
   ('I', ⟨.signed, 8, false⟩), ('L', ⟨.signed, 8, false⟩), ('O', ⟨.octal, 4, false⟩), ('X', ⟨.hex, 4, false⟩)]

/-- Shows the octets of its inputs. -/
def dump : Service :=
  withOptions
    { letters := "vabcdhilosxBHILOX", valued := "AjNtε", loose := "w"
      long := [("address-radix", 'A'), ("skip-bytes", 'j'), ("read-bytes", 'N'), ("format", 't'),
        ("output-duplicates", 'v'), ("width", 'w'), ("endian", 'ε')] } 1 fun o c p =>
    let kinds : Except Text (List DumpKind) := o.given.foldlM (fun kinds (letter, value) =>
      if letter = 't' then (dumpKinds value (value.length + 1) value).map (kinds ++ ·)
      else .ok (kinds ++ (kindLetters.lookup letter).toList)) []
    let wrongCount := "jN".toList.find? fun letter => (o.value? letter).any fun t => (octetCount? t).isNone
    let radix := (o.value? 'A').bind List.head?
    match kinds, wrongCount with
    | .error message, _ => c.fail message 1 p
    | .ok _, some letter => c.fail ("invalid -".toList ++ letter :: " argument ".toList ++ quoted ((o.value? letter).getD [])) 1 p
    | .ok kinds, none =>
      if radix.any fun r => !"doxn".toList.contains r then
        c.fail ("invalid output address radix '".toList ++ radix.toList
          ++ "'; it must be one character from [doxn]".toList) 1 p
      else
        let kinds := if kinds = [] then [⟨.octal, 2, false⟩] else kinds
        -- an offset may stand behind the name of a file
        let (operands, offset) := match o.operands.getLast? with
          | some ('+' :: digits) =>
            if digits ≠ [] ∧ digits.all Char.isDigit ∧ o.operands.length ≤ 2 then
              (o.operands.dropLast, Text.natOfDigits 8 digits)
            else (o.operands, 0)
          | _ => (o.operands, 0)
        let skip := ((o.value? 'j').bind octetCount?).getD offset
        let count := (o.value? 'N').bind octetCount?
        let (p, t, fine) := (inputs operands).foldl (fun (p, t, fine) operand =>
          if count.any fun n => decide (skip + n ≤ t.length) then (p, t, fine)
          else match take p operand with
            | .ok (p, more) => (p, t ++ more, fine)
            | .error fault => (c.complain (unreadable operand fault) p, t, false)) (p, ([] : Text), true)
        if t.length < skip then c.fail "cannot skip past end of combined input".toList 1 p
        else
          let b := Text.octets (t.drop skip)
          let b := match count with
            | some n => b.take n
            | none => b
          let largest := kinds.foldl (fun n k => max n k.size) 1
          let (size, p) := match o.value? 'w' with
            | none => (16, p)
            | some t =>
              let n := if t = [] then 32 else (natural? t).getD 0
              if n ≠ 0 ∧ n % largest = 0 then (n, p)
              else (largest, c.complain ("warning: invalid width ".toList ++ Text.decimal n ++ "; using ".toList
                ++ Text.decimal largest ++ " instead".toList) p)
          let row : DumpRow :=
            { highFirst := o.value? 'ε' = some "big".toList
              size
              width := kinds.foldl (fun n k => max n ((k.width + 1) * (size / k.size))) 0 }
          let address (n : Nat) : Text :=
            match radix with
            | some 'n' => []
            | some 'd' => DumpKind.zeroed 7 (Text.decimal n)
            | some 'x' => DumpKind.zeroed 6 (Nat.toDigits 16 n)
            | _ => DumpKind.zeroed 7 (Nat.toDigits 8 n)
          let blank := if radix = some 'n' then 0 else if radix = some 'x' then 6 else 7
          let allFailed := !fine && t = [] && (inputs operands).all fun operand => (p.look operand).toOption.isNone
          if allFailed then ends 1 p
          else
            let rows := dumpedRows row kinds (o.has 'v') address blank skip none false (octetRows size b)
            let last := if radix = some 'n' then [] else address (skip + b.length) ++ ['\n']
            ends (statusOf fine) (p.write 1 (rows ++ last))

end Flowchart.Tool
