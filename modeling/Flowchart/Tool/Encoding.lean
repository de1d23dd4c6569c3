import Flowchart.Tool.Lines

/-!
Tools that write octets as digits and read them back.
-/

namespace Flowchart.Tool

open Files

/-- How octets are written as digits: which digits there are, how many bits each stands for, and how many
make up a group. A group that is not full is filled up with marks. -/
structure Alphabet where
  digits : List Char
  bits : Nat
  group : Nat

namespace Alphabet

/-- The letters from one to another. -/
def run (first last : Char) : List Char := (List.range (last.toNat + 1 - first.toNat)).map fun k => Char.ofNat (first.toNat + k)

/-- Letters, digits and two signs, six bits each. -/
def base64 : Alphabet := ⟨run 'A' 'Z' ++ run 'a' 'z' ++ run '0' '9' ++ ['+', '/'], 6, 4⟩

/-- Capital letters and digits, five bits each. -/
def base32 : Alphabet := ⟨run 'A' 'Z' ++ run '2' '7', 5, 8⟩

/-- How many octets a group stands for. -/
def size (a : Alphabet) : Nat := a.group * a.bits / 8

/-- The number that octets make up, the first one highest. -/
def numberOf (octets : Text) : Nat := octets.foldl (fun n c => n * 256 + c.toNat) 0

def encodeGroup (a : Alphabet) (octets : Text) : Text :=
  let n := numberOf (octets ++ List.replicate (a.size - octets.length) '\x00')
  let used := (octets.length * 8 + a.bits - 1) / a.bits
  (List.range a.group).map fun k =>
    if k < used then a.digits.getD (n / Nat.pow 2 (a.bits * (a.group - 1 - k)) % Nat.pow 2 a.bits) '=' else '='

def encode (a : Alphabet) (octets : Text) : Text := (Text.chunksOf a.size octets).flatMap a.encodeGroup

/-- Reads a group: its octets, and whether it is written as it should be. Those before a fault are read. -/
def decodeGroup (a : Alphabet) (t : Text) : Text × Bool :=
  let values := (t.takeWhile a.digits.contains).map a.digits.idxOf
  let count := values.length * a.bits / 8
  let n := values.foldl (fun n d => n * Nat.pow 2 a.bits + d) 0 / Nat.pow 2 (values.length * a.bits - count * 8)
  let octets := (List.range count).map fun k => Char.ofNat (n / Nat.pow 256 (count - 1 - k) % 256)
  let full := t.length = a.group
  let fine := full && (t.drop values.length).all (· = '=') && count ≠ 0 &&
    values.length = (count * 8 + a.bits - 1) / a.bits
  (if full ∨ a.group ≤ 4 then octets else [], fine)

/-- Reads groups up to the first one with a fault. -/
def decodeGroups (a : Alphabet) : List Text → Text × Bool
  | [] => ([], true)
  | group :: more =>
    let (octets, fine) := a.decodeGroup group
    if fine then
      let (rest, fine) := a.decodeGroups more
      (octets ++ rest, fine)
    else (octets, false)

/-- Reads digits. Line feeds between them mean nothing. -/
def decode (a : Alphabet) (t : Text) : Text × Bool := a.decodeGroups (Text.chunksOf a.group (t.filter (· ≠ '\n')))

end Alphabet

def digitOptions : Known :=
  { letters := "di", valued := "w", long := [("decode", 'd'), ("ignore-garbage", 'i'), ("wrap", 'w')] }

/-- Writes an input as digits, or reads it back. -/
def inDigits (a : Alphabet) : Service :=
  withOptions digitOptions 1 fun o c p =>
    match (o.value? 'w').filter fun t => (natural? t).isNone, o.operands with
    | some wrong, _ => c.fail ("invalid wrap size: ".toList ++ quoted wrong) 1 p
    | none, _ :: extra :: _ => c.refuse ("extra operand ".toList ++ quoted extra) 1 p
    | none, operands =>
      let operand := operands.head?.getD ['-']
      match take p operand with
      | .error .isDirectory => c.fail ("read error".toList ++ told .isDirectory) 1 p
      | .error fault => c.fail (unreadable operand fault) 1 p
      | .ok (p, t) =>
        if o.has 'd' then
          let t := if o.has 'i' then t.filter fun d => a.digits.contains d || d = '=' else t
          let (octets, fine) := a.decode t
          let p := p.write 1 octets
          if fine then ends 0 p else c.fail "invalid input".toList 1 p
        else
          let width := ((o.value? 'w').bind natural?).getD 76
          let digits := a.encode t
          ends 0 (p.write 1 (if width = 0 then digits else joined (Text.chunksOf width digits)))

end Flowchart.Tool
