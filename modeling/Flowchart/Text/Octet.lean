import Flowchart.Text.Utf8

/-!
Texts of octets. A shell and its tools know nothing of characters: a text there is a sequence of bytes, and
each of its characters stands for one of them. `spread` takes a text apart into such octets and `gather` puts
it together again, with replacement characters where the octets are not UTF-8.
-/

namespace Flowchart.Text

/-- The bytes that the characters of a text stand for. -/
def octets (t : Text) : Bytes := t.map fun c => UInt8.ofNat c.toNat

/-- The text whose characters stand for some bytes. -/
def ofOctets (b : Bytes) : Text := b.map fun b => Char.ofNat b.toNat

/-- The bytes of a text as octets. -/
def spread (t : Text) : Text := ofOctets (encode t)

/-- The text that octets are the bytes of. -/
def gather (t : Text) : Text := lossy (octets t)

/-- The parts of a list with so many elements each. -/
def chunksOf {α : Type} (n : Nat) : List α → List (List α)
  | [] => []
  | x :: xs => if n = 0 then [] else (x :: xs.take (n - 1)) :: chunksOf n (xs.drop (n - 1))
termination_by xs => xs.length
decreasing_by
  simp only [List.length_drop, List.length_cons]
  omega

end Flowchart.Text
