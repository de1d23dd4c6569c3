import Flowchart.Digest.Basic

/-!
Sums that tell whether octets have been changed by chance: a cyclic one and two plain ones.
-/

namespace Flowchart.Digest.Sum

/-- The remainder of a sum when a bit more is taken in. -/
def shifted (sum : UInt32) : UInt32 := if sum &&& 0x80000000 ≠ 0 then (sum <<< 1) ^^^ 0x04c11db7 else sum <<< 1

/-- Takes an octet into a cyclic sum. -/
def add (sum : UInt32) (b : UInt8) : UInt32 := (List.range 8).foldl (fun sum _ => shifted sum) (sum ^^^ (b.toUInt32 <<< 24))

/-- The octets of a length, the lowest first, without zeros at the end. -/
def lengthOctets (n : Nat) : Bytes := if n = 0 then [] else UInt8.ofNat n :: lengthOctets (n / 256)

/-- The cyclic sum of octets and their number. -/
def cyclic (b : Bytes) : Nat := (~~~(b ++ lengthOctets b.length).foldl add 0).toNat

/-- The sum of octets in sixteen bits that are turned before each. -/
def turned (b : Bytes) : Nat := b.foldl (fun sum b => (sum / 2 + sum % 2 * 32768 + b.toNat) % 65536) 0

/-- The sum of octets in sixteen bits, where what is above them is added to them. -/
def folded (b : Bytes) : Nat :=
  let sum := b.foldl (fun sum b => sum + b.toNat) 0
  let once := sum % 65536 + sum % Nat.pow 2 32 / 65536
  once % 65536 + once / 65536

end Flowchart.Digest.Sum
