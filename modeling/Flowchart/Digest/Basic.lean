import Flowchart.Text.Octet

/-!
What digests of octets have in common: a message is filled up to whole blocks, with its length at the end,
each block is read as words, and the words that come out are written as octets.
-/

namespace Flowchart.Digest

/-- A number as so many octets, the lowest first. -/
def littleEndian : Nat → Nat → Bytes
  | 0, _ => []
  | size + 1, n => UInt8.ofNat n :: littleEndian size (n / 256)

/-- A number as so many octets, the highest first. -/
def bigEndian (size n : Nat) : Bytes := (littleEndian size n).reverse

/-- The number that octets make up, the lowest first. -/
def ofLittleEndian (b : Bytes) : Nat := b.foldr (fun b n => b.toNat + 256 * n) 0

/-- The number that octets make up, the highest first. -/
def ofBigEndian (b : Bytes) : Nat := b.foldl (fun n b => 256 * n + b.toNat) 0

/-- A message filled up to whole blocks: with a bit that is set, with zeros, and with its length in bits as a
number of so many octets. -/
def padded (block lengthSize : Nat) (number : Nat → Nat → Bytes) (message : Bytes) : Bytes :=
  let used := (message.length + 1 + lengthSize) % block
  message ++ 0x80 :: List.replicate ((block - used) % block) 0 ++ number lengthSize (8 * message.length)

def rotateLeft (x : UInt32) (n : UInt32) : UInt32 := (x <<< n) ||| (x >>> (32 - n))

def rotateRight (x : UInt32) (n : UInt32) : UInt32 := (x >>> n) ||| (x <<< (32 - n))

/-- A long word turned to the right. -/
def rotateRight64 (x : UInt64) (n : UInt64) : UInt64 := (x >>> n) ||| (x <<< (64 - n))

/-- The digits of octets, two for each. -/
def hexDigits (b : Bytes) : Text :=
  b.flatMap fun b =>
    let n := b.toNat
    Nat.toDigits 16 (n / 16) ++ Nat.toDigits 16 (n % 16)

end Flowchart.Digest
