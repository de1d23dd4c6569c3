import Flowchart.Digest.Basic

/-!
The digests of the secure hash standard. Each block is drawn out to a row of words that are mixed in one by
one. The numbers of the later ones are the first bits behind the point of roots of the first primes.
-/

namespace Flowchart.Digest.Sha

/-! ### Roots -/

/-- The greatest number of so many bits whose power is not above a number. -/
def root (power bits n : Nat) : Nat :=
  (List.range bits).reverse.foldl (fun r bit => if Nat.pow (r + Nat.pow 2 bit) power ≤ n then r + Nat.pow 2 bit else r) 0

def primes (count : Nat) : List Nat :=
  ((List.range 410).filter fun n => 2 ≤ n && (List.range n).all fun d => d < 2 || n % d ≠ 0).take count

/-- The first bits behind the point of a root of a number. -/
def rootBits (power bits n : Nat) : Nat := root power (bits + 6) (n * Nat.pow 2 (power * bits)) % Nat.pow 2 bits

/-! ### Words of 32 bits -/

/-- One step of the digest of twenty octets: its five words, a word of the block and its number. -/
def step1 (s : Array UInt32) (w : UInt32 × Nat) : Array UInt32 :=
  match s.toList with
  | [a, b, c, d, e] =>
    let (mixed, added) : UInt32 × UInt32 := match w.2 / 20 with
      | 0 => ((b &&& c) ||| (~~~b &&& d), 0x5a827999)
      | 1 => (b ^^^ c ^^^ d, 0x6ed9eba1)
      | 2 => ((b &&& c) ||| (b &&& d) ||| (c &&& d), 0x8f1bbcdc)
      | _ => (b ^^^ c ^^^ d, 0xca62c1d6)
    #[rotateLeft a 5 + mixed + e + added + w.1, a, rotateLeft b 30, c, d]
  | _ => s

/-- Draws the words of a block out. -/
def drawn {α : Type} (next : Array α → Option α) : Nat → Array α → Array α
  | 0, ws => ws
  | count + 1, ws =>
    match next ws with
    | some w => drawn next count (ws.push w)
    | none => ws

/-- The word that is so many places before the end. -/
def back {α : Type} (ws : Array α) (n : Nat) : Option α := ws[ws.size - n]?

def sums {α : Type} [Add α] (s t : Array α) : Array α := s.zipWith (· + ·) t

/-- Mixes a block into the digest of twenty octets. -/
def mix1 (s : Array UInt32) (block : Bytes) : Array UInt32 :=
  let words := ((Text.chunksOf 4 block).map fun b => UInt32.ofNat (ofBigEndian b)).toArray
  let words := drawn (fun ws => do
    return rotateLeft ((← back ws 3) ^^^ (← back ws 8) ^^^ (← back ws 14) ^^^ (← back ws 16)) 1) 64 words
  sums s ((words.toList.zipIdx).foldl step1 s)

/-- The words of 32 bits as octets. -/
def octetsOf (s : Array UInt32) : Bytes := s.toList.flatMap fun w => bigEndian 4 w.toNat

def sha1 (message : Bytes) : Bytes :=
  octetsOf ((Text.chunksOf 64 (padded 64 8 bigEndian message)).foldl mix1
    #[0x67452301, 0xefcdab89, 0x98badcfe, 0x10325476, 0xc3d2e1f0])

/-- The numbers added in the steps with words of 32 bits. -/
def cubes32 : Array UInt32 := ((primes 64).map fun p => UInt32.ofNat (rootBits 3 32 p)).toArray

/-- One step with words of 32 bits: a word of the block and the number added to it. -/
def step32 (s : Array UInt32) (w : UInt32 × UInt32) : Array UInt32 :=
  match s.toList with
  | [a, b, c, d, e, f, g, h] =>
    let t := h + (rotateRight e 6 ^^^ rotateRight e 11 ^^^ rotateRight e 25) + ((e &&& f) ^^^ (~~~e &&& g)) + w.2 + w.1
    let u := (rotateRight a 2 ^^^ rotateRight a 13 ^^^ rotateRight a 22) + ((a &&& b) ^^^ (a &&& c) ^^^ (b &&& c))
    #[t + u, a, b, c, d + t, e, f, g]
  | _ => s

/-- Mixes a block in with words of 32 bits. -/
def mix32 (s : Array UInt32) (block : Bytes) : Array UInt32 :=
  let words := ((Text.chunksOf 4 block).map fun b => UInt32.ofNat (ofBigEndian b)).toArray
  let words := drawn (fun ws => do
    let x ← back ws 15
    let y ← back ws 2
    return (← back ws 16) + (rotateRight x 7 ^^^ rotateRight x 18 ^^^ (x >>> 3)) + (← back ws 7)
      + (rotateRight y 17 ^^^ rotateRight y 19 ^^^ (y >>> 10))) 48 words
  sums s ((words.zip cubes32).toList.foldl step32 s)

/-- The digest of a message with words of 32 bits that start in some way. -/
def digest32 (start : Array UInt32) (message : Bytes) : Bytes :=
  octetsOf ((Text.chunksOf 64 (padded 64 8 bigEndian message)).foldl mix32 start)

def sha256 (message : Bytes) : Bytes :=
  digest32 ((primes 8).map fun p => UInt32.ofNat (rootBits 2 32 p)).toArray message

def sha224 (message : Bytes) : Bytes :=
  (digest32 (((primes 16).drop 8).map fun p => UInt32.ofNat (rootBits 2 64 p)).toArray message).take 28

/-! ### Words of 64 bits -/

/-- The numbers added in the steps with words of 64 bits. -/
def cubes64 : Array UInt64 := ((primes 80).map fun p => UInt64.ofNat (rootBits 3 64 p)).toArray

/-- One step with words of 64 bits: a word of the block and the number added to it. -/
def step64 (s : Array UInt64) (w : UInt64 × UInt64) : Array UInt64 :=
  match s.toList with
  | [a, b, c, d, e, f, g, h] =>
    let t := h + (rotateRight64 e 14 ^^^ rotateRight64 e 18 ^^^ rotateRight64 e 41) + ((e &&& f) ^^^ (~~~e &&& g))
      + w.2 + w.1
    let u := (rotateRight64 a 28 ^^^ rotateRight64 a 34 ^^^ rotateRight64 a 39)
      + ((a &&& b) ^^^ (a &&& c) ^^^ (b &&& c))
    #[t + u, a, b, c, d + t, e, f, g]
  | _ => s

/-- Mixes a block in with words of 64 bits. -/
def mix64 (s : Array UInt64) (block : Bytes) : Array UInt64 :=
  let words := ((Text.chunksOf 8 block).map fun b => UInt64.ofNat (ofBigEndian b)).toArray
  let words := drawn (fun ws => do
    let x ← back ws 15
    let y ← back ws 2
    return (← back ws 16) + (rotateRight64 x 1 ^^^ rotateRight64 x 8 ^^^ (x >>> 7)) + (← back ws 7)
      + (rotateRight64 y 19 ^^^ rotateRight64 y 61 ^^^ (y >>> 6))) 64 words
  sums s ((words.zip cubes64).toList.foldl step64 s)

/-- The digest of a message with words of 64 bits that start in some way. -/
def digest64 (start : Array UInt64) (message : Bytes) : Bytes :=
  ((Text.chunksOf 128 (padded 128 16 bigEndian message)).foldl mix64 start).toList.flatMap fun w => bigEndian 8 w.toNat

/-- The words that the digest of 64 octets starts with. -/
def squares64 : List UInt64 := (primes 8).map fun p => UInt64.ofNat (rootBits 2 64 p)

def sha512 (message : Bytes) : Bytes := digest64 squares64.toArray message

def sha384 (message : Bytes) : Bytes :=
  (digest64 (((primes 16).drop 8).map fun p => UInt64.ofNat (rootBits 2 64 p)).toArray message).take 48

end Flowchart.Digest.Sha
