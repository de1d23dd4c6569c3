import Flowchart.Number.Binary64
import Flowchart.Text.Digit

/-!
The text of a floating point number: the fewest decimal digits that read back as the same number and, of
those, the nearest, written without an exponent and always with a point. Of two numerals that are equally
near the greater is taken.
-/

namespace Flowchart.Binary64

open Text

/-- What rounds to a finite number that is not zero: twice its mantissa times `2 ^ scale` in the middle,
and bounds that belong to it if the mantissa is even. -/
structure Neighbourhood where
  middle : Nat
  low : Nat
  high : Nat
  scale : Int
  closed : Bool
deriving DecidableEq, Repr

/-- The neighbourhood of a finite number, in quarters of its last place. -/
def neighbourhood (mantissa : Nat) (exponent : Int) : Neighbourhood :=
  let below := if mantissa = Nat.pow 2 52 ∧ minExponent < exponent then 1 else 2
  { middle := 4 * mantissa, low := 4 * mantissa - below, high := 4 * mantissa + 2
    scale := exponent - 2, closed := mantissa % 2 = 0 }

/-- A number times `2 ^ scale` over a power of ten, as a fraction. -/
def overTen (n : Nat) (scale : Int) (place : Int) : Nat × Nat :=
  let (a, b) := Binary64.scale n 1 scale
  if 0 ≤ place then (a, b * Nat.pow 10 place.toNat) else (a * Nat.pow 10 (-place).toNat, b)

/-- Whether `digits * 10 ^ place` lies in a neighbourhood. -/
def Neighbourhood.holds (h : Neighbourhood) (digits : Nat) (place : Int) : Bool :=
  let (a, b) := overTen h.low h.scale place
  let (c, d) := overTen h.high h.scale place
  if h.closed then a ≤ digits * b && digits * d ≤ c else a < digits * b && digits * d < c

/-- The multiple of `10 ^ place` in a neighbourhood that is nearest to its middle, if there is one; the
greater of two that are equally near. -/
def Neighbourhood.nearest? (h : Neighbourhood) (place : Int) : Option Nat :=
  let (a, b) := overTen h.middle h.scale place
  let down := a / b
  let first := if 2 * (a % b) < b then down else down + 1
  let second := if first = down then down + 1 else down
  if h.holds first place then some first else if h.holds second place then some second else none

/-- The first place, going down from `place`, that has a multiple in a neighbourhood, and the multiple. -/
def Neighbourhood.shortest (h : Neighbourhood) : Nat → Int → Nat × Int
  | 0, place => (0, place)
  | fuel + 1, place =>
    match h.nearest? place with
    | some digits => (digits, place)
    | none => h.shortest fuel (place - 1)

/-- The decimal numeral of fewest digits that reads back as a finite number: `(digits, place)` stands for
`digits * 10 ^ place`. -/
def shortest (mantissa : Nat) (exponent : Int) : Nat × Int :=
  if mantissa = 0 then (0, 0)
  else
    let h := neighbourhood mantissa exponent
    -- a third of the binary length is at most the decimal length, and 30 places below it hold 17 digits
    let top := ((Nat.log2 mantissa : Int) + exponent) * 30103 / 100000 + 1
    h.shortest 40 top

/-- Zeros at the end of a numeral belong to its place. -/
def dropZeros : Nat → Nat → Int → Nat × Int
  | 0, digits, place => (digits, place)
  | fuel + 1, digits, place =>
    if digits ≠ 0 ∧ digits % 10 = 0 then dropZeros fuel (digits / 10) (place + 1) else (digits, place)

/-- A numeral with its point where the place says, and a digit on either side of it. -/
def positional (digits : Nat) (place : Int) : Text :=
  let ds := decimal digits
  if 0 ≤ place then
    (if digits = 0 then ['0'] else ds ++ List.replicate place.toNat '0') ++ ['.', '0']
  else
    let behind := (-place).toNat
    if behind < ds.length then
      ds.take (ds.length - behind) ++ '.' :: ds.drop (ds.length - behind)
    else '0' :: '.' :: (List.replicate (behind - ds.length) '0' ++ ds)

def toText : Binary64 → Text
  | nan => "NaN".toList
  | infinite negative => (if negative then ['-'] else []) ++ "inf".toList
  | finite negative mantissa exponent =>
    let (digits, place) := shortest mantissa exponent
    let (digits, place) := dropZeros 20 digits place
    (if negative then ['-'] else []) ++ positional digits place

end Flowchart.Binary64
