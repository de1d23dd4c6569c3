import Flowchart.Number.Decimal

/-!
The numbers that a machine calculates with, and what they stand for: each is one of the floating point numbers
of double precision.
-/

namespace Flowchart.Binary64

def toFloat : Binary64 → Float
  | nan => 0 / 0
  | infinite negative => if negative then -1 / 0 else 1 / 0
  | finite negative mantissa exponent =>
    let sign := if negative then Nat.pow 2 63 else 0
    let bits := if mantissa < Nat.pow 2 52 then mantissa
      else (exponent + 1075).toNat * Nat.pow 2 52 + (mantissa - Nat.pow 2 52)
    Float.ofBits (UInt64.ofNat (sign + bits))

/-- What a number of a machine stands for. -/
def ofFloat (x : Float) : Binary64 :=
  let bits := x.toBits.toNat
  let negative : Bool := Nat.pow 2 63 ≤ bits
  let exponent : Nat := bits / Nat.pow 2 52 % Nat.pow 2 11
  let mantissa : Nat := bits % Nat.pow 2 52
  if exponent = 2047 then (if mantissa = 0 then infinite negative else nan)
  else if exponent = 0 then finite negative mantissa minExponent
  else finite negative (mantissa + Nat.pow 2 52) ((exponent : Int) - 1075)

/-- The whole number that a number is. -/
def toInt? : Binary64 → Option Int
  | finite negative mantissa exponent =>
    let sign (n : Nat) : Int := if negative then -n else n
    if 0 ≤ exponent then some (sign (mantissa * Nat.pow 2 exponent.toNat))
    else
      let unit := Nat.pow 2 (-exponent).toNat
      if mantissa % unit = 0 then some (sign (mantissa / unit)) else none
  | _ => none

/-- A number without what stands behind its point. -/
def truncated : Binary64 → Option Int
  | finite negative mantissa exponent =>
    let n := if 0 ≤ exponent then mantissa * Nat.pow 2 exponent.toNat else mantissa / Nat.pow 2 (-exponent).toNat
    some (if negative then -(n : Int) else n)
  | _ => none

/-- What is left of a number when another one is taken away as often as it can be. It has the sign of the
first number. -/
def remainder : Binary64 → Binary64 → Binary64
  | finite negative m d, finite _ n e =>
    if n = 0 then nan
    else
      let low := min d e
      let rest := m * Nat.pow 2 (d - low).toNat % (n * Nat.pow 2 (e - low).toNat)
      let (num, den) := scale rest 1 low
      if rest = 0 then finite negative 0 minExponent else ofFraction negative num den
  | finite negative m d, infinite _ => finite negative m d
  | _, _ => nan

end Flowchart.Binary64
