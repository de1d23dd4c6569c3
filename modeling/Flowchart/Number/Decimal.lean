import Flowchart.Number.Binary64
import Flowchart.Text.Digit

/-!
Quantities and their decimal text. A quantity is an exact fraction with a sign; it is read from a numeral,
rounded to a number of binary digits, and written with a fixed number of places, with an exponent, or in
whichever of these forms is shorter. A half is rounded to the even digit.
-/

namespace Flowchart

/-- A number with a sign, or what stands for none. -/
inductive Quantity where
  | nan (negative : Bool)
  | infinite (negative : Bool)
  | finite (negative : Bool) (num den : Nat)
deriving DecidableEq, Repr

namespace Quantity

open Text

def ofInt (n : Int) : Quantity := .finite (decide (n < 0)) n.natAbs 1

def isNegative : Quantity → Bool
  | nan negative | infinite negative | finite negative _ _ => negative

/-- The quantity of a floating point number. -/
def ofBinary : Binary64 → Quantity
  | .nan => .nan false
  | .infinite negative => .infinite negative
  | .finite negative mantissa exponent =>
    let (num, den) := Binary64.scale mantissa 1 exponent
    .finite negative num den

/-- The floating point number that is nearest to a quantity. -/
def toBinary : Quantity → Binary64
  | nan _ => .nan
  | infinite negative => .infinite negative
  | finite negative num den => if num = 0 then .finite negative 0 Binary64.minExponent else .ofFraction negative num den

/-- A quantity rounded to some binary digits. -/
def rounded (digits : Nat) : Quantity → Quantity
  | finite negative num den =>
    if num = 0 ∨ den = 0 then .finite negative num den
    else
      let guess : Int := (Nat.log2 num : Int) - Nat.log2 den - digits
      let (n, d) := Binary64.scale num den (-guess)
      let exponent := if n / d < Nat.pow 2 digits then guess else guess + 1
      let (n, d) := Binary64.scale num den (-exponent)
      let (n, d) := Binary64.scale (Binary64.roundDiv n d) 1 exponent
      .finite negative n d
  | q => q

/-! ### Reading -/

/-- Whether a text starts with a word, in upper or lower case. -/
def startsWithWord (word : String) (t : Text) : Bool := word.toList.isPrefixOf (t.map Char.toLower)

/-- The exponent behind a letter, and what follows it. -/
def exponentOf (letters : List Char) : Text → Int × Text
  | [] => (0, [])
  | c :: rest =>
    if letters.contains c then
      let (negative, digits) := match rest with
        | '-' :: digits => (true, digits)
        | '+' :: digits => (false, digits)
        | digits => (false, digits)
      let found := digits.takeWhile Char.isDigit
      if found = [] then (0, c :: rest)
      else
        let n : Int := min (natOfDigits 10 found) 6000
        (if negative then -n else n, digits.drop found.length)
    else (0, c :: rest)

/-- The quantity of digits to a base with a point among them, and what follows. -/
def digitsOf? (base : Nat) (isDigit : Char → Bool) (negative : Bool) (t : Text) : Option (Quantity × Text) :=
  let whole := t.takeWhile isDigit
  let (behind, rest) := match t.drop whole.length with
    | '.' :: rest => (rest.takeWhile isDigit, rest.dropWhile isDigit)
    | rest => ([], rest)
  if whole = [] ∧ behind = [] then none
  else
    let n := natOfDigits base (whole ++ behind)
    let (exponent, rest) := exponentOf (if base = 10 then ['e', 'E'] else ['p', 'P']) rest
    if n = 0 then some (.finite negative 0 1, rest)
    else
      let (num, den) := (n, Nat.pow base behind.length)
      let factor := if base = 10 then 10 else 2
      some (if 0 ≤ exponent then .finite negative (num * Nat.pow factor exponent.toNat) den
        else .finite negative num (den * Nat.pow factor (-exponent).toNat), rest)

/-- The quantity that a text starts with, and what follows it. -/
def read? (t : Text) : Option (Quantity × Text) :=
  let t := t.dropWhile fun c => c == ' ' || (9 ≤ c.toNat && c.toNat ≤ 13)
  let (negative, t) := match t with
    | '-' :: rest => (true, rest)
    | '+' :: rest => (false, rest)
    | t => (false, t)
  if startsWithWord "infinity" t then some (.infinite negative, t.drop 8)
  else if startsWithWord "inf" t then some (.infinite negative, t.drop 3)
  else if startsWithWord "nan" t then some (.nan negative, t.drop 3)
  else if startsWithWord "0x" t then
    match digitsOf? 16 isHexDigit negative (t.drop 2) with
    | some found => some found
    | none => some (.finite negative 0 1, t.drop 1)
  else digitsOf? 10 Char.isDigit negative t

/-! ### Writing -/

/-- The digits of a number with a point before the last ones. -/
def pointed (places : Nat) (n : Nat) : Text :=
  let digits := decimal n
  let digits := List.replicate (places + 1 - digits.length) '0' ++ digits
  let whole := digits.take (digits.length - places)
  if places = 0 then whole else whole ++ '.' :: digits.drop (digits.length - places)

/-- A fraction with a fixed number of places. -/
def fixed (places num den : Nat) : Text := pointed places (Binary64.roundDiv (num * Nat.pow 10 places) den)

/-- The exponent of ten of a fraction. -/
def tenExponent (num den : Nat) : Int :=
  let guess : Int := ((decimal num).length : Int) - (decimal den).length
  let reaches : Bool :=
    if 0 ≤ guess then den * Nat.pow 10 guess.toNat ≤ num else den ≤ num * Nat.pow 10 (-guess).toNat
  if reaches then guess else guess - 1

/-- A fraction as a number with one digit before its point, and an exponent of ten. -/
def normal (places num den : Nat) : Nat × Int :=
  if num = 0 then (0, 0)
  else
    let exponent := tenExponent num den
    let shift : Int := places - exponent
    let n := if 0 ≤ shift then Binary64.roundDiv (num * Nat.pow 10 shift.toNat) den
      else Binary64.roundDiv num (den * Nat.pow 10 (-shift).toNat)
    if n = Nat.pow 10 (places + 1) then (Nat.pow 10 places, exponent + 1) else (n, exponent)

def exponentText (letter : Char) (exponent : Int) : Text :=
  let digits := decimal exponent.natAbs
  letter :: (if exponent < 0 then '-' else '+') :: List.replicate (2 - digits.length) '0' ++ digits

def scientific (letter : Char) (places num den : Nat) : Text :=
  let (n, exponent) := normal places num den
  pointed places n ++ exponentText letter exponent

/-- A numeral without the zeros at the end of its places. -/
def withoutZeros (t : Text) : Text :=
  if '.' ∈ t then
    let kept := (t.reverse.dropWhile (· = '0')).reverse
    dropLastIf '.' kept
  else t

/-- A fraction in the shorter form, with so many digits. -/
def general (letter : Char) (keepZeros : Bool) (digits num den : Nat) : Text :=
  let digits := max digits 1
  let (n, exponent) := normal (digits - 1) num den
  let clean := if keepZeros then id else withoutZeros
  if exponent < -4 ∨ (digits : Int) ≤ exponent then
    clean (pointed (digits - 1) n) ++ exponentText letter exponent
  else clean (fixed (((digits : Int) - 1 - exponent).toNat) num den)

/-- The hexadecimal digits of a fraction, with an exponent of two. -/
def binary (upper : Bool) (precision : Option Nat) (num den : Nat) : Text :=
  let letter := if upper then 'P' else 'p'
  let finish (digits : Text) (exponent : Int) : Text :=
    letter :: (if exponent < 0 then '-' else '+') :: decimal exponent.natAbs |> (digits ++ ·)
  let text : Text :=
    if num = 0 then
      finish ('0' :: (match precision with
        | some (p + 1) => '.' :: List.replicate (p + 1) '0'
        | _ => [])) 0
    else
      let guess : Int := (Nat.log2 num : Int) - Nat.log2 den
      let (n, d) := Binary64.scale num den (-guess)
      let exponent := if n < d then guess - 1 else guess
      let places := precision.getD 13
      let (n, d) := Binary64.scale num den (4 * places - exponent)
      let n := Binary64.roundDiv n d
      let digits := Nat.toDigits 16 n
      let digits := List.replicate (places + 1 - digits.length) '0' ++ digits
      let whole := digits.take (digits.length - places)
      let behind := digits.drop (digits.length - places)
      let behind := if precision.isSome then behind else (behind.reverse.dropWhile (· = '0')).reverse
      finish (whole ++ if behind = [] then [] else '.' :: behind) exponent
  if upper then '0' :: 'X' :: text.map Char.toUpper else '0' :: 'x' :: text

structure Form where
  /-- The letter of a directive: `f`, `e`, `g` or `a`, or the same in upper case. -/
  kind : Char
  flags : Text
  width : Nat
  precision : Option Nat

def Form.magnitude (f : Form) : Quantity → Text
  | nan _ => if f.kind.isUpper then "NAN".toList else "nan".toList
  | infinite _ => if f.kind.isUpper then "INF".toList else "inf".toList
  | finite _ num den =>
    let places := f.precision.getD 6
    let mark := '#' ∈ f.flags
    let pointAtEnd (t : Text) : Text := if mark ∧ '.' ∉ t then t ++ ['.'] else t
    match f.kind with
    | 'f' | 'F' => pointAtEnd (fixed places num den)
    | 'e' => scientific 'e' places num den
    | 'E' => scientific 'E' places num den
    | 'g' => general 'e' mark places num den
    | 'G' => general 'E' mark places num den
    | kind => binary (kind = 'A') f.precision num den

def write (f : Form) (q : Quantity) : Text :=
  let sign : Text := if q.isNegative then ['-'] else if '+' ∈ f.flags then ['+'] else if ' ' ∈ f.flags then [' '] else []
  let body := f.magnitude q
  let isFinite := match q with
    | finite .. => true
    | _ => false
  let free := f.width - sign.length - body.length
  if '-' ∈ f.flags then sign ++ body ++ List.replicate free ' '
  else if '0' ∈ f.flags ∧ isFinite = true then
    match f.kind, body with
    | 'a', _ :: _ :: rest | 'A', _ :: _ :: rest => sign ++ body.take 2 ++ List.replicate free '0' ++ rest
    | _, _ => sign ++ List.replicate free '0' ++ body
  else List.replicate free ' ' ++ sign ++ body

end Quantity

end Flowchart
