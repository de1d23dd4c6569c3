import Flowchart.Number.Binary64
import Flowchart.Toml.Scan

/-!
TOML numbers and dates. An integer has 64 bits with its sign and may be written to the bases 16, 8 and 2
behind a mark. A float has a fraction or an exponent, or is one of `inf` and `nan`; a positive one may not
be too great. A date or a time is checked, but its value is not kept.
-/

namespace Flowchart.Toml

open Text

/-- An integer that fits 64 bits. -/
def fitted? (negative : Bool) (n : Nat) : Option Int :=
  let bound := Nat.pow 2 63
  if negative then (if n ≤ bound then some (-(n : Int)) else none)
  else if n < bound then some n else none

/-- An integer to another base, the mark left out. -/
def based? (base : Nat) (isDigit : Char → Bool) (t : Text) : Option (Int × Text) := do
  let (digits, rest) ← digits? isDigit t
  let n ← fitted? false (natOfDigits base digits)
  return (n, rest)

def integer? : Text → Option (Int × Text)
  | '0' :: 'x' :: rest => based? 16 isHexDigit rest
  | '0' :: 'o' :: rest => based? 8 (fun c => '0' ≤ c && c ≤ '7') rest
  | '0' :: 'b' :: rest => based? 2 (fun c => c == '0' || c == '1') rest
  | t => do
    let (negative, digits, rest) ← decimal? t
    let n ← fitted? negative (natOfDigits 10 digits)
    return (n, rest)

/-- The exponent of a float. -/
def exponent? : Text → Option (Int × Text)
  | c :: rest =>
    if c = 'e' ∨ c = 'E' then do
      let (negative, rest) := sign rest
      let (digits, rest) ← digits? Char.isDigit rest
      let n := natOfDigits 10 digits
      return (if negative then -(n : Int) else n, rest)
    else none
  | [] => none

/-- The fraction of a float, without its point. -/
def fraction? : Text → Option (Text × Text)
  | '.' :: rest => digits? Char.isDigit rest
  | _ => none

/-- A float that is written with digits. -/
def finite? (t : Text) : Option (Binary64 × Text) := do
  let (negative, whole, rest) ← decimal? t
  let (fraction, exponent, rest) ← match fraction? rest with
    | some (fraction, rest) =>
      match exponent? rest with
      | some (exponent, rest) => some (fraction, exponent, rest)
      | none => some (fraction, 0, rest)
    | none => (exponent? rest).map fun p => ([], p.1, p.2)
  let x := Binary64.ofDecimal negative (natOfDigits 10 (whole ++ fraction)) (exponent - fraction.length)
  if x = .infinite false then none else some (x, rest)

/-- A float that is written as a word. -/
def special? (t : Text) : Option (Binary64 × Text) :=
  let (negative, rest) := sign t
  match rest with
  | 'i' :: 'n' :: 'f' :: rest => some (.infinite negative, rest)
  | 'n' :: 'a' :: 'n' :: rest => some (.nan, rest)
  | _ => none

def float? (t : Text) : Option (Binary64 × Text) := (finite? t).or (special? t)

/-! ### Dates and times -/

/-- A number of `width` digits between two bounds. -/
def ranged? (width low high : Nat) (t : Text) : Option (Nat × Text) := do
  let (digits, rest) ← fixedDigits? width t
  let n := natOfDigits 10 digits
  if low ≤ n ∧ n ≤ high then some (n, rest) else none

def daysIn (year month : Nat) : Nat :=
  if month = 2 then (if year % 4 = 0 ∧ (year % 100 ≠ 0 ∨ year % 400 = 0) then 29 else 28)
  else if month = 4 ∨ month = 6 ∨ month = 9 ∨ month = 11 then 30
  else 31

/-- What is left behind a date. -/
def date? (t : Text) : Option Text := do
  let (year, t) ← ranged? 4 0 9999 t
  let t ← ['-'].isPrefixOf? t
  let (month, t) ← ranged? 2 1 12 t
  let t ← ['-'].isPrefixOf? t
  let (_, t) ← ranged? 2 1 (daysIn year month) t
  return t

/-- What is left behind a time. -/
def time? (t : Text) : Option Text := do
  let (_, t) ← ranged? 2 0 23 t
  let t ← [':'].isPrefixOf? t
  let (_, t) ← ranged? 2 0 59 t
  let t ← [':'].isPrefixOf? t
  let (_, t) ← ranged? 2 0 60 t
  match t with
  | '.' :: c :: rest => if c.isDigit then some (rest.dropWhile Char.isDigit) else some t
  | _ => some t

/-- What is left behind the offset of a time, where there may be none. -/
def offset (t : Text) : Text :=
  match t with
  | c :: rest =>
    if c = 'Z' ∨ c = 'z' then rest
    else if c = '+' ∨ c = '-' then
      (do
        let (_, rest) ← ranged? 2 0 23 rest
        let rest ← [':'].isPrefixOf? rest
        let (_, rest) ← ranged? 2 0 59 rest
        return rest : Option Text).getD t
    else t
  | [] => t

/-- What is left behind a date, a time, or a date and a time. -/
def datetime? (t : Text) : Option Text :=
  match date? t with
  | none => time? t
  | some rest =>
    match rest with
    | c :: behind =>
      if c = 'T' ∨ c = 't' ∨ c = ' ' then
        match time? behind with
        | some behind => some (offset behind)
        | none => some rest
      else some rest
    | [] => some rest

end Flowchart.Toml
