import Flowchart.Number.Machine
import Flowchart.Text.Class

/-!
The values of rules: numbers and texts. A text that comes from an input and looks like a number is both. A
number has a text, and a text has a number, the one that it starts with.
-/

namespace Flowchart.Rules

inductive Value where
  /-- Nothing has been assigned: an empty text, or zero. -/
  | unset
  | number (x : Float)
  | text (t : Text)
  /-- A text from an input that looks like a number. -/
  | either (t : Text) (x : Float)

def isGap (c : Char) : Bool := c == ' ' || c == '\t' || c == '\r' || c == '\x0b' || c == '\x0c'

/-- The number that a text starts with, or zero. -/
def numberOf (t : Text) : Float :=
  if t.length < 16 ∧ t.all Char.isDigit then Float.ofNat (Text.natOfDigits 10 t)
  else match Quantity.read? t with
    | some (q, _) => q.toBinary.toFloat
    | none => 0

/-- The number that a text is as a whole, but for blanks around it. -/
def wholeNumber? (t : Text) : Option Float :=
  let t := t.dropWhile isGap
  let t := (t.reverse.dropWhile isGap).reverse
  match t.head?, t.getLast? with
  | some first, some last =>
    if (first.isDigit ∨ first = '+' ∨ first = '-' ∨ first = '.') ∧ (last.isDigit ∨ last = '.') then
      if t.length < 16 ∧ t.all Char.isDigit then some (Float.ofNat (Text.natOfDigits 10 t))
      else match Quantity.read? t with
        | some (q, []) =>
          match q.toBinary with
          | .finite negative mantissa exponent => some (Binary64.finite negative mantissa exponent).toFloat
          | _ => none
        | _ => none
    else none
  | _, _ => none

/-- The value of a text that comes from an input. -/
def Value.ofInput (t : Text) : Value :=
  match wholeNumber? t with
  | some x => .either t x
  | none => .text t

/-- The digits of a number that is whole and not too great. The greatest are as great as they can be. -/
def wholeDigits? (x : Float) : Option Text :=
  match (Binary64.ofFloat x).toInt? with
  | some n =>
    if n < -Int.pow 2 63 ∨ Int.pow 2 64 < n then none
    else
      let n := min n (Int.pow 2 64 - 1)
      some ((if n < 0 then ['-'] else []) ++ Text.decimal n.natAbs)
  | none => none

/-- A number as a directive for one writes it. -/
def directed (kind : Char) (flags : Text) (width : Nat) (precision : Option Nat) (x : Float) : Text :=
  Quantity.write ⟨kind, flags, width, precision⟩
    (match Binary64.ofFloat x with
      | .nan => .nan true
      | b => Quantity.ofBinary b)

/-- The text of a number, where `format` writes those that are not whole. -/
def numberText (format : Float → Text) (x : Float) : Text := (wholeDigits? x).getD (format x)

namespace Value

def toNumber : Value → Float
  | unset => 0
  | number x => x
  | text t => numberOf t
  | either _ x => x

def toText (format : Float → Text) : Value → Text
  | unset => []
  | number x => numberText format x
  | text t => t
  | either t _ => t

/-- Whether a value counts as true. -/
def holds : Value → Bool
  | unset => false
  | number x => x != 0
  | text t => !t.isEmpty
  | either _ x => x != 0

/-- Whether a value is a text and no number. -/
def isText : Value → Bool
  | text _ => true
  | _ => false

def ofBool (b : Bool) : Value := .number (if b then 1 else 0)

def ofNat (n : Nat) : Value := .number (Float.ofNat n)

/-- Compares two values: as numbers, or as texts if one of them is a text. Numbers of which one is none are in
no order. -/
def compare (format : Float → Text) (a b : Value) : Option Ordering :=
  if a.isText || b.isText then
    let (s, t) := (a.toText format, b.toText format)
    some (if s = t then .eq else if Text.precedes s t then .lt else .gt)
  else
    let (x, y) := (a.toNumber, b.toNumber)
    if x == y then some .eq else if x < y then some .lt else if y < x then some .gt else none

/-- The whole number of a value, without what stands behind the point. -/
def toInt (v : Value) : Int := ((Binary64.ofFloat v.toNumber).truncated).getD 0

end Value

end Flowchart.Rules
