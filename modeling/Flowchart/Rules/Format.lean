import Flowchart.Rules.Value
import Flowchart.Shell.Format

/-!
Values in a format. A format is a text with directives, each of which writes one value. A format that asks for
more values than there are, or that has a directive of no known kind, is written up to there.
-/

namespace Flowchart.Rules

/-- Why a format cannot be written to its end. -/
inductive FormatFault where
  | missing
  /-- A directive is of no known kind; they are counted from one. -/
  | unknown (number : Nat)
deriving DecidableEq, Repr

def FormatFault.message (function format : Text) : FormatFault → Text
  | missing => "not enough arguments passed to ".toList ++ function ++ "(\"".toList ++ format ++ "\")".toList
  | unknown n =>
    "improper conversion(number ".toList ++ Text.decimal n ++ ") in ".toList ++ function ++ "(\"".toList ++ format
      ++ "\")".toList

/-- The whole number of 64 bits that a number is written as: the greatest ones have no sign. -/
def wholeOf (x : Float) : Int :=
  match (Binary64.ofFloat x).truncated with
  | some n => if n < -Int.pow 2 63 then -(Int.pow 2 63 - 1) else min n (Int.pow 2 64 - 1)
  | none => if x > 0 then Int.pow 2 64 - 1 else -Int.pow 2 63

/-- The number without a sign that a number is written as. -/
def bareOf (x : Float) : Nat :=
  match (Binary64.ofFloat x).truncated with
  | some n => if n < -Int.pow 2 64 then 1 else if n < 0 then (n.emod (Int.pow 2 64)).toNat
    else (min n (Int.pow 2 64 - 1)).toNat
  | none => if x > 0 then Nat.pow 2 64 - 1 else Nat.pow 2 63

/-- Writes a value as a directive says, if it is of a known kind. -/
def writeValue? (toText : Value → Text) (flags : Text) (width : Nat) (precision : Option Nat) (long : Bool) (kind : Char)
    (v : Value) : Option Text :=
  if ['d', 'i'].contains kind then some (Shell.writeSigned flags width precision (wholeOf v.toNumber))
  else if ['o', 'x', 'X', 'u'].contains kind then
    some (Shell.writeUnsigned flags width precision kind (bareOf v.toNumber))
  else if long then none
  else if ['e', 'g', 'f', 'E', 'G'].contains kind then some (directed kind flags width precision v.toNumber)
  else if kind = 's' then
    let t := toText v
    some (Shell.pad flags width (t.take (precision.getD t.length)))
  else if kind = 'c' then
    let c := match v with
      | .number x | .either _ x => Char.ofNat ((wholeOf x).emod 256).toNat
      | .text t => t.head?.getD '\x00'
      | .unset => '\x00'
    some (Shell.pad flags width [c])
  else none

/-- Takes a width or a precision: a number, or the next value. -/
def amountOf (t : Text) (values : List Value) : Except FormatFault (Option Int × Text × List Value) :=
  match t with
  | '*' :: rest =>
    match values with
    | v :: values => .ok (some v.toInt, rest, values)
    | [] => .error .missing
  | t =>
    let digits := t.takeWhile Char.isDigit
    .ok (if digits = [] then none else some (Text.natOfDigits 10 digits), t.drop digits.length, values)

/-- Writes one directive; gives what is written, and the format and the values that are left. -/
def writeDirective (toText : Value → Text) (number : Nat) (t : Text) (values : List Value) :
    Except FormatFault (Text × Text × List Value) := do
  let flags := t.takeWhile fun c => "-+ #0".toList.contains c
  let (width, rest, values) ← amountOf (t.drop flags.length) values
  let (precision, rest, values) ← match rest with
    | '.' :: rest => do
      let (n, rest, values) ← amountOf rest values
      pure (some (n.getD 0), rest, values)
    | rest => pure (none, rest, values)
  let bare := rest.dropWhile fun c => c = 'l' || c = 'h'
  match values, bare with
  | [], _ => throw .missing
  | v :: values, kind :: more =>
    let flags := if width.getD 0 < 0 then '-' :: flags else flags
    let precision := (precision.filter (0 ≤ ·)).map Int.toNat
    match writeValue? toText flags (width.getD 0).natAbs precision (bare.length < rest.length) kind v with
    | some t => return (t, more, values)
    | none => throw (.unknown number)
  | _, [] => throw (.unknown number)

/-- Writes values in a format; gives what is written, in parts with the last first, and what stops it. -/
def formattedParts (toText : Value → Text) : Nat → Nat → List Text → Text → List Value → List Text × Option FormatFault
  | 0, _, parts, _, _ => (parts, none)
  | _ + 1, _, parts, [], _ => (parts, none)
  | fuel + 1, number, parts, '%' :: '%' :: rest, values => formattedParts toText fuel (number + 1) (['%'] :: parts) rest values
  | fuel + 1, number, parts, '%' :: rest, values =>
    match writeDirective toText number rest values with
    | .ok (t, rest, values) => formattedParts toText fuel (number + 1) (t :: parts) rest values
    | .error fault => (parts, some fault)
  | fuel + 1, number, parts, c :: rest, values =>
    let plain := rest.takeWhile (· ≠ '%')
    formattedParts toText fuel number ((c :: plain) :: parts) (rest.drop plain.length) values

/-- Writes values in a format; gives what is written, and what stops it. -/
def formatted (toText : Value → Text) (format : Text) (values : List Value) : Text × Option FormatFault :=
  let (parts, fault) := formattedParts toText (format.length + 1) 1 [] format values
  (parts.reverse.flatten, fault)

/-- The text of a number that is not whole, in a format for one number. -/
def fractionText (format : Text) (x : Float) : Text :=
  if format = "%.6g".toList then directed 'g' [] 0 (some 6) x
  else (formatted (fun _ => []) format [.number x]).1

end Flowchart.Rules
