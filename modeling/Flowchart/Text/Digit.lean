import Flowchart.Text.Basic

/-!
Digits. A number is written with the digits of a base, the first of them first; the letters from `a` on are
digits in upper or lower case.
-/

namespace Flowchart.Text

def decimal (n : Nat) : Text := Nat.toDigits 10 n

/-- The hexadecimal digits of a number, with zeros before them up to a width. -/
def hexadecimal (width n : Nat) : Text :=
  let digits := Nat.toDigits 16 n
  List.replicate (width - digits.length) '0' ++ digits

/-- The value of a digit. -/
def digitValue (c : Char) : Nat :=
  if c.isDigit then c.toNat - '0'.toNat
  else if 'a' ≤ c ∧ c ≤ 'z' then c.toNat - 'a'.toNat + 10
  else c.toNat - 'A'.toNat + 10

/-- The value of digits to a base. -/
def natOfDigits (base : Nat) (digits : Text) : Nat := digits.foldl (fun n c => n * base + digitValue c) 0

def isOctalDigit (c : Char) : Bool := '0' ≤ c && c ≤ '7'

def isHexDigit (c : Char) : Bool := c.isDigit || ('a' ≤ c && c ≤ 'f') || ('A' ≤ c && c ≤ 'F')

@[simp] theorem natOfDigits_nil (base : Nat) : natOfDigits base [] = 0 := rfl

theorem natOfDigits_concat (base : Nat) (digits : Text) (c : Char) :
    natOfDigits base (digits ++ [c]) = natOfDigits base digits * base + digitValue c := by
  simp [natOfDigits]

end Flowchart.Text
