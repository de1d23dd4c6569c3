import Flowchart.Text.Basic
import Flowchart.Text.Digit

/-!
Modes: who may read, write and execute what stands at a place, in groups of three bits. A change of modes is
written in octal digits or as clauses, each of which says who is meant, whether something is given, taken or
set, and what.
-/

namespace Flowchart.Files.Mode

/-- What is done with the marks of a clause. -/
inductive Action where
  | give
  | take
  | set
deriving DecidableEq, Repr

/-- What a clause gives, takes or sets. -/
inductive Marks where
  | bits (n : Nat)
  /-- Execution, where somebody may execute already or where there is a directory. -/
  | search (n : Nat)
  /-- What some group of bits has, by the place of its lowest bit. -/
  | copied (shift : Nat)
deriving DecidableEq, Repr

/-- A part of a change: the bits that are meant, whether those of the mask are left out, and what is done. -/
structure Clause where
  meant : Nat
  masked : Bool
  action : Action
  marks : Marks
deriving DecidableEq, Repr

/-- A change of modes. -/
inductive Change where
  | exact (mode : Nat) (withHigh : Bool)
  | clauses (cs : List Clause)
deriving DecidableEq, Repr

/-- The bits of those that a letter means. -/
def whoBits : Char → Nat
  | 'u' => 0o4700
  | 'g' => 0o2070
  | 'o' => 0o1007
  | _ => 0o7777

/-- The bits of a letter that is given to everybody. -/
def markBits : Char → Nat
  | 'r' => 0o444
  | 'w' => 0o222
  | 'x' => 0o111
  | 's' => 0o6000
  | 't' => 0o1000
  | _ => 0

def action? : Char → Option Action
  | '+' => some .give
  | '-' => some .take
  | '=' => some .set
  | _ => none

/-- The parts of a text, each of which starts with a sign; what stands before the first sign is dropped. -/
def signedParts (t : Text) : List Text :=
  (t.foldr (fun c (found : List Text × Text) =>
    if (action? c).isSome then ((c :: found.2) :: found.1, []) else (found.1, c :: found.2)) ([], [])).1

/-- Reads one action with its marks: letters, digits for everybody, or the letter of a group to copy from. -/
def clause? (meant : Nat) (masked : Bool) : Text → Option Clause
  | [] => none
  | sign :: marks => do
    let action ← action? sign
    if marks ≠ [] ∧ marks.all Text.isOctalDigit then
      if Text.natOfDigits 8 marks < Nat.pow 8 4 then some ⟨0o7777, false, action, .bits (Text.natOfDigits 8 marks)⟩ else none
    else match marks with
      | ['o'] => some ⟨meant, masked, action, .copied 0⟩
      | ['g'] => some ⟨meant, masked, action, .copied 3⟩
      | ['u'] => some ⟨meant, masked, action, .copied 6⟩
      | marks =>
        if marks.all fun c => "rwxXst".toList.contains c then
          let bits := marks.foldl (fun n c => n ||| markBits c) 0
          some ⟨meant, masked, action, if 'X' ∈ marks then .search bits else .bits bits⟩
        else none

def change? (t : Text) : Option Change :=
  if t ≠ [] ∧ t.all Text.isOctalDigit then
    let n := Text.natOfDigits 8 t
    if n < Nat.pow 8 4 then some (.exact n (5 ≤ t.length)) else none
  else
    ((Text.splitAt ',' t).mapM fun clause =>
      let who := clause.takeWhile fun c => "ugoa".toList.contains c
      let rest := clause.drop who.length
      if rest = [] then none
      else
        let meant := who.foldl (fun n c => n ||| whoBits c) 0
        if (action? (rest.head?.getD ' ')).isNone then none
        else (signedParts rest).mapM (clause? (if who = [] then 0o7777 else meant) who.isEmpty)).map
          fun cs => .clauses cs.flatten

/-- The mode after a change, where a mask says what is left out for those who are not named. -/
def Change.apply (mask : Nat) (isDirectory : Bool) (change : Change) (mode : Nat) : Nat :=
  match change with
  | .exact n withHigh => if isDirectory ∧ !withHigh then n ||| (mode &&& 0o6000) else n
  | .clauses cs =>
    cs.foldl (fun mode c =>
      let meant := if c.masked then c.meant &&& (0o7777 ^^^ (mask &&& 0o777)) else c.meant
      let bits := match c.marks with
        | .bits n => n
        | .search n => if isDirectory ∨ mode &&& 0o111 ≠ 0 then n ||| 0o111 else n
        | .copied shift =>
          let group := (mode >>> shift) &&& 7
          group ||| (group <<< 3) ||| (group <<< 6)
      let bits := bits &&& meant
      match c.action with
      | .give => mode ||| bits
      | .take => mode &&& (0o7777 ^^^ bits)
      | .set =>
        let kept := if isDirectory then 0o6000 &&& (0o7777 ^^^ bits) else 0
        let cleared := (if c.masked then c.meant else meant) &&& (0o7777 ^^^ kept)
        (mode &&& (0o7777 ^^^ cleared)) ||| bits) mode

/-- A mode in letters, without what stands at a place. -/
def letters (mode : Nat) : Text :=
  let has (bit : Nat) : Bool := mode &&& bit ≠ 0
  let group (read write execute special : Nat) (mark : Char) : Text :=
    [if has read then 'r' else '-', if has write then 'w' else '-',
     if has special then (if has execute then mark else mark.toUpper) else if has execute then 'x' else '-']
  group 0o400 0o200 0o100 0o4000 's' ++ group 0o40 0o20 0o10 0o2000 's' ++ group 0o4 0o2 0o1 0o1000 't'

/-- The letters of what a group may do, without those that are missing. -/
def allowed (bits : Nat) : Text :=
  (if bits &&& 4 ≠ 0 then ['r'] else []) ++ (if bits &&& 2 ≠ 0 then ['w'] else []) ++
    if bits &&& 1 ≠ 0 then ['x'] else []

/-- A mode in octal digits, at least so many. -/
def octal (least mode : Nat) : Text :=
  let digits := Nat.toDigits 8 mode
  List.replicate (least - digits.length) '0' ++ digits

end Flowchart.Files.Mode
