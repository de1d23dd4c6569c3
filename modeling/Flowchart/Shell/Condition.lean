import Flowchart.Shell.Arithmetic
import Flowchart.Text.Class

/-!
Conditions: what a test of words says. Which words are operators depends on how many words there are, so
that a word that looks like an operator can be tested too.
-/

namespace Flowchart.Shell.Condition

/-- The kinds of what can stand at a path. -/
inductive Kind where
  | file
  | directory
  | device
deriving DecidableEq, Repr

/-- What stands at a path, as far as it can be tested. -/
structure Subject where
  kind : Kind
  size : Nat := 0
  mode : Nat := 0
  /-- When it was written, if that is known. -/
  written : Option Int := none
  /-- Two paths lead to the same thing if this is the same. -/
  identity : Text

/-- What a test sees: what paths lead to, and whether a link stands at a path. -/
structure View where
  look : Text → Option Subject
  isLink : Text → Bool

inductive Role where
  | unary
  | binary
  | not
  | and
  | or
  | «open»
  | close
deriving DecidableEq, Repr

def roleOf (word : Text) : Option Role :=
  let t := String.ofList word
  if ["-b", "-c", "-d", "-e", "-f", "-g", "-h", "-k", "-n", "-p", "-r", "-s", "-t", "-u", "-w", "-x", "-z", "-G",
      "-L", "-O", "-S"].contains t then some .unary
  else if ["=", "!=", "<", ">", "-eq", "-ne", "-ge", "-gt", "-le", "-lt", "-nt", "-ot", "-ef"].contains t then
    some .binary
  else if t = "!" then some .not
  else if t = "-a" then some .and
  else if t = "-o" then some .or
  else if t = "(" then some .open
  else if t = ")" then some .close
  else none

/-- The role of the first word among those that follow. A unary operator without anything to test, or with
a binary operator behind it, is no operator. -/
def role? : List Text → Option Role
  | [] => none
  | word :: rest =>
    match roleOf word with
    | some .unary =>
      match rest with
      | [] => none
      | [_] => some .unary
      | next :: _ => if roleOf next = some .binary then none else some .unary
    | some .open => if rest = [] then none else some .open
    | role => role

def number (word : Text) : Except Text Int :=
  let t := word.dropWhile Text.isSpace
  let (negative, digits) := match t with
    | '-' :: rest => (true, rest)
    | '+' :: rest => (false, rest)
    | rest => (false, rest)
  let n := digits.takeWhile Char.isDigit
  if n = [] ∨ ¬ (digits.drop n.length).all Text.isSpace then .error ("Illegal number: ".toList ++ word)
  else .ok (if negative then -(Text.natOfDigits 10 n) else Text.natOfDigits 10 n)

/-- What a unary operator says of a word. -/
def unary (v : View) (operator word : Text) : Bool :=
  let holds (test : Subject → Bool) : Bool := ((v.look word).map test).getD false
  match String.ofList operator with
  | "-z" => word.isEmpty
  | "-n" => !word.isEmpty
  | "-e" | "-r" | "-w" | "-O" | "-G" => (v.look word).isSome
  | "-f" => holds fun s => s.kind = .file
  | "-d" => holds fun s => s.kind = .directory
  | "-c" => holds fun s => s.kind = .device
  | "-s" => holds fun s => s.size ≠ 0
  | "-x" => holds fun s => s.kind = .directory || s.mode &&& 0o111 ≠ 0
  | "-u" => holds fun s => s.mode &&& 0o4000 ≠ 0
  | "-g" => holds fun s => s.mode &&& 0o2000 ≠ 0
  | "-k" => holds fun s => s.mode &&& 0o1000 ≠ 0
  | "-h" | "-L" => v.isLink word
  | _ => false

/-- What a binary operator says of two words. -/
def binary (v : View) (operator a b : Text) : Except Text Bool := do
  let both (test : Subject → Subject → Bool) : Bool := match v.look a, v.look b with
    | some s, some t => test s t
    | _, _ => false
  let before (s t : Subject) : Bool := match s.written, t.written with
    | some m, some n => m < n
    | _, _ => false
  match String.ofList operator with
  | "=" => return a = b
  | "!=" => return a ≠ b
  | "<" => return a ≠ b && Text.precedes a b
  | ">" => return a ≠ b && Text.precedes b a
  | "-ef" => return both fun s t => s.identity = t.identity
  | "-nt" => return both fun s t => before t s
  | "-ot" => return both before
  | o =>
    let m ← number a
    let n ← number b
    match o with
    | "-eq" => return m = n
    | "-ne" => return m ≠ n
    | "-ge" => return n ≤ m
    | "-gt" => return n < m
    | "-le" => return m ≤ n
    | _ => return m < n

/-- What has been found out: the answer, the last word that was used, and the words behind it. -/
structure Found where
  answer : Bool
  last : Text
  rest : List Text

mutual

/-- Conditions one of which has to hold. -/
def disjunction (v : View) : Nat → Option Role → List Text → Except Text Found
  | 0, _, _ => .error "too deep".toList
  | fuel + 1, role, words => do
    let f ← conjunction v fuel role words
    match f.rest with
    | o :: more =>
      if role? f.rest = some .or then
        let g ← disjunction v fuel (role? more) more
        return { g with answer := f.answer || g.answer, last := if more = [] then o else g.last }
      else return f
    | [] => return f

/-- Conditions all of which have to hold. -/
def conjunction (v : View) : Nat → Option Role → List Text → Except Text Found
  | 0, _, _ => .error "too deep".toList
  | fuel + 1, role, words => do
    let f ← negation v fuel role words
    match f.rest with
    | o :: more =>
      if role? f.rest = some .and then
        let g ← conjunction v fuel (role? more) more
        return { g with answer := f.answer && g.answer, last := if more = [] then o else g.last }
      else return f
    | [] => return f

/-- A condition that may be turned around. -/
def negation (v : View) : Nat → Option Role → List Text → Except Text Found
  | 0, _, _ => .error "too deep".toList
  | fuel + 1, role, words =>
    match role, words with
    | some .not, word :: rest =>
      if rest = [] then .ok ⟨true, word, []⟩
      else do
        let f ← negation v fuel (role? rest) rest
        return { f with answer := !f.answer }
    | role, words => primary v fuel role words

/-- A condition that is not divided, or stands between parentheses. -/
def primary (v : View) : Nat → Option Role → List Text → Except Text Found
  | 0, _, _ => .error "too deep".toList
  | fuel + 1, role, words =>
    match role, words with
    | _, [] => .ok ⟨false, [], []⟩
    | some .open, word :: rest =>
      if role? rest = some .close then .ok ⟨false, word, rest⟩
      else do
        let f ← disjunction v fuel (role? rest) rest
        match f.rest with
        | close :: more =>
          if roleOf close = some .close then return ⟨f.answer, close, more⟩
          else .error "closing paren expected".toList
        | [] => .error "closing paren expected".toList
    | some .unary, operator :: word :: rest => .ok ⟨unary v operator word, word, rest⟩
    | some .unary, [operator] => .error (operator ++ ": argument expected".toList)
    | _, a :: operator :: rest =>
      if roleOf operator = some .binary then
        match rest with
        | [] => .error (operator ++ ": argument expected".toList)
        | b :: rest => (binary v operator a b).map fun answer => ⟨answer, b, rest⟩
      else .ok ⟨!a.isEmpty, a, operator :: rest⟩
    | _, [a] => .ok ⟨!a.isEmpty, a, []⟩

end

/-- What a whole condition says. Nothing may follow it. -/
def whole (v : View) (role : Option Role) (words : List Text) : Except Text Bool := do
  let f ← disjunction v (8 * words.length + 8) role words
  match f.rest with
  | [] => return f.answer
  | _ => .error (f.last ++ (if f.last = [] then [] else ": ".toList) ++ "unexpected operator".toList)

/-- Whether words are a binary operator and what stands on either side of it. -/
def isComparison : List Text → Bool
  | [_, operator, _] => roleOf operator = some .binary
  | _ => false

/-- Takes signs that turn the answer around, or a pair of parentheses, off three or four words. A sign behind
such a sign does not turn the answer back. Gives whether the answer is turned around. -/
def strip (turned : Bool) (words : List Text) : Bool × List Text :=
  if isComparison words ∨ (words.length ≠ 3 ∧ words.length ≠ 4) then (turned, words)
  else match words with
    | ['('] :: rest => if rest.getLast? = some [')'] then (turned, rest.dropLast) else (turned, words)
    | ['!'] :: rest => strip true rest
    | words => (turned, words)
termination_by words.length

/-- What a test of words says: nothing holds of no words. -/
def test (v : View) (words : List Text) : Except Text Bool := do
  if words = [] then return false
  let (turned, words) := strip false words
  let answer ← whole v (if isComparison words then none else role? words) words
  return answer != turned

end Flowchart.Shell.Condition
