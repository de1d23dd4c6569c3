import Flowchart.Regex.Basic
import Flowchart.Text.Digit

/-!
Reading regular expressions. There are two ways to write them: in a basic one the signs for groups, choices and
numbers of times stand behind a backslash, and in an extended one they stand for themselves.
-/

namespace Flowchart.Regex

structure Grammar where
  /-- Whether the signs stand for themselves. -/
  extended : Bool
  ignoreCase : Bool := false
  /-- Whether a sign that follows nothing, or braces that hold no numbers, are refused where signs stand for
  themselves. -/
  strict : Bool := false
  /-- Whether a backslash and a letter may stand for a control character. -/
  controls : Bool := false
  /-- Whether a backslash has a meaning between brackets too. -/
  inBrackets : Bool := false
  /-- Whether there are signs for the edges of words and back references. -/
  wide : Bool := true
  /-- Whether a sign that follows nothing stands for itself, and a range may be empty. -/
  lenient : Bool := false

/-- Why an expression cannot be read. -/
inductive Fault where
  /-- Brackets are opened at the end. -/
  | nothingInside
  | trailingBackslash
  | unmatchedBracket
  | unmatchedOpen
  | unmatchedClose
  | unmatchedBrace
  | wrongNumber
  | wrongReference
  | wrongClass
  | wrongRange
  | nothingBefore
  | tooBig
deriving DecidableEq, Repr

def Fault.message : Fault → Text
  | nothingInside => "Invalid regular expression".toList
  | trailingBackslash => "Trailing backslash".toList
  | unmatchedBracket => "Unmatched [, [^, [:, [., or [=".toList
  | unmatchedOpen => "Unmatched ( or \\(".toList
  | unmatchedClose => "Unmatched ) or \\)".toList
  | unmatchedBrace => "Unmatched \\\x7b".toList
  | wrongNumber => "Invalid content of \\\x7b\\\x7d".toList
  | wrongReference => "Invalid back reference".toList
  | wrongClass => "Invalid character class name".toList
  | wrongRange => "Invalid range end".toList
  | nothingBefore => "Invalid preceding regular expression".toList
  | tooBig => "Regular expression too big".toList

/-! ### Characters -/

def octets : List Char := (List.range 256).map Char.ofNat

/-- The ranges of the characters for which something holds. -/
def rangesOf (holds : Char → Bool) : List (Char × Char) :=
  (octets.foldl (fun (found : List (Char × Char)) c =>
    if !holds c then found
    else match found with
      | (a, b) :: more => if b.toNat + 1 = c.toNat then (a, c) :: more else (c, c) :: found
      | [] => [(c, c)]) []).reverse

/-- One character that is written as itself. -/
def literal (g : Grammar) (c : Char) : Regex :=
  if g.ignoreCase ∧ c.isAlpha then .one [(c.toLower, c.toLower), (c.toUpper, c.toUpper)] else .one [(c, c)]

def anyCharacter : Regex := .one [('\x00', Char.ofNat 255)]

/-- The characters of words, or all others. -/
def wordSet (inside : Bool) : Regex := .one (rangesOf fun c => isWordChar c == inside)

/-- The blank characters, or all others. -/
def spaceSet (inside : Bool) : Regex := .one (rangesOf fun c => Text.isSpace c == inside)

/-- The control character of a letter. -/
def control? (c : Char) : Option Char :=
  [('a', '\x07'), ('f', '\x0c'), ('n', '\n'), ('r', '\r'), ('t', '\t'), ('v', '\x0b')].lookup c

/-! ### Brackets -/

/-- A part of what stands between brackets. -/
inductive Member where
  | char (c : Char)
  | named (name : Text)

/-- Reads one part of what stands between brackets. -/
def member (g : Grammar) : Text → Except Fault (Member × Text)
  | [] => .error .unmatchedBracket
  | '[' :: d :: rest =>
    if d = ':' ∨ d = '.' ∨ d = '=' then
      let name := rest.takeWhile (· ≠ d)
      match rest.drop name.length with
      | _ :: ']' :: more =>
        if d = ':' then
          if Text.classNames.contains name then .ok (.named name, more) else .error .wrongClass
        else match name with
          | [c] => .ok (.char c, more)
          | _ => .error .wrongClass
      | _ => if d = ':' then .ok (.char '[', d :: rest) else .error .unmatchedBracket
    else .ok (.char '[', d :: rest)
  | '\\' :: c :: rest =>
    if g.inBrackets then
      match control? c with
      | some d => .ok (.char d, rest)
      | none =>
        if Text.isOctalDigit c then
          let digits := ((c :: rest).take 3).takeWhile Text.isOctalDigit
          .ok (.char (Char.ofNat (Text.natOfDigits 8 digits % 256)), (c :: rest).drop digits.length)
        else .ok (.char c, rest)
    else match if g.controls then control? c else none with
      | some d => .ok (.char d, rest)
      | none => .ok (.char '\\', c :: rest)
  | c :: rest => .ok (.char c, rest)

/-- Reads what stands between brackets, up to the one that closes them, as a test of characters. -/
def members (g : Grammar) (isFirst : Bool) : Nat → Text → Except Fault ((Char → Bool) × Text)
  | 0, _ => .error .unmatchedBracket
  | fuel + 1, t =>
    match t, isFirst with
    | ']' :: rest, false => .ok (fun _ => false, rest)
    | t, _ => do
      let (m, rest) ← member g t
      let (holds, rest) ← match m with
        | .named name =>
          let fold := g.ignoreCase && (name = "upper".toList || name = "lower".toList)
          pure ((fun c => if fold then c.isAlpha else Text.inClass name c), rest)
        | .char a =>
          match rest with
          | '-' :: ']' :: _ => pure ((fun c => c == a), rest)
          | '-' :: more => do
            match ← member g more with
            | (.char b, after) =>
              if b < a ∧ !g.lenient then .error .wrongRange else pure ((fun c => a ≤ c && c ≤ b), after)
            | (.named _, _) => .error .wrongRange
          | rest => pure ((fun c => c == a), rest)
      let (others, rest) ← members g false fuel rest
      return (fun c => holds c || others c, rest)

/-- Reads a set behind the bracket that opens it. -/
def bracket (g : Grammar) (t : Text) : Except Fault (Regex × Text) := do
  let (turned, t) := match t with
    | '^' :: rest => (true, rest)
    | t => (false, t)
  if t = [] ∧ g.lenient then .error .nothingInside
  let (holds, rest) ← members g true (t.length + 1) t
  let holds := if g.ignoreCase then fun c : Char => holds c.toLower || holds c.toUpper || holds c else holds
  return (.one (rangesOf fun c => holds c != turned), rest)

/-! ### Numbers of times -/

/-- How often an expression may come: at least and at most. -/
abbrev Times := Nat × Option Nat

def maxTimes : Nat := 32767

/-- Reads the numbers in braces, behind the one that opens them. -/
def timesOf (g : Grammar) (t : Text) : Except Fault (Times × Text) :=
  let least := t.takeWhile Char.isDigit
  let rest := t.drop least.length
  let (most, rest) := match rest with
    | ',' :: rest =>
      let digits := rest.takeWhile Char.isDigit
      (if digits = [] then none else some (Text.natOfDigits 10 digits), rest.drop digits.length)
    | rest => (some (Text.natOfDigits 10 least), rest)
  let hasComma := (t.drop least.length).head? = some ','
  let closed := if g.extended then rest.head? = some '\x7d' else "\\\x7d".toList.isPrefixOf rest
  if least = [] ∧ !hasComma then .error (if rest = [] then .unmatchedBrace else .wrongNumber)
  else if !closed then .error (if rest = [] then .unmatchedBrace else .wrongNumber)
  else
    let low := Text.natOfDigits 10 least
    if (most.map fun m => decide (m < low)).getD false then .error .wrongNumber
    else if maxTimes < low ∨ maxTimes < most.getD 0 then .error .tooBig
    else .ok ((low, most), rest.drop (if g.extended then 1 else 2))

/-- Reads a sign that says how often what stands before it may come. -/
def times? (g : Grammar) (t : Text) : Option (Except Fault (Times × Text)) :=
  match t with
  | '*' :: rest => some (.ok ((0, none), rest))
  | '+' :: rest => if g.extended then some (.ok ((1, none), rest)) else none
  | '?' :: rest => if g.extended then some (.ok ((0, some 1), rest)) else none
  | '\x7b' :: rest =>
    if g.extended then
      match timesOf g rest with
      | .ok found => some (.ok found)
      | .error fault => if g.strict ∨ fault = .tooBig then some (.error fault) else none
    else none
  | '\\' :: '+' :: rest => if g.extended then none else some (.ok ((1, none), rest))
  | '\\' :: '?' :: rest => if g.extended then none else some (.ok ((0, some 1), rest))
  | '\\' :: '\x7b' :: rest => if g.extended then none else some (timesOf g rest)
  | _ => none

/-- Puts the signs behind an expression to it. -/
def repeated (g : Grammar) (r : Regex) : Nat → Text → Except Fault (Regex × Text)
  | 0, t => .ok (r, t)
  | fuel + 1, t =>
    match times? g t with
    | none => .ok (r, t)
    | some (.error fault) => .error fault
    | some (.ok ((least, most), rest)) => repeated g (.again r least most) fuel rest

/-! ### Expressions -/

/-- Whether a text starts with the sign for a choice. -/
def startsChoice (g : Grammar) : Text → Bool
  | '|' :: _ => g.extended
  | '\\' :: '|' :: _ => !g.extended
  | _ => false

/-- Whether a text starts with the sign that closes a group. -/
def startsClose (g : Grammar) : Text → Bool
  | ')' :: _ => g.extended
  | '\\' :: ')' :: _ => !g.extended
  | _ => false

/-- What is being read: how many groups have been opened, those that are closed, and how many are open. -/
structure Reading where
  groups : Nat := 0
  closed : List Nat := []
  depth : Nat := 0

/-- The character whose number stands behind a letter: in hexadecimal, octal or decimal digits. -/
def numbered? (c : Char) (rest : Text) : Option (Char × Text) :=
  let number (base most : Nat) (isDigit : Char → Bool) : Option (Char × Text) :=
    let digits := (rest.take most).takeWhile isDigit
    if digits = [] then none else some (Char.ofNat (Text.natOfDigits base digits % 256), rest.drop digits.length)
  match c, rest with
  | 'x', _ => number 16 2 Text.isHexDigit
  | 'o', _ => number 8 3 Text.isOctalDigit
  | 'd', _ => number 10 3 Char.isDigit
  | 'c', d :: more => some (Char.ofNat (d.toUpper.toNat ^^^ 64), more)
  | _, _ => none

/-- The meaning of a character behind a backslash that is no sign. -/
def escaped (g : Grammar) (s : Reading) (c : Char) (rest : Text) : Except Fault (Regex × Text) :=
  let word (r : Regex) : Except Fault (Regex × Text) := .ok (if g.wide then r else literal g c, rest)
  match c with
  | 'w' => word (wordSet true)
  | 'W' => word (wordSet false)
  | 's' => word (spaceSet true)
  | 'S' => word (spaceSet false)
  | 'b' => word .wordEdge
  | 'B' => word .noWordEdge
  | '<' => word .wordStart
  | '>' => word .wordEnd
  | '\x60' => word .textStart
  | '\'' => word .textEnd
  | c =>
    if g.wide ∧ c.isDigit ∧ c ≠ '0' then
      let n := Text.digitValue c
      if s.closed.contains n then .ok (.same n g.ignoreCase, rest) else .error .wrongReference
    else match if g.controls then numbered? c rest else none, if g.controls then control? c else none with
      | some (d, rest), _ => .ok (literal g d, rest)
      | none, some d => .ok (literal g d, rest)
      | none, none =>
        if g.inBrackets ∧ Text.isOctalDigit c = true then
          let digits := ((c :: rest).take 3).takeWhile Text.isOctalDigit
          .ok (literal g (Char.ofNat (Text.natOfDigits 8 digits % 256)), (c :: rest).drop digits.length)
        else .ok (literal g c, rest)

mutual

/-- Reads a choice between expressions. -/
def choice (g : Grammar) : Nat → Reading → Text → Except Fault (Regex × Reading × Text)
  | 0, _, _ => .error .tooBig
  | fuel + 1, s, t => do
    let (a, s, rest) ← row g fuel s none t
    if startsChoice g rest then
      let (b, s, rest) ← choice g fuel s (rest.drop (if g.extended then 1 else 2))
      return (.either a b, s, rest)
    else return (a, s, rest)

/-- Reads expressions that follow each other, behind the one that is given. -/
def row (g : Grammar) : Nat → Reading → Option Regex → Text → Except Fault (Regex × Reading × Text)
  | 0, _, _, _ => .error .tooBig
  | fuel + 1, s, before, t => do
    let add (r : Regex) : Regex := match before with
      | none => r
      | some b => .seq b r
    let atStart := match before with
      | none | some .lineStart => true
      | some _ => false
    if t = [] ∨ startsChoice g t then return (before.getD .empty, s, t)
    else if startsClose g t && (s.depth ≠ 0 || !(g.extended && g.lenient)) then
      if s.depth = 0 then .error .unmatchedClose else return (before.getD .empty, s, t)
    else
      let finish (r : Regex) (s : Reading) (rest : Text) : Except Fault (Regex × Reading × Text) := do
        let (r, rest) ← repeated g r (rest.length + 1) rest
        row g fuel s (some (add r)) rest
      let open? := match t with
        | '(' :: rest => if g.extended then some rest else none
        | '\\' :: '(' :: rest => if g.extended then none else some rest
        | _ => none
      match open? with
      | some rest =>
        let n := s.groups + 1
        let (r, s', rest) ← choice g fuel { s with groups := n, depth := s.depth + 1 } rest
        if startsClose g rest then
          finish (.group n r) { s' with closed := n :: s'.closed, depth := s.depth } (rest.drop (if g.extended then 1 else 2))
        else .error .unmatchedOpen
      | none =>
        match t with
        | [] => return (before.getD .empty, s, [])
        | '^' :: rest =>
          if g.extended ∨ before.isNone then
            -- a star behind the sign for a start stands for itself
            match rest, g.extended with
            | '*' :: more, false => finish (.seq .lineStart (literal g '*')) s more
            | rest, _ => row g fuel s (some (add .lineStart)) rest
          else finish (literal g '^') s rest
        | '$' :: rest =>
          if g.extended ∨ rest = [] ∨ startsChoice g rest = true ∨ (startsClose g rest = true ∧ s.depth ≠ 0) then
            row g fuel s (some (add .lineEnd)) rest
          else finish (literal g '$') s rest
        | '.' :: rest => finish anyCharacter s rest
        | '[' :: rest => do
          let (r, rest) ← bracket g rest
          finish r s rest
        | ['\\'] => .error .trailingBackslash
        | t =>
          match if atStart then times? g t else none with
          | some (.ok (_, rest)) =>
            if g.extended then
              if g.strict then .error .nothingBefore else row g fuel s before rest
            else match t with
              | '*' :: rest => finish (literal g '*') s rest
              | '\\' :: c :: rest => if g.lenient then finish (literal g c) s rest else .error .nothingBefore
              | _ => .error .nothingBefore
          | some (.error fault) => .error fault
          | none =>
            match t with
            | '\\' :: c :: rest => do
              let (r, rest) ← escaped g s c rest
              finish r s rest
            | c :: rest => finish (literal g c) s rest
            | [] => return (before.getD .empty, s, [])

end

/-- Reads an expression; gives also how many groups it has. -/
def read (g : Grammar) (t : Text) : Except Fault (Regex × Nat) := do
  let (r, s, _) ← choice g (4 * t.length + 8) {} t
  return (r, s.groups)

/-- The expression that a text stands for character by character. -/
def ofText (ignoreCase : Bool) (t : Text) : Regex :=
  match t with
  | [] => .empty
  | [c] => literal { extended := true, ignoreCase } c
  | c :: rest => .seq (literal { extended := true, ignoreCase } c) (ofText ignoreCase rest)

end Flowchart.Regex
