import Flowchart.Rules.Program
import Flowchart.Text.Digit

/-!
The signs that programs of rules are written with: words, numbers, texts between quotes, and operators.
Comments and the ends of lines behind a backslash mean nothing.
-/

namespace Flowchart.Rules

inductive Token where
  | newline
  | word (t : Text)
  /-- A word right before a bracket. -/
  | call (t : Text)
  | number (x : Float)
  | text (t : Text)
  | operator (s : String)
  | finish

inductive Token.Fault where
  | openText (t : Text)
  | unexpected (c : Char)

/-- The operators; one that starts with another one comes first. -/
def operators : List String :=
  ["&&", "||", "==", "!=", "<=", ">=", "++", "--", "+=", "-=", "*=", "/=", "%=", "^=", "!~", ">>", "\x7b", "\x7d", "(", ")",
   "[", "]", ";", ",", "+", "-", "*", "/", "%", "^", "!", "<", ">", "|", "?", ":", "~", "$", "="]

/-- A text without the blanks, comments and ends of lines that mean nothing. -/
def overGaps : Nat → Text → Text
  | 0, t => t
  | fuel + 1, t =>
    match t with
    | '\\' :: '\n' :: rest => overGaps fuel rest
    | '\\' :: '\r' :: '\n' :: rest => overGaps fuel rest
    | '#' :: rest => overGaps fuel (rest.dropWhile (· ≠ '\n'))
    | c :: rest => if isGap c then overGaps fuel rest else c :: rest
    | [] => []

/-- Whether a character may stand in a word. -/
def isWordPart (c : Char) : Bool := c.isAlphanum || c == '_'

/-- What an escape stands for: the octet, and what follows it. -/
def escape? : Text → Option (Char × Text)
  | [] => none
  | c :: rest =>
    if Text.isOctalDigit c then
      let digits := ((c :: rest).take 3).takeWhile Text.isOctalDigit
      some (Char.ofNat (Text.natOfDigits 8 digits % 256), (c :: rest).drop digits.length)
    else if c = 'x' ∧ (rest.head?.map Text.isHexDigit).getD false = true then
      let digits := (rest.take 2).takeWhile Text.isHexDigit
      some (Char.ofNat (Text.natOfDigits 16 digits), rest.drop digits.length)
    else
      ([('"', '"'), ('\\', '\\'), ('a', '\x07'), ('b', '\x08'), ('f', '\x0c'), ('n', '\n'), ('r', '\r'), ('t', '\t'),
        ('v', '\x0b')].lookup c).map fun d => (d, rest)

def unescaped : Nat → Text → Text
  | 0, t => t
  | _ + 1, [] => []
  | fuel + 1, '\\' :: rest =>
    match escape? rest with
    | some (c, rest) => c :: unescaped fuel rest
    | none => '\\' :: unescaped fuel rest
  | fuel + 1, c :: rest => c :: unescaped fuel rest

/-- The text up to a quote, and what follows. -/
def quotedPart : Nat → Text → Option (Text × Text)
  | 0, _ => none
  | _ + 1, [] | _ + 1, '\n' :: _ => none
  | _ + 1, '"' :: rest => some ([], rest)
  | fuel + 1, '\\' :: '\n' :: rest => quotedPart fuel rest
  | fuel + 1, '\\' :: rest =>
    match escape? rest with
    | some (c, rest) => (quotedPart fuel rest).map fun p => (c :: p.1, p.2)
    | none => (quotedPart fuel rest).map fun p => ('\\' :: p.1, p.2)
  | fuel + 1, c :: rest => (quotedPart fuel rest).map fun p => (c :: p.1, p.2)

/-- The text of a regular expression up to the slash that ends it, and what follows. -/
def expressionPart (inSet : Bool) : Nat → Text → Option (Text × Text)
  | 0, _ => none
  | _ + 1, [] | _ + 1, '\n' :: _ => none
  | fuel + 1, '\\' :: '/' :: rest => (expressionPart inSet fuel rest).map fun p => ('/' :: p.1, p.2)
  | fuel + 1, '\\' :: c :: rest => (expressionPart inSet fuel rest).map fun p => ('\\' :: c :: p.1, p.2)
  | fuel + 1, '/' :: rest =>
    if inSet then (expressionPart inSet fuel rest).map fun p => ('/' :: p.1, p.2) else some ([], rest)
  | fuel + 1, '[' :: rest =>
    if inSet then (expressionPart true fuel rest).map fun p => ('[' :: p.1, p.2)
    else
      -- a bracket that comes first in a set does not close it
      let (start, rest) : Text × Text := match rest with
        | '^' :: ']' :: more => (['^', ']'], more)
        | '^' :: more => (['^'], more)
        | ']' :: more => ([']'], more)
        | more => ([], more)
      (expressionPart true fuel rest).map fun p => ('[' :: start ++ p.1, p.2)
  | fuel + 1, ']' :: rest => (expressionPart false fuel rest).map fun p => (']' :: p.1, p.2)
  | fuel + 1, c :: rest => (expressionPart inSet fuel rest).map fun p => (c :: p.1, p.2)

/-- The number that a text starts with, and what follows. -/
def numberPart (t : Text) : Float × Text :=
  let whole := t.takeWhile Char.isDigit
  let rest := t.drop whole.length
  let behind := if rest.head? = some '.' then '.' :: rest.tail.takeWhile Char.isDigit else []
  let rest := rest.drop behind.length
  let exponent : Text := match rest with
    | e :: more =>
      if e = 'e' ∨ e = 'E' then
        let sign := if more.head? = some '-' ∨ more.head? = some '+' then more.take 1 else []
        let digits := (more.drop sign.length).takeWhile Char.isDigit
        if digits = [] then [] else e :: sign ++ digits
      else []
    | [] => []
  (numberOf (whole ++ behind ++ exponent), rest.drop exponent.length)

/-- The first sign of a text without gaps before it, and what follows. -/
def token (t : Text) : Except Token.Fault (Token × Text) :=
  match t with
  | [] => .ok (.finish, [])
  | '\n' :: rest => .ok (.newline, rest)
  | '"' :: rest =>
    match quotedPart (rest.length + 1) rest with
    | some (t, rest) => .ok (.text t, rest)
    | none => .error (.openText (rest.takeWhile (· ≠ '\n')))
  | c :: rest =>
    if c.isDigit ∨ (c = '.' ∧ (rest.head?.map Char.isDigit).getD false = true) then
      let (x, rest) := numberPart t
      .ok (.number x, rest)
    else if c.isAlpha ∨ c = '_' then
      let name := t.takeWhile isWordPart
      let rest := t.drop name.length
      .ok (if rest.head? = some '(' then .call name else .word name, rest)
    else match operators.find? fun s => s.toList.isPrefixOf t with
      | some s => .ok (.operator s, t.drop s.length)
      | none => .error (.unexpected c)

end Flowchart.Rules
