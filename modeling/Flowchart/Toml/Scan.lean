import Flowchart.Text.Digit

/-!
What TOML is made of below values: blanks, line ends, comments and numerals. A scanner takes the start of
a text and gives what it read and the text that is left.
-/

namespace Flowchart.Toml

/-- Whether a character is a blank within a line. -/
def isSpace (c : Char) : Bool := c == ' ' || c == '\t'

def skipSpace (t : Text) : Text := t.dropWhile isSpace

/-- Whether a character may stand in a comment, and in a string that knows no escapes if it does not end it. -/
def isShown (c : Char) : Bool := c == '\t' || (' ' ≤ c && c != '\x7f')

/-- What is left behind a line end. -/
def newline? : Text → Option Text
  | '\n' :: rest => some rest
  | '\r' :: '\n' :: rest => some rest
  | _ => none

/-- What is left behind the rest of a line that holds nothing but blanks and a comment. -/
def endLine? (t : Text) : Option Text :=
  let t := match skipSpace t with
    | '#' :: rest => rest.dropWhile isShown
    | t => t
  if t = [] then some [] else newline? t

/-- Skips blanks and line ends. -/
def skipLines : Text → Text
  | '\r' :: '\n' :: rest => skipLines rest
  | c :: rest => if isSpace c || c == '\n' then skipLines rest else c :: rest
  | [] => []

/-- Skips blanks, line ends and comments, starting within a comment if `comment` says so. -/
def skipGap (comment : Bool) : Text → Text
  | [] => []
  | '\r' :: '\n' :: rest => skipGap false rest
  | c :: rest =>
    if c = '\n' then skipGap false rest
    else if comment then (if isShown c then skipGap true rest else c :: rest)
    else if isSpace c then skipGap false rest
    else if c = '#' then skipGap true rest
    else c :: rest

/-! ### Digits -/

/-- The digits that a text starts with; an underscore may stand between two. -/
def moreDigits (isDigit : Char → Bool) : Text → Text × Text
  | [] => ([], [])
  | '_' :: c :: rest =>
    if isDigit c then
      let (digits, left) := moreDigits isDigit rest
      (c :: digits, left)
    else ([], '_' :: c :: rest)
  | c :: rest =>
    if isDigit c then
      let (digits, left) := moreDigits isDigit rest
      (c :: digits, left)
    else ([], c :: rest)

/-- One digit or more. -/
def digits? (isDigit : Char → Bool) : Text → Option (Text × Text)
  | [] => none
  | c :: rest =>
    if isDigit c then
      let (digits, left) := moreDigits isDigit rest
      some (c :: digits, left)
    else none

/-- Exactly `n` decimal digits, underscores not allowed. -/
def fixedDigits? : Nat → Text → Option (Text × Text)
  | 0, t => some ([], t)
  | _ + 1, [] => none
  | n + 1, c :: rest => if c.isDigit then (fixedDigits? n rest).map fun p => (c :: p.1, p.2) else none

/-- Whether a minus sign stands first, and what follows a sign. -/
def sign : Text → Bool × Text
  | '-' :: rest => (true, rest)
  | '+' :: rest => (false, rest)
  | t => (false, t)

/-- A decimal numeral: a sign, if any, and digits of which the first is zero only if it is the last. -/
def decimal? (t : Text) : Option (Bool × Text × Text) := do
  let (negative, t) := sign t
  match t with
  | '0' :: rest => some (negative, ['0'], rest)
  | _ =>
    let (digits, rest) ← digits? Char.isDigit t
    return (negative, digits, rest)

end Flowchart.Toml
