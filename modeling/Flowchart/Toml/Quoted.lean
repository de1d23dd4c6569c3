import Flowchart.Toml.Scan

/-!
TOML strings. A basic string stands between double quotes and knows escapes, a literal string stands
between single quotes and knows none. Three quotes instead of one start a string that may go over several
lines: a line end right behind them does not count, every other line end is a line feed, and one or two
quotes may stand right before the three that end it.

`quote` writes any text as a basic string on one line.
-/

namespace Flowchart.Toml

open Text

/-- The character of a code point, if there is one. -/
def charOf? (n : Nat) : Option Char := if h : n.isValidChar then some (Char.ofNatAux n h) else none

/-- The character that exactly `n` hexadecimal digits stand for. -/
def hexChar? (n : Nat) (t : Text) : Option (Char × Text) := do
  let digits := t.take n
  if digits.length = n ∧ digits.all isHexDigit = true then
    let c ← charOf? (natOfDigits 16 digits)
    return (c, t.drop n)
  else none

/-- The character that an escape stands for, where the text behind the backslash is given. -/
def escape? : Text → Option (Char × Text)
  | 'b' :: rest => some ('\x08', rest)
  | 't' :: rest => some ('\t', rest)
  | 'n' :: rest => some ('\n', rest)
  | 'f' :: rest => some ('\x0c', rest)
  | 'r' :: rest => some ('\r', rest)
  | '"' :: rest => some ('"', rest)
  | '\\' :: rest => some ('\\', rest)
  | 'u' :: rest => hexChar? 4 rest
  | 'U' :: rest => hexChar? 8 rest
  | _ => none

/-- The rest of a basic string on one line. -/
def basic? : Nat → Text → Option (Text × Text)
  | 0, _ => none
  | _ + 1, [] => none
  | fuel + 1, c :: rest =>
    if c = '"' then some ([], rest)
    else if c = '\\' then do
      let (d, rest) ← escape? rest
      let (t, rest) ← basic? fuel rest
      return (d :: t, rest)
    else if isShown c then do
      let (t, rest) ← basic? fuel rest
      return (c :: t, rest)
    else none

/-- The rest of a literal string on one line. -/
def literal? (t : Text) : Option (Text × Text) :=
  match t.dropWhile fun c => isShown c && c != '\'' with
  | '\'' :: rest => some (t.takeWhile fun c => isShown c && c != '\'', rest)
  | _ => none

/-- What quotes in a row mean within a string of several lines: `none` if the string goes on behind the
first, else the quotes that still belong to it and what is left behind its end. -/
def closing? (quote : Char) (t : Text) : Option (Text × Text) :=
  let n := min (t.takeWhile (· = quote)).length 5
  if n < 3 then none else some (List.replicate (n - 3) quote, t.drop n)

/-- The rest of a basic string of several lines. -/
def basicLines? : Nat → Text → Option (Text × Text)
  | 0, _ => none
  | _ + 1, [] => none
  | fuel + 1, c :: rest =>
    if c = '"' then
      match closing? '"' (c :: rest) with
      | some (t, rest) => some (t, rest)
      | none => (basicLines? fuel rest).map fun p => (c :: p.1, p.2)
    else if c = '\\' then
      match escape? rest with
      | some (d, rest) => (basicLines? fuel rest).map fun p => (d :: p.1, p.2)
      | none => do
        let rest ← newline? (skipSpace rest)
        basicLines? fuel (skipLines rest)
    else if isShown c then (basicLines? fuel rest).map fun p => (c :: p.1, p.2)
    else do
      let rest ← newline? (c :: rest)
      (basicLines? fuel rest).map fun p => ('\n' :: p.1, p.2)

/-- The rest of a literal string of several lines. -/
def literalLines? : Nat → Text → Option (Text × Text)
  | 0, _ => none
  | _ + 1, [] => none
  | fuel + 1, c :: rest =>
    if c = '\'' then
      match closing? '\'' (c :: rest) with
      | some (t, rest) => some (t, rest)
      | none => (literalLines? fuel rest).map fun p => (c :: p.1, p.2)
    else if isShown c then (literalLines? fuel rest).map fun p => (c :: p.1, p.2)
    else do
      let rest ← newline? (c :: rest)
      (literalLines? fuel rest).map fun p => ('\n' :: p.1, p.2)

/-- A string of any kind. Every scanner here takes a character at each step, so the length of the text is
fuel enough. -/
def string? : Text → Option (Text × Text)
  | '"' :: '"' :: '"' :: rest => basicLines? (rest.length + 1) ((newline? rest).getD rest)
  | '"' :: rest => basic? (rest.length + 1) rest
  | '\'' :: '\'' :: '\'' :: rest => literalLines? (rest.length + 1) ((newline? rest).getD rest)
  | '\'' :: rest => literal? rest
  | _ => none

/-! ### Writing -/

/-- The form of a character in a basic string. -/
def escape (c : Char) : Text :=
  if c = '"' ∨ c = '\\' then ['\\', c]
  else if c < ' ' ∨ c = '\x7f' then '\\' :: 'u' :: hexadecimal 4 c.toNat
  else [c]

def quote (t : Text) : Text := '"' :: (t.flatMap escape ++ ['"'])

end Flowchart.Toml
