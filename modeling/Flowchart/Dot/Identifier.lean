import Flowchart.Text.Basic

/-!
Identifiers of the DOT language. A word that is no keyword and a numeral stand as they are; any other text
is put between double quotes. Backslashes are kept, since DOT gives some of them a meaning of its own: a
quote gets a backslash before it unless it has one, and a backslash that would take the closing quote away
is doubled.
-/

namespace Flowchart.Dot

open Text

/-- The keywords of the language, which mean the same in upper and lower case. -/
def keywords : List Text :=
  ["node".toList, "edge".toList, "graph".toList, "digraph".toList, "subgraph".toList, "strict".toList]

def isKeyword (t : Text) : Bool := keywords.contains (t.map Char.toLower)

/-- Whether a character may start a bare word. -/
def isWordStart (c : Char) : Bool := c.isAlpha || c == '_'

/-- Whether a character may go on a bare word. -/
def isWordPart (c : Char) : Bool := c.isAlphanum || c == '_'

/-- Whether a text is a bare word that is no keyword. -/
def isPlain (t : Text) : Bool :=
  match t with
  | [] => false
  | c :: rest => isWordStart c && rest.all isWordPart && !isKeyword t

/-- Whether a text is a numeral: digits, at most one point among them, and a minus sign if need be. -/
def isNumeral (t : Text) : Bool :=
  let digits := (['-'].isPrefixOf? t).getD t
  match cut? '.' digits with
  | none => !digits.isEmpty && digits.all Char.isDigit
  | some (whole, fraction) =>
    !(whole.isEmpty && fraction.isEmpty) && whole.all Char.isDigit && fraction.all Char.isDigit

/-- The inside of a quoted identifier. `odd` says whether an odd run of backslashes stands before. -/
def escape (odd : Bool) : Text → Text
  | [] => if odd then ['\\'] else []
  | c :: rest =>
    if c = '\\' then c :: escape (!odd) rest
    else if c = '"' ∧ odd = false then '\\' :: c :: escape false rest
    else c :: escape false rest

/-- The form in which a text stands in a document as one identifier. -/
def quote (t : Text) : Text :=
  if isPlain t || isNumeral t then t else '"' :: (escape false t ++ ['"'])

end Flowchart.Dot
