import Flowchart.Text.Basic
import Flowchart.Text.Ranges

/-!
Blank characters and trimming. A character is blank if Unicode gives it the property White_Space.
`trim` takes the blanks off both ends of a text and leaves every other character where it is.
-/

namespace Flowchart.Text

/-- The ranges of the property White_Space. -/
def blankRanges : List CharRange :=
  [(0x9, 0xd), (0x20, 0x20), (0x85, 0x85), (0xa0, 0xa0), (0x1680, 0x1680), (0x2000, 0x200a), (0x2028, 0x2029),
   (0x202f, 0x202f), (0x205f, 0x205f), (0x3000, 0x3000)]

def isBlank (c : Char) : Bool := inRanges blankRanges c

/-- Takes the blanks off the start of a text. -/
def trimStart (t : Text) : Text := t.dropWhile isBlank

/-- Takes the blanks off the end of a text. -/
def trimEnd (t : Text) : Text := (t.reverse.dropWhile isBlank).reverse

def trim (t : Text) : Text := trimEnd (trimStart t)

/-- Whether every character of a text is blank. -/
def isAllBlank (t : Text) : Bool := t.all isBlank

@[simp] theorem trimStart_nil : trimStart [] = [] := rfl

@[simp] theorem trimEnd_nil : trimEnd [] = [] := rfl

@[simp] theorem trim_nil : trim [] = [] := rfl

end Flowchart.Text
