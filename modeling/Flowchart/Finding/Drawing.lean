import Flowchart.Finding.Report
import Flowchart.Text.Digit
import Flowchart.Text.Width

/-!
A reporter. It quotes the row of the source in which a label starts, marks the characters of the label in colour,
draws a line below them and writes what the label says at the end of an arrow.

Offsets are taken for counts of characters, rows are cut at more characters than lines are, and columns count
characters. Of a label that goes on in other rows the first row and the last one are quoted, with an arrow from each
to a line at their left; one sign stands for all rows between them. A label may end one character behind the source,
where no row can show its end. If it lies further behind then only the message is written.
-/

namespace Flowchart.Report

open Text

/-! ### Rows -/

/-- Whether a character ends a row. -/
def endsRow (c : Char) : Bool :=
  c == '\n' || c == '\r' || c == '\x0b' || c == '\x0c' || c == '\u0085' || c == '\u2028' || c == '\u2029'

/-- Cuts a text behind every character that ends a row; a carriage return and a line feed end one row. -/
def rows : Text → List Text
  | [] => []
  | '\r' :: '\n' :: rest => ['\r', '\n'] :: rows rest
  | c :: rest =>
    if endsRow c then [c] :: rows rest
    else match rows rest with
      | [] => [[c]]
      | row :: more => (c :: row) :: more

/-- A row, its number, and the offset of its first character. -/
structure Row where
  number : Nat
  start : Nat
  text : Text
deriving DecidableEq, Repr

/-- The row that holds an offset, among rows of which the first one has the given number and start. An
offset behind the last row belongs to it. -/
def rowAt (number start offset : Nat) : List Text → Row
  | [] => ⟨number, start, []⟩
  | row :: more =>
    if more = [] ∨ offset < start + row.length then ⟨number, start, row⟩
    else rowAt (number + 1) (start + row.length) offset more

/-! ### Colours -/

/-- A text in the colour of a terminal code. -/
def paint (code : String) (t : Text) : Text := "\x1b[".toList ++ code.toList ++ 'm' :: (t ++ "\x1b[0m".toList)

def marked (t : Text) : Text := paint "33" t

def frame (t : Text) : Text := paint "38;5;246" t

/-- The colour of the margin below the quoted row. -/
def margin (t : Text) : Text := paint "38;5;240" t

/-- The colour of what is quoted and not marked. -/
def quoted (t : Text) : Text := paint "38;5;249" t

/-! ### Cells -/

/-- The cells that column `col` of a row takes: a tab goes on to the next multiple of four, any other blank
and any column behind the row takes one, and the rest takes its width. -/
def cells (row : Text) (col : Nat) : Nat :=
  match row[col]? with
  | none => 1
  | some c => if c = '\t' then 4 - col % 4 else if isBlank c then 1 else width c

/-- The same cell again and again. -/
def repeated (n : Nat) (cell : Text) : Text := (List.replicate n cell).flatten

/-- The columns that are marked in a row: from `start` to before `stop`. -/
structure Mark where
  start : Nat
  stop : Nat
deriving DecidableEq, Repr

namespace Mark

def holds (m : Mark) (col : Nat) : Bool := m.start ≤ col && col < m.stop

/-- The column from which the arrow goes. -/
def middle (m : Mark) : Nat := (m.start + m.stop) / 2

end Mark

/-- A row as it is quoted, and which of it is marked. Blanks are spaces, as many as they take cells. -/
def seen (row : Text) (m : Mark) : List (Char × Bool) :=
  row.zipIdx.flatMap fun (c, col) =>
    if isBlank c then List.replicate (cells row col) (' ', m.holds col) else [(c, m.holds col)]

/-- Characters in the colours of what is marked and what is not. -/
def coloured (cs : List (Char × Bool)) : Text := cs.flatMap fun (c, mark) => if mark then marked [c] else quoted [c]

/-- A line over some cells that starts with a sign of its own; over no cell there is none. -/
def ruled (sign : Char) (cells : Nat) : Text :=
  if cells = 0 then [] else marked [sign] ++ repeated (cells - 1) (marked ['─'])

/-- The line below the marked columns. -/
def underline (row : Text) (m : Mark) : Text :=
  (List.range (m.stop + 2)).flatMap fun col =>
    if col = m.middle then ruled '┬' (cells row col)
    else if m.holds col then repeated (cells row col) (marked ['─'])
    else repeated (cells row col) [' ']

/-- The arrow from below the middle of the marked columns to what the label says. -/
def arrow (row : Text) (m : Mark) : Text :=
  (List.range (m.stop + 2)).flatMap fun col =>
    if col = m.middle then ruled '╰' (cells row col)
    else if col < m.middle then repeated (cells row col) [' ']
    else repeated (cells row col) (marked ['─'])

/-! ### The parts of a drawing -/

def heading (note : Note) : Text := marked "Warning:".toList ++ ' ' :: (note.message ++ ['\n'])

/-- What stands before the number of a row in the line that names a place. -/
def corner (filename : Text) : Text := frame ['╭'] ++ frame ['─'] ++ frame ['['] ++ filename ++ [':']

def digits (n : Nat) : Nat := (decimal n).length

section Frame
variable (width : Nat)

/-- The spaces before the frame, where the numbers of rows have up to `width` digits. -/
def indent : Text := repeated (width + 2) [' ']

/-- The end of the line that names a place, and the line below it. -/
def gap : Text := frame [']'] ++ '\n' :: (indent width ++ frame ['│'] ++ ['\n'])

/-- What stands before a quoted row. -/
def label (number : Nat) : Text :=
  ' ' :: (frame (repeated (width - digits number) [' '] ++ decimal number ++ [' ', '│']) ++ [' '])

/-- What stands before the lines that quote no row. -/
def side (sign : Char) : Text := ' ' :: (margin (repeated (width + 1) [' '] ++ [sign]) ++ [' '])

def base : Text := frame (repeated (width + 2) ['─'] ++ ['╯']) ++ ['\n']

/-- The lines that name a place in a row. -/
def place (filename : Text) (number column : Nat) : Text :=
  indent width ++ corner filename ++ decimal number ++ ':' :: (decimal column ++ gap width)

/-- A quoted row with what is marked in it, and below it what the label says. -/
def excerpt (row : Row) (m : Mark) (words : Text) : Text :=
  let shown := trimEnd row.text
  label width row.number ++ coloured (seen shown m) ++ '\n' ::
    (side width '│' ++ underline shown m ++ '\n' :: (side width '│' ++ arrow shown m ++ ' ' :: (words ++ ['\n'])))

/-! ### Labels over several rows -/

/-- An arrow to a quoted row from the line at its left, where the line has the given sign. -/
def pointer (sign : Char) : Text := [sign, '─', '▶', ' '].flatMap fun c => marked [c]

/-- A cell again and again below a row, up to a little behind its end. -/
def below (row : Row) (cell : Text) : Text :=
  (List.range (row.text.length + 2)).flatMap fun col => repeated (cells (trimEnd row.text) col) cell

/-- The row in which a label starts that goes on. -/
def opening (row : Row) (m : Mark) : Text :=
  label width row.number ++ pointer '╭' ++ coloured (seen (trimEnd row.text) m) ++ ['\n']

/-- The sign for rows that are not quoted. -/
def omission : Text := side width '┆' ++ marked ['┆'] ++ "   \n".toList

/-- The row in which such a label ends, and below it what the label says. -/
def closing (row : Row) (m : Mark) (words : Text) : Text :=
  label width row.number ++ pointer '├' ++ coloured (seen (trimEnd row.text) m) ++ '\n' ::
    (side width '│' ++ marked ['│'] ++ "   ".toList ++ below row [' '] ++ '\n' ::
      (side width '│' ++ marked ['╰'] ++ repeated 3 (marked ['─']) ++ below row (marked ['─']) ++ ' ' :: (words ++ ['\n'])))

end Frame

/-- Whether a row holds the end of a label. -/
def Row.holds (row : Row) (span : Span) : Bool := span.stop ≤ row.start + row.text.length

/-- The columns of a row that a label marks. -/
def Row.mark (row : Row) (span : Span) : Mark := ⟨span.start - row.start, span.stop - row.start⟩

/-- What is quoted for a label from its first row to its last one. -/
def quotation (width : Nat) (first last : Row) (span : Span) (words : Text) : Text :=
  if first.number = last.number then
    if first.holds span then excerpt width first (first.mark span) words else side width '│' ++ ['\n']
  else
    opening width first (first.mark span) ++
      if last.holds span then
        (if first.number + 1 = last.number then [] else omission width) ++ closing width last (last.mark span) words
      else omission width

/-- Draws a note. An empty label, and one that starts elsewhere than the note, is not drawn. -/
def draw : Reporter := fun note source =>
  let span := note.label
  let first := rowAt 1 0 span.start (rows source)
  let last := rowAt 1 0 (span.stop - 1) (rows source)
  let width := digits last.number
  if note.offset ≠ span.start ∨ span.stop ≤ span.start then none
  else if source.length < span.start ∨ source.length + 1 < span.stop then some (heading note)
  else
    some (heading note ++ place width note.filename first.number (span.start - first.start + 1) ++
      quotation width first last span note.words ++ base width)

end Flowchart.Report
