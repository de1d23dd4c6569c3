import Flowchart.Finding.Basic

/-!
Findings shown on a terminal. What is to be shown of a finding is a `Note`: a warning for a place in a named text,
with a label in yellow for a part of it. Drawing it is the work of a library that is not known here, so a reporter
is any function from notes and texts to texts.

What a reporter writes is text, so that nothing is lost when its bytes are read back as UTF-8. If it fails, the
finding is shown in one line.
-/

namespace Flowchart

/-- A warning for an offset in a text, with a label for a range of offsets. -/
structure Note where
  message : Text
  filename : Text
  offset : Nat
  label : Span
  /-- What the label says. -/
  words : Text
deriving DecidableEq, Repr

/-- Draws a note for a source text, if it can. -/
abbrev Reporter := Note → Text → Option Text

namespace Finding

/-- The note for a finding. Its offsets are those of the line, which count bytes. -/
def note (f : Finding) (filename : Text) : Note where
  message := f.problem.message
  filename := filename
  offset := f.line.span.start
  label := f.line.span
  words := f.problem.category

/-- The report of a finding in a source text of the given name. -/
def report (reporter : Reporter) (source filename : Text) (f : Finding) : Text :=
  (reporter (f.note filename) source).getD f.summary

end Finding

end Flowchart
