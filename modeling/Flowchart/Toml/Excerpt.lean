import Flowchart.Source.Line
import Flowchart.Text.Digit

/-!
Where something is wrong in a document. The excerpt names the line and the column, quotes the line and
puts carets below: one for each byte of the range, but no more than the bytes of the line exceed the
characters before the range, and one at least.
-/

namespace Flowchart.Toml

open Text

/-- The characters of a text before a byte offset. -/
def before (source : Text) (offset : Nat) : Text := slice source 0 offset

/-- An excerpt of a document with the reason why something is wrong with a range of its bytes. -/
def excerpt (source : Text) (span : Span) (reason : Text) : Text :=
  let ahead := before source span.start
  let index := ahead.count '\n'
  let number := decimal (index + 1)
  let column := (ahead.reverse.takeWhile (· ≠ '\n')).length
  let content := ((splitAt '\n' source)[index]?).getD []
  let gutter := List.replicate (number.length + 1) ' ' ++ ['|']
  let carets := max 1 (min (span.stop - span.start) (byteSize content - column))
  "TOML parse error at line ".toList ++ number ++ ", column ".toList ++ decimal (column + 1) ++ ['\n']
    ++ gutter ++ ['\n']
    ++ number ++ " | ".toList ++ content ++ ['\n']
    ++ gutter ++ List.replicate (column + 1) ' ' ++ List.replicate carets '^' ++ ['\n']
    ++ reason ++ ['\n']

end Flowchart.Toml
