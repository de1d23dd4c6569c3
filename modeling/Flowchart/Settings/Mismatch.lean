import Flowchart.Number.Shortest
import Flowchart.Text.Visible
import Flowchart.Toml.Value

/-!
What is wrong with a setting. A mismatch says which value was found where another was expected, and where
in the document that is, as far as the value has bytes of its own.
-/

namespace Flowchart

open Toml

/-- What a setting has to be. -/
inductive Expected where
  | text
  | flag
  /-- A natural number of 32 bits. -/
  | word
  /-- The section for charts. -/
  | chartSection
  /-- The section for the engine. -/
  | engineSection
deriving DecidableEq, Repr

def Expected.name : Expected → Text
  | text => "a string".toList
  | flag => "a boolean".toList
  | word => "u32".toList
  | chartSection => "struct GraphAttributes".toList
  | engineSection => "struct EngineConfig".toList

/-- Why a setting is refused. -/
inductive Mismatch where
  /-- The value is of another type. -/
  | otherType (found : Value) (expected : Expected)
  /-- The number is out of range. -/
  | outOfRange (found : Int) (expected : Expected)
  /-- The name is none of those allowed. -/
  | unknownName (found : Text) (allowed : List Text)
  /-- A name is expected and the value is neither a string nor a table. -/
  | notAName
  /-- A name is written as a table, which has no entry. -/
  | noEntry
  /-- A name is written as a table, which has more than one entry. -/
  | manyEntries
  /-- A name is written as a table, the value in which is not empty. -/
  | notEmpty (found : Value)

/-- The words for a value that is of the wrong type. -/
def Toml.Value.describe : Value → Text
  | .string _ t => "string ".toList ++ Text.quoteVisibly t
  | .integer _ i => "integer `".toList ++ (toString i).toList ++ ['`']
  | .float _ x => "floating point `".toList ++ x.toText ++ ['`']
  | .boolean _ b => "boolean `".toList ++ (if b then "true".toList else "false".toList) ++ ['`']
  | .array .. | .tables _ => "sequence".toList
  | .datetime _ | .table .. => "map".toList

/-- The words for what a value ought to be that has to be empty. -/
def Toml.Value.describeNonEmpty : Value → Text
  | .string .. => "expected table, found string".toList
  | .integer .. => "expected table, found integer".toList
  | .float .. => "expected table, found float".toList
  | .boolean .. => "expected table, found boolean".toList
  | .datetime _ => "expected table, found datetime".toList
  | .tables _ => "expected empty array".toList
  | .array .. | .table .. => "expected empty table".toList

/-- Names in a list, each between backquotes. -/
def listNames (names : List Text) : Text :=
  ", ".toList.intercalate (names.map fun n => '`' :: (n ++ ['`']))

def Mismatch.reason : Mismatch → Text
  | otherType found expected =>
    "invalid type: ".toList ++ found.describe ++ ", expected ".toList ++ expected.name
  | outOfRange found expected =>
    "invalid value: integer `".toList ++ (toString found).toList ++ "`, expected ".toList ++ expected.name
  | unknownName found allowed =>
    "unknown variant `".toList ++ found ++ "`, expected one of ".toList ++ listNames allowed
  | notAName => "wanted string or table".toList
  | noEntry => "wanted exactly 1 element, found 0 elements".toList
  | manyEntries => "wanted exactly 1 element, more than 1 element".toList
  | notEmpty found => found.describeNonEmpty

/-- A mismatch and the bytes it is at, unknown for a table without bytes of its own. -/
structure Misfit where
  mismatch : Mismatch
  span? : Option Span

/-- Gives a misfit bytes if it has none. -/
def Misfit.orAt (span? : Option Span) (m : Misfit) : Misfit := { m with span? := m.span?.or span? }

end Flowchart
