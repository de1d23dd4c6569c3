import Flowchart.Files.Access
import Flowchart.Output.Format

/-!
Rendering engines. An engine is asked to make an image of a document at a path. It may change the tree of
files as it likes and remember what it likes, and it succeeds or fails; nothing else is known of it. Three
simple engines are given here: one that writes the document itself, one that does nothing, and one that
always fails.
-/

namespace Flowchart

open Files

/-- What an engine is asked for. -/
structure Request where
  /-- The document to draw. -/
  document : Text
  format : ImageFormat
  /-- The path of the image. -/
  output : Text
deriving DecidableEq, Repr

/-- Why an engine fails. -/
inductive EngineError where
  /-- The program cannot be started. -/
  | notStarted (program : Text) (fault : Fault)
  /-- The program ends without success. -/
  | failed (program status errors : Text)
  /-- A file cannot be written or removed. -/
  | inaccessible (path : Text) (fault : Fault)
deriving DecidableEq, Repr

def EngineError.message : EngineError → Text
  | notStarted program fault => "failed to run '".toList ++ program ++ "': ".toList ++ fault.message
  | failed program status errors =>
    '\'' :: (program ++ "' exited with ".toList ++ status ++ ": ".toList ++ errors)
  | inaccessible path fault => "failed to access '".toList ++ path ++ "': ".toList ++ fault.message

/-- An engine with a memory of type `μ`. -/
structure Engine (μ : Type) where
  render : Request → Tree → μ → Except EngineError Unit × Tree × μ

namespace Engine

/-- Remembers every request and writes its document to the path of the image. -/
def recording : Engine (List Request) where
  render r t calls :=
    match t.write r.output (Text.encode r.document) with
    | (.ok (), t) => (.ok (), t, calls ++ [r])
    | (.error fault, t) => (.error (.inaccessible r.output fault), t, calls ++ [r])

/-- Remembers every request and does nothing. -/
def silent : Engine (List Request) where
  render r t calls := (.ok (), t, calls ++ [r])

/-- Fails in the same way whatever it is asked for. -/
def failing (error : EngineError) : Engine Unit where
  render _ t m := (.error error, t, m)

end Engine

end Flowchart
