import Flowchart.Dot.Document
import Flowchart.Engine.Basic
import Flowchart.Output.Page
import Flowchart.Output.Path

/-!
Saving a chart. The engine is asked once for an image, at the base of the destination with the extension
of the image. For the page format a page that shows the image is written beside it once the image is made.
If the engine fails no page is written.
-/

namespace Flowchart

open Files

/-- Why a chart is not saved. -/
inductive SaveError where
  /-- There is no chart. -/
  | noChart
  /-- The engine fails. -/
  | engine (error : EngineError)
  /-- The page cannot be written. -/
  | page (path : Text) (fault : Fault)
deriving DecidableEq, Repr

namespace SaveError

def message : SaveError → Text
  | noChart => "no flowchart to save, convert some DSL first".toList
  | engine error => error.message
  | page path fault => "failed to write '".toList ++ path ++ "': ".toList ++ fault.message

/-- Whether making a chart first would help. -/
def isNoChart : SaveError → Bool
  | noChart => true
  | _ => false

end SaveError

/-- The files that a save made, in their order. -/
structure Saved where
  files : List Text
deriving DecidableEq, Repr

/-- The file that was asked for: the page, or else the image. -/
def Saved.primary? (s : Saved) : Option Text := s.files.getLast?

namespace Chart

/-- What the engine is asked for when a chart is saved. -/
def request (c : Chart) (format : OutputFormat) (destination : Text) : Request :=
  { document := Dot.document c
    format := format.imageFormat
    output := Path.withSuffix (Path.base destination) format.imageFormat.extension }

def pagePath (destination : Text) : Text :=
  Path.withSuffix (Path.base destination) OutputFormat.page.extension

/-- The name by which the page refers to the image. -/
def imageName (destination : Text) : Text :=
  Path.withSuffix (Path.name (Path.base destination)) OutputFormat.page.imageFormat.extension

def save {μ : Type} (engine : Engine μ) (c : Chart) (format : OutputFormat) (destination : Text)
    (t : Tree) (m : μ) : Except SaveError Saved × Tree × μ :=
  let request := c.request format destination
  match engine.render request t m with
  | (.error e, t, m) => (.error (.engine e), t, m)
  | (.ok (), t, m) =>
    match format with
    | .image _ => (.ok ⟨[request.output]⟩, t, m)
    | .page =>
      let page := pagePath destination
      match t.write page (Text.encode (Page.page (imageName destination))) with
      | (.ok (), t) => (.ok ⟨[request.output, page]⟩, t, m)
      | (.error fault, t) => (.error (.page page fault), t, m)

end Chart

end Flowchart
