import Flowchart.Engine.Basic
import Flowchart.Engine.Launch
import Flowchart.Output.Path
import Flowchart.Settings.Basic
import Flowchart.Text.Blank

/-!
The engine that runs a Graphviz program. The document is written next to the image, then the program is
started with the format, the path of the image and the path of the document. If the program succeeds the
document is removed, unless the settings keep it; in every other case it stays.
-/

namespace Flowchart.Graphviz

open Files

/-- The arguments that the program is started with. -/
def arguments (r : Request) (source : Text) : List Text :=
  ["-T".toList ++ r.format.extension, "-o".toList, r.output, source]

/-- Serves a request with a program. -/
def render (launch : Launch) (settings : EngineSettings) (r : Request) (t : Tree) :
    Except EngineError Unit × Tree :=
  let source := Path.dotSource r.output
  match t.write source (Text.encode r.document) with
  | (.error fault, t) => (.error (.inaccessible source fault), t)
  | (.ok (), written) =>
    match launch settings.program (arguments r source) written with
    | .error fault => (.error (.notStarted settings.program fault), written)
    | .ok (ended, left) =>
      if ended.exit ≠ .code 0 then
        (.error (.failed settings.program ended.exit.message (Text.trim (Text.lossy ended.errors))), left)
      else if settings.cleanup then
        match left.remove source with
        | .ok cleaned => (.ok (), cleaned)
        | .error fault => (.error (.inaccessible source fault), left)
      else (.ok (), left)

/-- The engine that runs a program, which remembers nothing. -/
def engine (launch : Launch) (settings : EngineSettings) : Engine Unit where
  render r t _ :=
    let (result, t) := render launch settings r t
    (result, t, ())

end Flowchart.Graphviz
