import Flowchart.Session.Save
import Flowchart.Settings.Basic

/-!
Sessions. A session keeps its settings and the chart of the last text it was given; each text replaces the
chart of the one before. Saving changes neither, and without a chart it asks nothing of the engine.
-/

namespace Flowchart

open Files

/-- The settings and the current chart. -/
structure Session where
  settings : Settings
  chart? : Option Chart
deriving DecidableEq, Repr

namespace Session

def start (settings : Settings) : Session := ⟨settings, none⟩

/-- Makes the chart of a source text the current one. -/
def convert (s : Session) (source : Text) : Session :=
  { s with chart? := some (Chart.ofSource s.settings.chart source) }

def save {μ : Type} (engine : Engine μ) (s : Session) (format : OutputFormat) (destination : Text)
    (t : Tree) (m : μ) : Except SaveError Saved × Tree × μ :=
  match s.chart? with
  | none => (.error .noChart, t, m)
  | some c => c.save engine format destination t m

/-- What a session is asked to do. -/
inductive Step where
  | convert (source : Text)
  | save (format : OutputFormat) (destination : Text)
deriving DecidableEq, Repr

/-- A session at work: the tree of files and the memory of its engine go with it. -/
structure Work (μ : Type) where
  session : Session
  tree : Tree
  memory : μ

/-- What a step answers: a save says what it made. -/
abbrev Answer := Option (Except SaveError Saved)

def Work.step {μ : Type} (engine : Engine μ) (w : Work μ) : Step → Answer × Work μ
  | .convert source => (none, { w with session := w.session.convert source })
  | .save format destination =>
    let (result, tree, memory) := w.session.save engine format destination w.tree w.memory
    (some result, { w with tree, memory })

/-- Takes steps one after the other. -/
def Work.run {μ : Type} (engine : Engine μ) (w : Work μ) : List Step → List Answer × Work μ
  | [] => ([], w)
  | s :: more =>
    let (answer, w) := w.step engine s
    let (answers, w) := w.run engine more
    (answer :: answers, w)

end Session

end Flowchart
