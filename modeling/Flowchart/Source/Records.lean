import Flowchart.Source.Declaration
import Flowchart.Source.Section

/-!
What a source text declares. Every line is read on its own in the light of its section: it is a
declaration or it is skipped, and a skipped line costs no other line. Reading never fails.
-/

namespace Flowchart.Source

/-- A line that is no declaration of its section. -/
structure Skipped where
  part : Section
  line : Line
deriving DecidableEq, Repr

/-- The declarations of a source text and the lines that it skips, each in the order of the text. -/
structure Records where
  nodes : List NodeDecl
  edges : List EdgeDecl
  skipped : List Skipped
deriving DecidableEq, Repr

/-- Divides lines into what `read?` makes of them and those it rejects. -/
def sift {α : Type} (read? : Text → Option α) : List Line → List α × List Line
  | [] => ([], [])
  | line :: more =>
    let (found, rejected) := sift read? more
    match read? line.text with
    | some a => (a :: found, rejected)
    | none => (found, line :: rejected)

def records (source : Text) : Records :=
  let s := sections source
  let (nodes, badNodes) := sift NodeDecl.ofLine? s.nodeLines
  let (edges, badEdges) := sift EdgeDecl.ofLine? s.edgeLines
  { nodes, edges, skipped := badNodes.map (⟨.node, ·⟩) ++ badEdges.map (⟨.edge, ·⟩) }

/-- The node declarations of a source text alone. -/
def nodeDecls (source : Text) : List NodeDecl :=
  (sections source).nodeLines.filterMap fun line => NodeDecl.ofLine? line.text

def edgeDecls (source : Text) : List EdgeDecl :=
  (sections source).edgeLines.filterMap fun line => EdgeDecl.ofLine? line.text

theorem sift_fst {α : Type} (read? : Text → Option α) (lines : List Line) :
    (sift read? lines).1 = lines.filterMap fun line => read? line.text := by
  induction lines with
  | nil => rfl
  | cons line more ih =>
    rw [sift]
    cases h : read? line.text <;> simp [h, ih]

theorem sift_snd {α : Type} (read? : Text → Option α) (lines : List Line) :
    (sift read? lines).2 = lines.filter fun line => (read? line.text).isNone := by
  induction lines with
  | nil => rfl
  | cons line more ih =>
    rw [sift]
    cases h : read? line.text <;> simp [h, ih]

end Flowchart.Source
