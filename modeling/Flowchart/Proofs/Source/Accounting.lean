import Flowchart.Proofs.Source.Sections
import Flowchart.Source.Records

/-! Every line is accounted for once.

A reader who goes through the lines of a section takes each of them for a declaration or
skips it, and does nothing else: what he takes and what he skips keep the order of the lines
and make up all of them together (`Dealt`). `records` reads both sections like this
(`dealt_nodes`, `dealt_edges`), so no line of a text is lost and none counts twice. What is
skipped stands in the text in the order in which it is listed, each line where its bytes say.

`records_account` is the outcome for a whole text. -/
namespace Flowchart.Source

open Text

/-! ### The lines of one section -/

/-- Lines of a section dealt with one by one: each is taken for what `read?` makes of its text, or it is skipped. -/
inductive Dealt {α : Type} (part : Section) (read? : Text → Option α) : List Line → List α → List Skipped → Prop where
  | nil : Dealt part read? [] [] []
  | taken {line : Line} {lines : List Line} {a : α} {as : List α} {skips : List Skipped}
      (found : read? line.text = some a) (later : Dealt part read? lines as skips) :
      Dealt part read? (line :: lines) (a :: as) skips
  | skipped {line : Line} {lines : List Line} {as : List α} {skips : List Skipped}
      (rejected : read? line.text = none) (later : Dealt part read? lines as skips) :
      Dealt part read? (line :: lines) as (⟨part, line⟩ :: skips)

section

variable {α : Type} {part : Section} {read? : Text → Option α} {lines : List Line} {as : List α}
  {skips : List Skipped}

theorem dealt_sift (part : Section) (read? : Text → Option α) (lines : List Line) :
    Dealt part read? lines (sift read? lines).1 ((sift read? lines).2.map (⟨part, ·⟩)) := by
  induction lines with
  | nil => exact .nil
  | cons line lines ih =>
    rw [sift]
    cases h : read? line.text with
    | none => exact .skipped h ih
    | some a => exact .taken h ih

/-- No line is lost and none counts twice. -/
theorem Dealt.length_eq (h : Dealt part read? lines as skips) : as.length + skips.length = lines.length := by
  induction h with
  | nil => rfl
  | taken _ _ ih =>
    simp only [List.length_cons]
    omega
  | skipped _ _ ih =>
    simp only [List.length_cons]
    omega

/-- The skipped lines are lines that were dealt with, in the same order. -/
theorem Dealt.sublist (h : Dealt part read? lines as skips) : (skips.map Skipped.line).Sublist lines := by
  induction h with
  | nil => exact .slnil
  | taken _ _ ih => exact .cons _ ih
  | skipped _ _ ih => exact .cons_cons _ ih

end

/-! ### The lines of a text -/

/-- The lines that the section of nodes skips. -/
def skippedNodes (source : Text) : List Skipped :=
  (sift NodeDecl.ofLine? (sections source).nodeLines).2.map (⟨.node, ·⟩)

/-- The lines that the section of edges skips. -/
def skippedEdges (source : Text) : List Skipped :=
  (sift EdgeDecl.ofLine? (sections source).edgeLines).2.map (⟨.edge, ·⟩)

theorem dealt_nodes (source : Text) :
    Dealt .node NodeDecl.ofLine? (sections source).nodeLines (records source).nodes (skippedNodes source) :=
  dealt_sift .node _ _

theorem dealt_edges (source : Text) :
    Dealt .edge EdgeDecl.ofLine? (sections source).edgeLines (records source).edges (skippedEdges source) :=
  dealt_sift .edge _ _

theorem skipped_eq (source : Text) : (records source).skipped = skippedNodes source ++ skippedEdges source := rfl

/-- What is skipped are lines of the text in their order. -/
theorem skipped_sublist (source : Text) : ((records source).skipped.map Skipped.line).Sublist (bodyLines source) := by
  have hsections := ofLines_sublist (bodyLines source)
  rw [← sections_eq_ofLines] at hsections
  rw [skipped_eq, List.map_append]
  exact ((dealt_nodes source).sublist.append (dealt_edges source).sublist).trans hsections

/-- **Every line is accounted for once.** A line of the section of nodes is a node or it is skipped, a line of the
section of edges is an edge or it is skipped, each in the order of the text, so that there are as many nodes, edges
and skipped lines as there are lines. Reading the declarations of one kind alone gives the same ones. The bytes of a
skipped line end before those of the next one start, and they cut its text out of the source. -/
theorem records_account (source : Text) :
    (∃ inNodes inEdges : List Skipped,
      Dealt .node NodeDecl.ofLine? (sections source).nodeLines (records source).nodes inNodes ∧
      Dealt .edge EdgeDecl.ofLine? (sections source).edgeLines (records source).edges inEdges ∧
      (records source).skipped = inNodes ++ inEdges) ∧
    (records source).nodes.length + (records source).edges.length + (records source).skipped.length =
      (sections source).nodeLines.length + (sections source).edgeLines.length ∧
    (records source).nodes = nodeDecls source ∧ (records source).edges = edgeDecls source ∧
    ((records source).skipped.Pairwise fun s t =>
      s.line.span.start ≤ s.line.span.stop ∧ s.line.span.stop < t.line.span.start) ∧
    ∀ s ∈ (records source).skipped,
      s.line.Sits source ∧ slice source s.line.span.start s.line.span.stop = s.line.text := by
  have hnodes := dealt_nodes source
  have hedges := dealt_edges source
  refine ⟨⟨_, _, hnodes, hedges, skipped_eq source⟩, ?_, sift_fst _ _, sift_fst _ _, ?_, fun s hs => ?_⟩
  · have hnodesLength := hnodes.length_eq
    have hedgesLength := hedges.length_eq
    rw [skipped_eq, List.length_append]
    omega
  · have hordered := (bodyLines_pairwise source).sublist (skipped_sublist source)
    rw [List.pairwise_map] at hordered
    exact hordered.imp fun h => ⟨Nat.le_add_right _ _, h⟩
  · have hline : s.line ∈ bodyLines source := (skipped_sublist source).subset (List.mem_map_of_mem hs)
    have hsits := bodyLines_sits hline
    exact ⟨hsits, slice_of_sits hsits⟩

/-- A line is skipped in each section, the second one behind a letter of two bytes and a carriage return. -/
theorem records_account_mixed :
    let source := " ä?\r\na=>start: A\n\na->a\n?!\n".toList
    (records source).skipped = [⟨.node, ⟨"ä?".toList, 1⟩⟩, ⟨.edge, ⟨"?!".toList, 24⟩⟩] ∧
      (records source).nodes.length + (records source).edges.length + 2 = 4 ∧
      slice source 24 26 = "?!".toList := by
  intro source
  have hskipped : (records source).skipped = [⟨.node, ⟨"ä?".toList, 1⟩⟩, ⟨.edge, ⟨"?!".toList, 24⟩⟩] := by
    decide +kernel
  obtain ⟨-, hlength, -, -, -, hcut⟩ := records_account source
  have hlines : (sections source).nodeLines.length + (sections source).edgeLines.length = 4 := by decide +kernel
  rw [hskipped] at hlength hcut
  exact ⟨hskipped, hlength.trans hlines, (hcut ⟨.edge, ⟨"?!".toList, 24⟩⟩ (by simp)).2⟩

end Flowchart.Source
