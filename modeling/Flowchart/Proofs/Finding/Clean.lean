import Flowchart.Finding.Basic

/-! Texts without findings.

`findings` reads the lines on its own, with a set of ids that grows from line to line.
`inNodes_eq_nil_iff` and `inEdges_eq_nil_iff` say what it means for a section that
nothing is found, whatever ids were seen before. `findings_eq_nil_iff` puts them
together: nothing is found exactly if the declarations of the text are `Clean`. -/
namespace Flowchart

open Source

/-- Declarations that mean what they say: only blank lines are skipped, no id is given twice or taken from the
attribution, and every edge joins declared nodes. -/
structure Source.Records.Clean (r : Records) : Prop where
  blank : ∀ s ∈ r.skipped, Text.isAllBlank s.line.text = true
  distinct : (r.nodes.map NodeDecl.id ++ [Chart.attributionId]).Nodup
  joined : ∀ d ∈ r.edges, d.source ∈ r.nodes.map NodeDecl.id ∧ d.target ∈ r.nodes.map NodeDecl.id

namespace Finding

/-! ### One line -/

theorem ofRejected_eq_nil_iff {part : Section} {line : Line} :
    ofRejected part line = [] ↔ Text.isAllBlank line.text = true := by
  unfold ofRejected
  split <;> simp [*]

theorem ofNode_eq_nil_iff {seen : List Text} {line : Line} {id : Text} :
    ofNode seen line id = [] ↔ id ≠ Chart.attributionId ∧ id ∉ seen := by
  unfold ofNode
  split <;> split <;> simp [*]

theorem ofEnd_eq_nil_iff {declared : List Text} {line : Line} {id : Text} :
    ofEnd declared line id = [] ↔ id ∈ declared := by
  unfold ofEnd
  split <;> simp [*]

/-! ### The lines of a section -/

/-- The ids that are declared after a line are the ones before it and its own. -/
theorem mem_insert_iff {id other : Text} {seen : List Text} :
    other ∈ (if id ∈ seen then seen else id :: seen) ↔ other = id ∨ other ∈ seen := by
  split
  · rename_i h
    constructor
    · exact .inr
    · rintro (rfl | hother)
      · exact h
      · exact hother
  · exact List.mem_cons

theorem mem_inNodes_iff {id : Text} (seen : List Text) (lines : List Line) :
    id ∈ (inNodes seen lines).2 ↔ id ∈ seen ∨ id ∈ (sift NodeDecl.ofLine? lines).1.map NodeDecl.id := by
  induction lines generalizing seen with
  | nil => simp [inNodes, sift]
  | cons line more ih =>
    rw [inNodes, sift]
    cases hline : NodeDecl.ofLine? line.text with
    | none => exact ih seen
    | some d =>
      have hmore := ih (if d.id ∈ seen then seen else d.id :: seen)
      rw [mem_insert_iff] at hmore
      rw [hmore, List.map_cons, List.mem_cons, or_assoc]
      exact or_left_comm

/-- Nothing is found in the section of nodes exactly if its ids are new, distinct and not the attribution's. -/
theorem inNodes_eq_nil_iff (seen : List Text) (lines : List Line) :
    (inNodes seen lines).1 = [] ↔
      (∀ line ∈ (sift NodeDecl.ofLine? lines).2, Text.isAllBlank line.text = true) ∧
        ((sift NodeDecl.ofLine? lines).1.map NodeDecl.id).Nodup ∧
        ∀ id ∈ (sift NodeDecl.ofLine? lines).1.map NodeDecl.id, id ≠ Chart.attributionId ∧ id ∉ seen := by
  induction lines generalizing seen with
  | nil => simp [inNodes, sift]
  | cons line more ih =>
    rw [inNodes, sift]
    cases hline : NodeDecl.ofLine? line.text with
    | none =>
      simp only [List.append_eq_nil_iff, ofRejected_eq_nil_iff, ih seen, List.forall_mem_cons, and_assoc]
    | some d =>
      have hmore := ih (if d.id ∈ seen then seen else d.id :: seen)
      simp only [List.append_eq_nil_iff, ofNode_eq_nil_iff, hmore, List.map_cons, List.nodup_cons,
        List.forall_mem_cons, mem_insert_iff, not_or]
      constructor
      · rintro ⟨hd, hblank, hdistinct, hnew⟩
        refine ⟨hblank, ⟨fun hmem => (hnew _ hmem).2.1 rfl, hdistinct⟩, hd, fun id hid => ?_⟩
        exact ⟨(hnew id hid).1, (hnew id hid).2.2⟩
      · rintro ⟨hblank, ⟨hd, hdistinct⟩, hnew, hmore⟩
        refine ⟨hnew, hblank, hdistinct, fun id hid => ⟨(hmore id hid).1, ?_, (hmore id hid).2⟩⟩
        rintro rfl
        exact hd hid

theorem inEdges_eq_nil_iff (declared : List Text) (lines : List Line) :
    inEdges declared lines = [] ↔
      (∀ line ∈ (sift EdgeDecl.ofLine? lines).2, Text.isAllBlank line.text = true) ∧
        ∀ d ∈ (sift EdgeDecl.ofLine? lines).1, d.source ∈ declared ∧ d.target ∈ declared := by
  induction lines with
  | nil => simp [inEdges, sift]
  | cons line more ih =>
    rw [inEdges, sift]
    cases hline : EdgeDecl.ofLine? line.text with
    | none =>
      simp only [List.append_eq_nil_iff, ofRejected_eq_nil_iff, ih, List.forall_mem_cons, and_assoc]
    | some d =>
      simp only [List.append_eq_nil_iff, ofEnd_eq_nil_iff, ih, List.forall_mem_cons]
      exact and_left_comm

end Finding

/-! ### The chart of some declarations -/

theorem Chart.flowNodes_ofDecls (attributes : Attributes) (nodes : List NodeDecl) (edges : List EdgeDecl) :
    (Chart.ofDecls attributes nodes edges).flowNodes = nodes.map Chart.Node.styled := by
  have hnodes : (nodes.map Chart.Node.styled).filter (fun n => !n.isAttribution) = nodes.map Chart.Node.styled := by
    rw [List.filter_eq_self]
    simp
  simp [Chart.flowNodes, Chart.ofDecls, hnodes]

theorem Chart.attributions_ofDecls (attributes : Attributes) (nodes : List NodeDecl) (edges : List EdgeDecl) :
    (Chart.ofDecls attributes nodes edges).attributions = [Chart.Node.attribution] := by
  simp [Chart.attributions, Chart.ofDecls]

/-! ### The whole text -/

theorem nodup_append_singleton_iff {ids : List Text} {id : Text} :
    (ids ++ [id]).Nodup ↔ ids.Nodup ∧ ∀ other ∈ ids, other ≠ id := by
  simp [List.nodup_append]

/-- A text has no findings exactly if its declarations are clean. -/
theorem findings_eq_nil_iff (source : Text) : findings source = [] ↔ (records source).Clean := by
  have hnodes := Finding.inNodes_eq_nil_iff [] (sections source).nodeLines
  have hedges := Finding.inEdges_eq_nil_iff (Finding.inNodes [] (sections source).nodeLines).2
    (sections source).edgeLines
  have hdeclared (id : Text) : id ∈ (Finding.inNodes [] (sections source).nodeLines).2 ↔ _ :=
    Finding.mem_inNodes_iff [] (sections source).nodeLines
  simp only [List.not_mem_nil, not_false_eq_true, and_true, false_or] at hnodes hdeclared
  simp only [hdeclared] at hedges
  have hfindings : findings source = [] ↔
      (Finding.inNodes [] (sections source).nodeLines).1 = [] ∧
        Finding.inEdges (Finding.inNodes [] (sections source).nodeLines).2 (sections source).edgeLines = [] :=
    List.append_eq_nil_iff
  rw [hfindings, hnodes, hedges]
  constructor
  · rintro ⟨⟨hblank, hdistinct, hfree⟩, hmore, hjoined⟩
    refine ⟨fun s hs => ?_, nodup_append_singleton_iff.2 ⟨hdistinct, hfree⟩, hjoined⟩
    rcases List.mem_append.1 hs with hs | hs
    · obtain ⟨line, hline, rfl⟩ := List.mem_map.1 hs
      exact hblank line hline
    · obtain ⟨line, hline, rfl⟩ := List.mem_map.1 hs
      exact hmore line hline
  · intro h
    obtain ⟨hdistinct, hfree⟩ := nodup_append_singleton_iff.1 h.distinct
    refine ⟨⟨fun line hline => ?_, hdistinct, hfree⟩, fun line hline => ?_, h.joined⟩
    · exact h.blank ⟨.node, line⟩ (List.mem_append_left _ (List.mem_map_of_mem hline))
    · exact h.blank ⟨.edge, line⟩ (List.mem_append_right _ (List.mem_map_of_mem hline))

end Flowchart
