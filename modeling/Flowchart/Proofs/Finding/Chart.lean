import Flowchart.Proofs.Finding.Clean
import Flowchart.Proofs.Text.Run

/-! Findings and charts.

A text is looked through for findings without making its chart, and its chart is made
without looking for findings. `findings_eq_nil_iff_whole` says that the two agree:
nothing is found exactly if nothing but blank lines is missing from the chart and the
chart is `Whole`, whatever attributes it has. -/
namespace Flowchart

open Source

/-- A chart in which an id stands for one node, and every edge joins two nodes that were declared. -/
structure Chart.Whole (c : Chart) : Prop where
  distinct : (c.nodes.map Node.id).Nodup
  joined : ∀ e ∈ c.edges, e.source ∈ c.flowNodes.map Node.id ∧ e.target ∈ c.flowNodes.map Node.id

/-! ### The chart of some declarations -/

section Decls
variable (attributes : Attributes) (nodes : List NodeDecl) (edges : List EdgeDecl)

theorem Chart.ids_ofDecls :
    (ofDecls attributes nodes edges).nodes.map Node.id = nodes.map NodeDecl.id ++ [attributionId] := by
  show (nodes.map Node.styled ++ [Node.attribution]).map Node.id = _
  rw [List.map_append, List.map_map]
  rfl

theorem Chart.flowIds_ofDecls :
    (ofDecls attributes nodes edges).flowNodes.map Node.id = nodes.map NodeDecl.id := by
  rw [flowNodes_ofDecls, List.map_map]
  rfl

/-- The chart of declarations is whole exactly if their ids are distinct and not the attribution's, and their
edges join declared nodes. -/
theorem Chart.whole_ofDecls_iff :
    (ofDecls attributes nodes edges).Whole ↔
      (nodes.map NodeDecl.id ++ [attributionId]).Nodup ∧
        ∀ d ∈ edges, d.source ∈ nodes.map NodeDecl.id ∧ d.target ∈ nodes.map NodeDecl.id := by
  constructor
  · rintro ⟨hdistinct, hjoined⟩
    rw [ids_ofDecls] at hdistinct
    rw [flowIds_ofDecls] at hjoined
    exact ⟨hdistinct, fun d hd => hjoined (Edge.ofDecl d) (List.mem_map_of_mem hd)⟩
  · rintro ⟨hdistinct, hjoined⟩
    constructor
    · rw [ids_ofDecls]
      exact hdistinct
    · intro e he
      obtain ⟨d, hd, rfl⟩ := List.mem_map.1 he
      rw [flowIds_ofDecls]
      exact hjoined d hd

end Decls

/-! ### The chart of a text -/

/-- **Looking for findings is sound and complete for making charts.** Nothing is found in a text exactly if the
lines it skips are blank and its chart is whole. -/
theorem findings_eq_nil_iff_whole (attributes : Attributes) (source : Text) :
    findings source = [] ↔
      (∀ s ∈ (records source).skipped, Text.trim s.line.text = []) ∧ (Chart.ofSource attributes source).Whole := by
  have hwhole := Chart.whole_ofDecls_iff attributes (records source).nodes (records source).edges
  rw [findings_eq_nil_iff, Chart.ofSource, hwhole]
  constructor
  · rintro ⟨hblank, hdistinct, hjoined⟩
    exact ⟨fun s hs => Text.trim_eq_nil_iff.2 (hblank s hs), hdistinct, hjoined⟩
  · rintro ⟨hblank, hdistinct, hjoined⟩
    exact ⟨fun s hs => Text.trim_eq_nil_iff.1 (hblank s hs), hdistinct, hjoined⟩

end Flowchart
