import Flowchart.Proofs.Dot.Reading
import Flowchart.Proofs.Finding.Clean
import Flowchart.Proofs.Source.Grammar
import Mathlib.Data.List.Forall2

/-! The attribution of a chart.

A chart lists what was declared and ends in its attribution. That node is told from the
others by its id and its shape and not by its place, and declared nodes may have any id;
since no kind is drawn in its shape (`isAttribution_ofDecls`), to search a chart, to leave
its attribution out and to print it all keep the order of the declarations:
`ofDecls_keeps_order`.

Nothing is said of the ends of edges. Building a chart adds no edge, so those at the
attribution are the ones that a line of the text declares by its id (`mem_edges_iff`),
and it stands alone exactly in a text without such a line: `attribution_touched_iff`. -/
namespace Flowchart.Chart

open Source

/-! ### The chart of some declarations -/

section Decls
variable (attributes : Attributes) (nodes : List NodeDecl) (edges : List EdgeDecl)

/-- The last node of a chart is an attribution and no other one is. -/
theorem isAttribution_ofDecls :
    (ofDecls attributes nodes edges).nodes.map Node.isAttribution = List.replicate nodes.length false ++ [true] := by
  have hstyled : Node.isAttribution ∘ Node.styled = fun _ => false := funext Node.isAttribution_styled
  show (nodes.map Node.styled ++ [Node.attribution]).map Node.isAttribution = _
  rw [List.map_append, List.map_map, hstyled, List.map_const']
  rfl

/-- An id stands for the first node that is declared by it, and the attribution comes after all of these. -/
theorem node?_ofDecls (id : Text) :
    (ofDecls attributes nodes edges).node? id =
      match nodes.find? fun d => d.id = id with
      | some d => some (.styled d)
      | none => if id = attributionId then some .attribution else none := by
  have hnode? : (ofDecls attributes nodes edges).node? id =
      ((nodes.find? fun d => d.id = id).map Node.styled).or ([Node.attribution].find? fun n => n.id = id) := by
    show (nodes.map Node.styled ++ [Node.attribution]).find? _ = _
    rw [List.find?_append, List.find?_map]
    rfl
  rw [hnode?]
  cases nodes.find? fun d => d.id = id with
  | some d => rfl
  | none =>
    have hattribution : Node.attribution.id = attributionId := rfl
    by_cases h : id = attributionId
    · simp [h, hattribution]
    · simp [h, hattribution, Ne.symm h]

theorem forall₂_edges_ofDecls :
    List.Forall₂ (fun d e => e.source = d.source ∧ e.target = d.target ∧ e.label = d.condition) edges
      (ofDecls attributes nodes edges).edges := by
  show List.Forall₂ _ edges (edges.map Edge.ofDecl)
  rw [List.forall₂_map_right_iff]
  exact List.forall₂_same.2 fun d _ => ⟨rfl, rfl, rfl⟩

/-- What is said of all nodes and edges comes first, then a statement for each node, each edge and the attribution. -/
theorem statements_ofDecls :
    ∃ whole shared, Dot.statements (ofDecls attributes nodes edges) =
      .graphDefaults whole :: .nodeDefaults shared ::
        (nodes.map (Dot.nodeStatement ∘ Node.styled) ++ edges.map (Dot.edgeStatement ∘ Edge.ofDecl) ++
          [Dot.nodeStatement .attribution]) := by
  have hedges : (ofDecls attributes nodes edges).edges = edges.map Edge.ofDecl := rfl
  rw [Dot.statements, flowNodes_ofDecls, attributions_ofDecls, hedges, List.map_map, List.map_map]
  exact ⟨_, _, rfl⟩

end Decls

/-- **A chart keeps the order of its declarations and ends in its attribution**, whatever ids and kinds are declared.
Its last node is an attribution and no other one is, so that without attributions it has the declared nodes and no
fewer; its edges are the declared ones, the condition as the label. An id stands for the first node that is declared
by it, then for the attribution. Its document has a statement for each declared node, then one for each
edge, and then one for the attribution, and it is read as these. -/
theorem ofDecls_keeps_order (attributes : Attributes) (nodes : List NodeDecl) (edges : List EdgeDecl) :
    let c := ofDecls attributes nodes edges
    c.nodes = nodes.map Node.styled ++ [Node.attribution] ∧
    c.nodes.map Node.isAttribution = List.replicate nodes.length false ++ [true] ∧
    c.flowNodes = nodes.map Node.styled ∧
    List.Forall₂ (fun d e => e.source = d.source ∧ e.target = d.target ∧ e.label = d.condition) edges c.edges ∧
    (∀ id, c.node? id =
      match nodes.find? fun d => d.id = id with
      | some d => some (.styled d)
      | none => if id = attributionId then some .attribution else none) ∧
    ∃ whole shared,
      let statements := .graphDefaults whole :: .nodeDefaults shared ::
        (nodes.map (Dot.nodeStatement ∘ Node.styled) ++ edges.map (Dot.edgeStatement ∘ Edge.ofDecl) ++
          [Dot.nodeStatement .attribution])
      Dot.document c = Dot.printDocument statements ∧
        Dot.read? (Dot.document c) = some (statements.map Dot.Statement.settled) := by
  intro c
  refine ⟨rfl, isAttribution_ofDecls attributes nodes edges, flowNodes_ofDecls attributes nodes edges,
    forall₂_edges_ofDecls attributes nodes edges, node?_ofDecls attributes nodes edges, ?_⟩
  obtain ⟨whole, shared, hstatements⟩ := statements_ofDecls attributes nodes edges
  refine ⟨whole, shared, ?_⟩
  rw [← hstatements]
  exact ⟨rfl, Dot.read?_printDocument _⟩

/-- A declared node may have the attribution's id, and it is the one that is found by it. -/
example :
    let c := ofDecls {} [⟨attributionId, .other "plaintext".toList, "Made by Mandeep Singh".toList⟩] []
    c.flowNodes.length = 1 ∧ (c.node? attributionId).map Node.shape = some .box := by
  decide

/-! ### The chart of a text -/

/-- An edge with the attribution's id at one of its ends. -/
def Edge.TouchesAttribution (e : Edge) : Prop := e.source = attributionId ∨ e.target = attributionId

/-- A chart with one attribution that no edge touches. -/
structure AttributionApart (c : Chart) : Prop where
  one : c.attributions = [Node.attribution]
  apart : ∀ e ∈ c.edges, e.source ≠ attributionId ∧ e.target ≠ attributionId

/-- The edges of a text's chart are those that its lines declare. -/
theorem mem_edges_iff {attributes : Attributes} {source : Text} {e : Edge} :
    e ∈ (ofSource attributes source).edges ↔
      ∃ line ∈ (sections source).edgeLines, ∃ p : EdgeParts, p.line = line.text ∧ e = .ofDecl p.decl := by
  have hedges : (records source).edges = edgeDecls source := sift_fst _ _
  show e ∈ (records source).edges.map Edge.ofDecl ↔ _
  rw [hedges, List.mem_map]
  constructor
  · rintro ⟨d, hd, rfl⟩
    obtain ⟨line, hline, hread⟩ := List.mem_filterMap.1 hd
    obtain ⟨p, hp⟩ := EdgeParts.exists_of_ofLine? hread
    rw [← hp, p.ofLine?_line, Option.some.injEq] at hread
    exact ⟨line, hline, p, hp, by rw [hread]⟩
  · rintro ⟨line, hline, p, hp, rfl⟩
    exact ⟨p.decl, List.mem_filterMap.2 ⟨line, hline, by rw [← hp, p.ofLine?_line]⟩, rfl⟩

/-- In a text without findings every edge joins declared nodes, and none of these has the attribution's id. -/
theorem apart_of_clean (attributes : Attributes) {source : Text} (h : (records source).Clean) :
    (ofSource attributes source).AttributionApart := by
  have hfree := (nodup_append_singleton_iff.1 h.distinct).2
  refine ⟨attributions_ofDecls _ _ _, fun e he => ?_⟩
  obtain ⟨d, hd, rfl⟩ := List.mem_map.1 he
  obtain ⟨hsource, htarget⟩ := h.joined d hd
  exact ⟨hfree d.source hsource, hfree d.target htarget⟩

/-- **A chart has one attribution, at its end, and an edge touches it exactly if a line of the text declares that
edge by the attribution's id.** So the attribution stands apart unless an edge line names it, and it always does in a
text without findings. -/
theorem attribution_touched_iff (attributes : Attributes) (source : Text) :
    let c := ofSource attributes source
    (c.attributions = [Node.attribution] ∧ c.nodes.getLast? = some .attribution) ∧
    (∀ e, e ∈ c.edges ∧ e.TouchesAttribution ↔
      ∃ line ∈ (sections source).edgeLines, ∃ p : EdgeParts, p.line = line.text ∧ e = .ofDecl p.decl ∧
        (p.source = attributionId ∨ p.target = attributionId)) ∧
    (c.AttributionApart ↔
      ∀ line ∈ (sections source).edgeLines, ∀ p : EdgeParts, p.line = line.text →
        p.source ≠ attributionId ∧ p.target ≠ attributionId) ∧
    (findings source = [] → c.AttributionApart) := by
  intro c
  have hone : c.attributions = [Node.attribution] := attributions_ofDecls _ _ _
  have hlast : c.nodes.getLast? = some .attribution := List.getLast?_concat
  refine ⟨⟨hone, hlast⟩, fun e => ?_, ?_, fun h => apart_of_clean attributes ((findings_eq_nil_iff source).1 h)⟩
  · rw [mem_edges_iff]
    constructor
    · rintro ⟨⟨line, hline, p, hp, rfl⟩, htouches⟩
      exact ⟨line, hline, p, hp, rfl, htouches⟩
    · rintro ⟨line, hline, p, hp, rfl, htouches⟩
      exact ⟨⟨line, hline, p, hp, rfl⟩, htouches⟩
  · constructor
    · intro h line hline p hp
      exact h.apart (.ofDecl p.decl) (mem_edges_iff.2 ⟨line, hline, p, hp, rfl⟩)
    · refine fun h => ⟨hone, fun e he => ?_⟩
      obtain ⟨line, hline, p, hp, rfl⟩ := mem_edges_iff.1 he
      exact h line hline p hp

/-- Ids that differ from the attribution's in a letter's case or by a digit, and a condition that is the same word. -/
theorem attribution_touched_similar :
    let source := "Watermark=>start: W\nwatermark1=>end: V\n\nWatermark(watermark)->watermark1".toList
    findings source = [] ∧ (ofSource {} source).AttributionApart := by
  intro source
  have hfindings : findings source = [] := by decide +kernel
  exact ⟨hfindings, (attribution_touched_iff {} source).2.2.2 hfindings⟩

/-- An edge may lead to the attribution. -/
theorem not_apart_of_named :
    let c := ofSource {} "a=>start: A\n\na->watermark".toList
    c.edges = [⟨"a".toList, attributionId, none⟩] ∧ ¬ c.AttributionApart := by
  intro c
  have hedges : c.edges = [⟨"a".toList, attributionId, none⟩] := by decide +kernel
  refine ⟨hedges, fun h => ?_⟩
  exact (h.apart ⟨"a".toList, attributionId, none⟩ (by rw [hedges]; exact List.mem_cons_self)).2 rfl

end Flowchart.Chart
