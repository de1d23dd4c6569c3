import Flowchart.Proofs.Dot.Effects
import Flowchart.Proofs.Dot.Reading
import Flowchart.Proofs.Finding.Clean
import Flowchart.Proofs.Source.RoundTrip
import Flowchart.Settings.Basic

/-! What the document of a text without findings draws.

The document of a chart first says what holds for all nodes, then names every node,
then joins them, and names the attribution last. `ofStatements_statements` is the
picture that this makes as long as the ids are distinct and the edges join nodes of
the chart, which a text without findings makes sure of: ids are words, and a word is
read as it was written.

`shows_of_findings_eq_nil` is the outcome. The picture has the declared nodes in their
order and the attribution behind them, each node looks as its own declaration says,
the edges are the declared ones, and none of them made a node. -/
namespace Flowchart.Dot

open Source (NodeDecl EdgeDecl Records records)

/-! ### The statements of a chart -/

/-- The attributes that a document gives a node. -/
def nodeAttributes (n : Chart.Node) : List Attribute :=
  [⟨"label".toList, n.label⟩, ⟨"shape".toList, n.shape.name⟩, ⟨"style".toList, n.drawing.name⟩]
    ++ (n.color.map (⟨"color".toList, ·⟩)).toList ++ (n.fontColor.map (⟨"fontcolor".toList, ·⟩)).toList

/-- A node of a chart as its document asks for it. -/
def Picture.Node.asked (n : Chart.Node) : Picture.Node :=
  ⟨settled n.id, (nodeAttributes n).map Attribute.settled⟩

/-- An edge of a chart as its document asks for it. -/
def Picture.Edge.asked (e : Chart.Edge) : Picture.Edge :=
  ⟨settled e.source, settled e.target, (e.label.map fun label => ⟨"label".toList, settled label⟩).toList⟩

theorem settled_nodeStatement (n : Chart.Node) :
    (nodeStatement n).settled = (Picture.Node.asked n).statement := rfl

theorem settled_edgeStatement (e : Chart.Edge) :
    (edgeStatement e).settled = (Picture.Edge.asked e).statement := by
  obtain ⟨source, target, label⟩ := e
  cases label <;> rfl

/-- The attributes of the whole picture. -/
def chartAttributes (a : Attributes) : List Attribute := [⟨"rankdir".toList, settled a.direction.name⟩]

/-- The attributes that hold for all nodes of a picture. -/
def defaultAttributes (a : Attributes) : List Attribute :=
  [⟨"fontname".toList, settled a.fontName⟩, ⟨"fontsize".toList, settled (Text.decimal a.fontSize.toNat)⟩,
    ⟨"shape".toList, settled a.nodeShape.name⟩]

/-- What a document says before it comes to the edges. -/
def nodeStatements (c : Chart) : List Statement :=
  .graphDefaults (chartAttributes c.attributes) :: .nodeDefaults (defaultAttributes c.attributes) ::
    (c.flowNodes.map Picture.Node.asked).map Picture.Node.statement

/-- What a document says of the edges and of the attributions. -/
def edgeStatements (c : Chart) : List Statement :=
  (c.edges.map Picture.Edge.asked).map Picture.Edge.statement ++
    (c.attributions.map Picture.Node.asked).map Picture.Node.statement

theorem settled_statements (c : Chart) :
    (statements c).map Statement.settled = nodeStatements c ++ edgeStatements c := by
  have hnodes (ns : List Chart.Node) : (ns.map nodeStatement).map Statement.settled =
      (ns.map Picture.Node.asked).map Picture.Node.statement := by
    rw [List.map_map, List.map_map]
    exact List.map_congr_left fun n _ => settled_nodeStatement n
  have hedges (es : List Chart.Edge) : (es.map edgeStatement).map Statement.settled =
      (es.map Picture.Edge.asked).map Picture.Edge.statement := by
    rw [List.map_map, List.map_map]
    exact List.map_congr_left fun e _ => settled_edgeStatement e
  rw [statements, List.map_cons, List.map_cons, List.map_append, List.map_append, hnodes, hedges, hnodes,
    List.append_assoc]
  rfl

/-- The document of a chart is read as its statements. -/
theorem read?_document (c : Chart) : read? (document c) = some (nodeStatements c ++ edgeStatements c) := by
  rw [document, read?_printDocument, settled_statements]

/-! ### The picture of a chart -/

namespace Picture

/-- The ids of a chart's nodes as its document names them. -/
def askedIds (ns : List Chart.Node) : List Text := ns.map fun n => settled n.id

/-- A node of a chart as it is drawn. -/
def Node.drawn (a : Attributes) (n : Chart.Node) : Node := (asked n).under (setAttributes [] (defaultAttributes a))

/-- What the document of a chart draws. -/
def ofChart (c : Chart) : Picture := ofStatements (nodeStatements c ++ edgeStatements c)

theorem ofDocument?_document (c : Chart) : ofDocument? (document c) = some (ofChart c) := by
  rw [ofDocument?, read?_document]
  rfl

/-- Ids are distinct and edges join nodes of the chart, in the form in which a document names them. -/
structure Sound (c : Chart) : Prop where
  distinct : (askedIds c.flowNodes ++ askedIds c.attributions).Nodup
  joined : ∀ e ∈ c.edges, settled e.source ∈ askedIds c.flowNodes ∧ settled e.target ∈ askedIds c.flowNodes

/-- The picture before the edges: the nodes are drawn in their order. -/
theorem ofStatements_nodeStatements {c : Chart} (h : Sound c) :
    ofStatements (nodeStatements c) =
      { attributes := chartAttributes c.attributes
        nodeDefaults := setAttributes [] (defaultAttributes c.attributes)
        nodes := c.flowNodes.map (Node.drawn c.attributes)
        edges := [] } := by
  refine (foldl_nodes
    { attributes := chartAttributes c.attributes
      nodeDefaults := setAttributes [] (defaultAttributes c.attributes) } ?_).trans ?_
  · rw [List.map_map]
    exact (List.nodup_append.1 h.distinct).1
  · rw [List.map_map]
    rfl

theorem ids_drawn (a : Attributes) (ns : List Chart.Node) : (ns.map (Node.drawn a)).map Node.id = askedIds ns := by
  rw [List.map_map]
  rfl

/-- The picture of a chart whose ids are distinct and whose edges join its nodes. -/
theorem ofChart_eq {c : Chart} (h : Sound c) :
    ofChart c =
      { attributes := chartAttributes c.attributes
        nodeDefaults := setAttributes [] (defaultAttributes c.attributes)
        nodes := (c.flowNodes ++ c.attributions).map (Node.drawn c.attributes)
        edges := c.edges.map Edge.asked } := by
  have hnodes := ofStatements_nodeStatements h
  rw [ofStatements] at hnodes
  rw [ofChart, ofStatements, List.foldl_append, hnodes, edgeStatements, List.foldl_append, foldl_edges, foldl_nodes]
  · rw [List.map_map, List.map_append]
    rfl
  · rw [ids, ids_drawn, List.map_map]
    exact h.distinct
  · intro e he
    obtain ⟨e, hmem, rfl⟩ := List.mem_map.1 he
    rw [ids, ids_drawn]
    exact h.joined e hmem

/-- The document of such a chart has no edge that makes a node. -/
theorem endsDrawn_statements {c : Chart} (h : Sound c) : EndsDrawn (nodeStatements c ++ edgeStatements c) := by
  apply endsDrawn_append
  · intro source target attributes hmem
    simp [nodeStatements, Node.statement] at hmem
  · intro source target attributes hmem
    rw [ofStatements_nodeStatements h, ids, ids_drawn]
    rcases List.mem_append.1 hmem with hmem | hmem
    · obtain ⟨e, he, hstatement⟩ := List.mem_map.1 hmem
      obtain ⟨e, hc, rfl⟩ := List.mem_map.1 he
      cases hstatement
      exact h.joined e hc
    · obtain ⟨n, -, hstatement⟩ := List.mem_map.1 hmem
      cases hstatement

/-! ### How nodes look -/

/-- The label, the shape and the colour with which a node is drawn; only the backslashes of a label may be other
than they were written. -/
structure Node.Looks (n : Node) (label : Text) (shape : Shape) (color : Text) : Prop where
  label : valueOf? "label".toList n.attributes = some (settled label)
  shape : valueOf? "shape".toList n.attributes = some shape.name
  color : valueOf? "color".toList n.attributes = some color

theorem settled_fill (k : Source.Kind) : settled (NodeStyle.ofKind k).fill = (NodeStyle.ofKind k).fill := by
  cases k <;> rfl

/-- A declared node looks as its declaration says, whatever holds for all nodes. -/
theorem looks_styled (a : Attributes) (d : NodeDecl) :
    (Node.drawn a (.styled d)).Looks d.label (NodeStyle.ofKind d.kind).shape (NodeStyle.ofKind d.kind).fill := by
  refine ⟨?_, ?_, ?_⟩
  · exact valueOf?_setAttributes _ _ _
  · rw [← settled_shape]
    exact valueOf?_setAttributes _ _ _
  · rw [← settled_fill]
    exact valueOf?_setAttributes _ _ _

/-- A declared edge as it is drawn, its condition as the label. -/
def Edge.declared (d : EdgeDecl) : Edge :=
  ⟨d.source, d.target, (d.condition.map fun condition => ⟨"label".toList, settled condition⟩).toList⟩

/-- A picture shows a chart and the declarations it was made of: their nodes and the attribution, as they are
declared and as the chart has them, their edges, and nothing that touches the attribution. -/
structure Shows (p : Picture) (c : Chart) (r : Records) : Prop where
  ids : p.nodes.map Node.id = r.nodes.map NodeDecl.id ++ [Chart.attributionId]
  looks : ∀ d ∈ r.nodes, ∃ n, p.node? d.id = some n ∧ c.node? d.id = some (.styled d) ∧
    n.Looks d.label (NodeStyle.ofKind d.kind).shape (NodeStyle.ofKind d.kind).fill
  edges : p.edges = r.edges.map Edge.declared
  apart : ∀ e ∈ p.edges, e.source ≠ Chart.attributionId ∧ e.target ≠ Chart.attributionId

end Picture

/-! ### Texts without findings -/

/-- A name is read as it was written. -/
theorem settled_of_isName {t : Text} (h : Source.IsName t) : settled t = t :=
  settled_of_not_mem (Source.not_mem_of_isName h (by decide +kernel))

section Clean
variable (attributes : Attributes) (source : Text)

theorem askedIds_flowNodes :
    Picture.askedIds (Chart.ofSource attributes source).flowNodes = (records source).nodes.map NodeDecl.id := by
  rw [Chart.ofSource, Chart.flowNodes_ofDecls, Picture.askedIds, List.map_map]
  exact List.map_congr_left fun d hd => settled_of_isName (Source.printable_of_mem_nodes hd).id

theorem askedIds_attributions :
    Picture.askedIds (Chart.ofSource attributes source).attributions = [Chart.attributionId] := by
  rw [Chart.ofSource, Chart.attributions_ofDecls]
  rfl

theorem asked_ofDecl {source : Text} {d : EdgeDecl} (h : d ∈ (records source).edges) :
    Picture.Edge.asked (Chart.Edge.ofDecl d) = .declared d := by
  have hsource := settled_of_isName (Source.printable_of_mem_edges h).source
  have htarget := settled_of_isName (Source.printable_of_mem_edges h).target
  show Picture.Edge.mk (settled d.source) (settled d.target) _ = _
  rw [hsource, htarget]
  rfl

variable {source : Text} (hclean : (records source).Clean)
include hclean

theorem sound_of_clean : Picture.Sound (Chart.ofSource attributes source) := by
  constructor
  · rw [askedIds_flowNodes, askedIds_attributions]
    exact hclean.distinct
  · intro e he
    obtain ⟨d, hd, rfl⟩ := List.mem_map.1 he
    have hprintable := Source.printable_of_mem_edges hd
    have hsource : settled (Chart.Edge.ofDecl d).source = d.source := settled_of_isName hprintable.source
    have htarget : settled (Chart.Edge.ofDecl d).target = d.target := settled_of_isName hprintable.target
    rw [askedIds_flowNodes, hsource, htarget]
    exact hclean.joined d hd

theorem nodes_of_clean : (Picture.ofChart (Chart.ofSource attributes source)).nodes =
    ((records source).nodes.map Chart.Node.styled ++ [Chart.Node.attribution]).map
      (Picture.Node.drawn attributes) := by
  rw [Picture.ofChart_eq (sound_of_clean attributes hclean), Chart.ofSource, Chart.flowNodes_ofDecls,
    Chart.attributions_ofDecls]
  rfl

theorem ids_of_clean : (Picture.ofChart (Chart.ofSource attributes source)).ids =
    (records source).nodes.map NodeDecl.id ++ [Chart.attributionId] := by
  rw [Picture.ofChart_eq (sound_of_clean attributes hclean), Picture.ids, Picture.ids_drawn, Picture.askedIds,
    List.map_append]
  show Picture.askedIds _ ++ Picture.askedIds _ = _
  rw [askedIds_flowNodes, askedIds_attributions]

theorem edges_of_clean : (Picture.ofChart (Chart.ofSource attributes source)).edges =
    (records source).edges.map Picture.Edge.declared := by
  rw [Picture.ofChart_eq (sound_of_clean attributes hclean)]
  show ((records source).edges.map Chart.Edge.ofDecl).map Picture.Edge.asked = _
  rw [List.map_map]
  exact List.map_congr_left fun d hd => asked_ofDecl hd

/-- A chart finds the nodes of a clean text by their ids. -/
theorem node?_of_clean {d : NodeDecl} (hd : d ∈ (records source).nodes) :
    (Chart.ofSource attributes source).node? d.id = some (.styled d) := by
  have hids : ((Chart.ofSource attributes source).nodes.map Chart.Node.id).Nodup := by
    show (((records source).nodes.map Chart.Node.styled ++ [Chart.Node.attribution]).map Chart.Node.id).Nodup
    rw [List.map_append, List.map_map]
    exact hclean.distinct
  have hmem : .styled d ∈ (Chart.ofSource attributes source).nodes :=
    List.mem_append_left _ (List.mem_map_of_mem hd)
  exact find?_of_nodup hids hmem

/-- And so does the picture. -/
theorem drawn_of_clean {d : NodeDecl} (hd : d ∈ (records source).nodes) :
    (Picture.ofChart (Chart.ofSource attributes source)).node? d.id = some (.drawn attributes (.styled d)) := by
  have hids := ids_of_clean attributes hclean
  have hmem : .drawn attributes (.styled d) ∈ (Picture.ofChart (Chart.ofSource attributes source)).nodes := by
    rw [nodes_of_clean attributes hclean]
    exact List.mem_map_of_mem (List.mem_append_left _ (List.mem_map_of_mem hd))
  have hfind := Picture.node?_of_mem (hids ▸ hclean.distinct) hmem
  have hid : (Picture.Node.drawn attributes (.styled d)).id = d.id :=
    settled_of_isName (Source.printable_of_mem_nodes hd).id
  rw [hid] at hfind
  exact hfind

theorem shows_of_clean :
    (Picture.ofChart (Chart.ofSource attributes source)).Shows (Chart.ofSource attributes source)
      (records source) := by
  refine ⟨ids_of_clean attributes hclean, fun d hd => ?_, edges_of_clean attributes hclean, fun e he => ?_⟩
  · exact ⟨_, drawn_of_clean attributes hclean hd, node?_of_clean attributes hclean hd,
      Picture.looks_styled attributes d⟩
  · rw [edges_of_clean attributes hclean] at he
    obtain ⟨d, hd, rfl⟩ := List.mem_map.1 he
    obtain ⟨hsource, htarget⟩ := hclean.joined d hd
    have hfree := (nodup_append_singleton_iff.1 hclean.distinct).2
    exact ⟨hfree d.source hsource, hfree d.target htarget⟩

end Clean

/-- **A text without findings is drawn as it is declared.** Its document is read; the picture that the statements
make has the declared nodes, edges and attribution and nothing else; and no edge made a node. -/
theorem shows_of_findings_eq_nil (settings : Settings) (source : Text) (h : findings source = []) :
    ∃ statements p,
      read? (document (Chart.ofSource settings.chart source)) = some statements ∧
      Picture.ofDocument? (document (Chart.ofSource settings.chart source)) = some p ∧
      p.Shows (Chart.ofSource settings.chart source) (records source) ∧ Picture.EndsDrawn statements := by
  have hclean := (findings_eq_nil_iff source).1 h
  exact ⟨_, _, read?_document _, Picture.ofDocument?_document _, shows_of_clean settings.chart hclean,
    Picture.endsDrawn_statements (sound_of_clean settings.chart hclean)⟩

/-- An id that is a keyword, quotes and a last backslash in a label, an arrow in another one and a condition that
ends in a backslash are drawn as they are declared; a backslash at the end becomes two. -/
theorem shows_awkward :
    let source := "a=>start: say \"hi\" \\\nnode=>condition: x->y?\n\na(no \\)->node\nnode->a".toList
    findings source = [] ∧
      ∃ p, Picture.ofDocument? (document (Chart.ofSource {} source)) = some p ∧
        p.nodes.map Picture.Node.id = [['a'], "node".toList, Chart.attributionId] ∧
        p.edges = [⟨['a'], "node".toList, [⟨"label".toList, "no \\\\".toList⟩]⟩, ⟨"node".toList, ['a'], []⟩] := by
  intro source
  have hfindings : findings source = [] := by decide +kernel
  obtain ⟨_, p, -, hp, hshows, -⟩ := shows_of_findings_eq_nil {} source hfindings
  refine ⟨hfindings, p, hp, hshows.ids.trans ?_, hshows.edges.trans ?_⟩
  · decide +kernel
  · decide +kernel

end Flowchart.Dot
