import Flowchart.Dot.Picture

/-! What statements draw.

A statement about a node that is not drawn yet draws it, and an edge between drawn
nodes draws nothing but itself: `add_node_of_new` and `add_edge_of_drawn`. Over a run
of statements, `foldl_nodes` and `foldl_edges` keep that up as long as the ids are
distinct and the ends are drawn. `valueOf?_setAttributes` says which value an
attribute has after a run of settings. -/
namespace Flowchart.Dot

/-- Where a text tells the members of a list apart, it finds the member it belongs to. -/
theorem find?_of_nodup {α : Type} {key : α → Text} {as : List α} (h : (as.map key).Nodup) {a : α} (ha : a ∈ as) :
    as.find? (fun b => key b = key a) = some a := by
  induction as with
  | nil => cases ha
  | cons b more ih =>
    obtain ⟨hb, hmore⟩ := List.nodup_cons.1 h
    rw [List.find?_cons]
    rcases List.mem_cons.1 ha with rfl | ha
    · rw [decide_eq_true rfl]
    · have hne : key b ≠ key a := fun heq => hb (heq ▸ List.mem_map_of_mem ha)
      rw [decide_eq_false hne]
      exact ih hmore ha

/-! ### Values of attributes -/

theorem valueOf?_cons (name : Text) (a : Attribute) (more : List Attribute) :
    valueOf? name (a :: more) = if a.name = name then some a.value else valueOf? name more := by
  unfold valueOf?
  rw [List.find?_cons]
  split <;> simp_all

theorem valueOf?_append (name : Text) (as bs : List Attribute) :
    valueOf? name (as ++ bs) = (valueOf? name as).or (valueOf? name bs) := by
  simp only [valueOf?, List.find?_append, Option.map_or]

theorem valueOf?_setAttribute (name : Text) (a : Attribute) (as : List Attribute) :
    valueOf? name (setAttribute a as) = if a.name = name then some a.value else valueOf? name as := by
  induction as with
  | nil => exact valueOf?_cons name a []
  | cons b more ih =>
    rw [setAttribute]
    split
    · rename_i hsame
      rw [valueOf?_cons, valueOf?_cons, hsame]
      split <;> rfl
    · rename_i hother
      rw [valueOf?_cons, ih, valueOf?_cons]
      by_cases hb : b.name = name
      · rw [if_pos hb, if_pos hb, if_neg fun ha => hother (hb.trans ha.symm)]
      · rw [if_neg hb, if_neg hb]

/-- Of several values of an attribute the last one counts, and one that is set counts before one that was there. -/
theorem valueOf?_setAttributes (name : Text) (old new : List Attribute) :
    valueOf? name (setAttributes old new) = (valueOf? name new.reverse).or (valueOf? name old) := by
  induction new generalizing old with
  | nil => rfl
  | cons a more ih =>
    show valueOf? name (setAttributes (setAttribute a old) more) = _
    rw [ih, List.reverse_cons, valueOf?_append, Option.or_assoc, valueOf?_setAttribute, valueOf?_cons]
    split <;> rfl

namespace Picture

/-! ### One statement -/

/-- The ids of the nodes that are drawn. -/
def ids (p : Picture) : List Text := p.nodes.map Node.id

theorem isSome_node?_iff {p : Picture} {id : Text} : (p.node? id).isSome = true ↔ id ∈ p.ids := by
  simp [node?, ids, List.find?_isSome]

theorem name_of_drawn {p : Picture} {id : Text} (h : id ∈ p.ids) : p.name id = p :=
  if_pos (isSome_node?_iff.2 h)

theorem name_of_new {p : Picture} {id : Text} (h : id ∉ p.ids) :
    p.name id = { p with nodes := p.nodes ++ [⟨id, p.nodeDefaults⟩] } :=
  if_neg fun hdrawn => h (isSome_node?_iff.1 hdrawn)

theorem describe_concat {p : Picture} {id : Text} {old new : List Attribute} (h : id ∉ p.ids) :
    ({ p with nodes := p.nodes ++ [⟨id, old⟩] } : Picture).describe id new =
      { p with nodes := p.nodes ++ [⟨id, setAttributes old new⟩] } := by
  have hkeep : ∀ n ∈ p.nodes,
      (if n.id = id then { n with attributes := setAttributes n.attributes new } else n) = n :=
    fun n hn => if_neg fun hid => h (List.mem_map.2 ⟨n, hn, hid⟩)
  simp only [describe, List.map_append, List.map_cons, List.map_nil, if_true, List.map_congr_left hkeep, List.map_id']

/-- A node that is new is drawn behind the others, with what holds for all nodes and its own attributes. -/
theorem add_node_of_new {p : Picture} {id : Text} (attributes : List Attribute) (h : id ∉ p.ids) :
    p.add (.node id attributes) =
      { p with nodes := p.nodes ++ [⟨id, setAttributes p.nodeDefaults attributes⟩] } := by
  rw [add, name_of_new h, describe_concat h]

/-- An edge between drawn nodes makes no node. -/
theorem add_edge_of_drawn {p : Picture} {source target : Text} (attributes : List Attribute)
    (hsource : source ∈ p.ids) (htarget : target ∈ p.ids) :
    p.add (.edge source target attributes) = { p with edges := p.edges ++ [⟨source, target, attributes⟩] } := by
  rw [add, name_of_drawn hsource, name_of_drawn htarget]

theorem ids_subset_name (p : Picture) (id : Text) : p.ids ⊆ (p.name id).ids := by
  by_cases h : id ∈ p.ids
  · rw [name_of_drawn h]
    exact List.Subset.refl _
  · rw [name_of_new h, ids, ids, List.map_append]
    exact List.subset_append_left _ _

theorem ids_describe (p : Picture) (id : Text) (attributes : List Attribute) :
    (p.describe id attributes).ids = p.ids := by
  simp only [describe, ids, List.map_map]
  refine List.map_congr_left fun n _ => ?_
  show Node.id (if n.id = id then _ else n) = n.id
  split <;> rfl

/-- What is drawn stays drawn. -/
theorem ids_subset_add (p : Picture) (s : Statement) : p.ids ⊆ (p.add s).ids := by
  cases s with
  | graphDefaults attributes | nodeDefaults attributes => exact List.Subset.refl _
  | node id attributes =>
    rw [add, ids_describe]
    exact ids_subset_name p id
  | edge source target attributes =>
    exact List.Subset.trans (ids_subset_name p source) (ids_subset_name (p.name source) target)

/-! ### Statement after statement -/

theorem ids_subset_foldl (p : Picture) (statements : List Statement) : p.ids ⊆ (statements.foldl add p).ids := by
  induction statements generalizing p with
  | nil => exact List.Subset.refl _
  | cons s more ih => exact List.Subset.trans (ids_subset_add p s) (ih (p.add s))

/-- The statement that asks for a node. -/
def Node.statement (n : Node) : Statement := .node n.id n.attributes

/-- The statement that asks for an edge. -/
def Edge.statement (e : Edge) : Statement := .edge e.source e.target e.attributes

/-- A node that is asked for, with what holds for all nodes. -/
def Node.under (defaults : List Attribute) (n : Node) : Node := ⟨n.id, setAttributes defaults n.attributes⟩

/-- Statements about new nodes draw them in their order. -/
theorem foldl_nodes (p : Picture) {ns : List Node} (h : (p.ids ++ ns.map Node.id).Nodup) :
    (ns.map Node.statement).foldl add p = { p with nodes := p.nodes ++ ns.map (Node.under p.nodeDefaults) } := by
  induction ns generalizing p with
  | nil => simp
  | cons n more ih =>
    have hnew : n.id ∉ p.ids := fun hmem =>
      (List.nodup_append.1 h).2.2 n.id hmem n.id (List.mem_cons_self ..) rfl
    rw [List.map_cons, List.foldl_cons, Node.statement, add_node_of_new n.attributes hnew]
    have hids : ({ p with nodes := p.nodes ++ [n.under p.nodeDefaults] } : Picture).ids = p.ids ++ [n.id] := by
      simp [ids, Node.under]
    refine (ih { p with nodes := p.nodes ++ [n.under p.nodeDefaults] } ?_).trans ?_
    · rw [hids]
      simpa using h
    · simp

/-- Edges between drawn nodes are drawn in their order. -/
theorem foldl_edges (p : Picture) {es : List Edge} (h : ∀ e ∈ es, e.source ∈ p.ids ∧ e.target ∈ p.ids) :
    (es.map Edge.statement).foldl add p = { p with edges := p.edges ++ es } := by
  induction es generalizing p with
  | nil => simp
  | cons e more ih =>
    obtain ⟨hsource, htarget⟩ := h e (List.mem_cons_self ..)
    rw [List.map_cons, List.foldl_cons, Edge.statement, add_edge_of_drawn e.attributes hsource htarget]
    refine (ih { p with edges := p.edges ++ [e] } fun d hd => h d (List.mem_cons_of_mem e hd)).trans ?_
    simp

/-- Both ends of every edge are drawn when it comes, so that no edge makes a node. -/
def EndsDrawn (statements : List Statement) : Prop :=
  ∀ before source target attributes after, statements = before ++ .edge source target attributes :: after →
    source ∈ (ofStatements before).ids ∧ target ∈ (ofStatements before).ids

/-- If all edges come behind a part that has none and draws their ends, no edge makes a node. -/
theorem endsDrawn_append {first second : List Statement}
    (hfirst : ∀ source target attributes, .edge source target attributes ∉ first)
    (hsecond : ∀ source target attributes, .edge source target attributes ∈ second →
      source ∈ (ofStatements first).ids ∧ target ∈ (ofStatements first).ids) :
    EndsDrawn (first ++ second) := by
  intro before source target attributes after h
  rcases List.append_eq_append_iff.1 h with ⟨more, rfl, hrest⟩ | ⟨more, hbefore, hrest⟩
  · have hmem : .edge source target attributes ∈ second := hrest ▸ List.mem_append_right _ (List.mem_cons_self ..)
    obtain ⟨hsource, htarget⟩ := hsecond source target attributes hmem
    have hkept := ids_subset_foldl (ofStatements first) more
    rw [ofStatements, List.foldl_append]
    exact ⟨hkept hsource, hkept htarget⟩
  · cases more with
    | nil =>
      rw [List.append_nil] at hbefore
      rw [List.nil_append] at hrest
      rw [← hbefore]
      exact hsecond source target attributes (hrest ▸ List.mem_cons_self ..)
    | cons s more =>
      obtain ⟨rfl, -⟩ := List.cons.inj hrest
      exact absurd (hbefore ▸ List.mem_append_right _ (List.mem_cons_self ..)) (hfirst source target attributes)

/-- A node whose id no other has is the one that is found by it. -/
theorem node?_of_mem {p : Picture} (h : p.ids.Nodup) {n : Node} (hn : n ∈ p.nodes) : p.node? n.id = some n :=
  find?_of_nodup h hn

end Picture

end Flowchart.Dot
