import Flowchart.Proofs.Settings.Items
import Flowchart.Proofs.Toml.Blocks
import Mathlib.Data.List.Find
import Mathlib.Logic.Relation

/-! Edits that settings do not notice.

What a document says beyond the items of the settings does not count, nor does the order
in which it says anything. An edit (`Edit`) puts the keys of some table in another order,
adds a key that no item has at the root or in a section, or opens a section without
anything in it; what can be done this way and undone leads from a document to any other
that has the same items.

One edit leaves what stands under the keys of items as it is, except for the order within
values that hold others (`similar_of_edit`), and no item is written as one of these. So a
document gives the same settings after any number of edits: `ofDocument_by_items`. -/
namespace Flowchart

open Toml

namespace Toml

/-- The same but for the order of the keys in one table, at any depth. -/
inductive Tree.Reordered : Tree → Tree → Prop where
  | keys {l m : List (Text × Tree)} : l.Perm m → Reordered (.table l) (.table m)
  | entry (name : Text) {t u : Tree} (l : List (Text × Tree)) :
    Reordered t u → Reordered (.table ((name, t) :: l)) (.table ((name, u) :: l))
  | item (l m : List Tree) {t u : Tree} : Reordered t u → Reordered (.array (l ++ t :: m)) (.array (l ++ u :: m))

/-- What a value says, without what is in it. -/
def Tree.surface : Tree → Tree
  | .array _ => .array []
  | .table _ => .table []
  | t => t

/-- Whether a value has no others in it. -/
def Tree.IsScalar : Tree → Prop
  | .array _ | .table _ => False
  | _ => True

namespace Tree
variable {t u : Tree}

/-- A value with no others in it is known by its surface. -/
theorem eq_of_surface_eq (hu : u.IsScalar) (h : t.surface = u.surface) : t = u := by
  cases u <;> cases t <;> simp_all [surface, IsScalar]

theorem isTable_iff_surface : t.IsTable ↔ t.surface = .table [] := by
  cases t <;> simp [IsTable, surface]

namespace Reordered

theorem symm (h : Reordered t u) : Reordered u t := by
  induction h with
  | keys h => exact .keys h.symm
  | entry name l _ ih => exact .entry name l ih
  | item l m _ ih => exact .item l m ih

theorem surface_eq (h : Reordered t u) : t.surface = u.surface := by
  cases h <;> rfl

theorem names_perm (h : Reordered t u) : t.names.Perm u.names := by
  cases h with
  | keys h => exact h.map Prod.fst
  | entry => exact .refl _
  | item => exact .refl _

/-- Where no key stands twice, it does not matter for a look-up how a table is ordered. -/
theorem get? (h : Reordered t u) (ht : t.names.Nodup) (name : Text) :
    t.get? name = u.get? name ∨ ∃ a b, t.get? name = some a ∧ u.get? name = some b ∧ Reordered a b := by
  cases h with
  | @keys l m h =>
    refine .inl (congrArg (Option.map Prod.snd) (List.find?_eq_find?_of_perm h ?_))
    rintro a ⟨ha, hname⟩ b ⟨hb, hname'⟩
    exact List.inj_on_of_nodup_map ht ha hb ((of_decide_eq_true hname).trans (of_decide_eq_true hname').symm)
  | entry key l h =>
    rw [get?_table_cons, get?_table_cons]
    split
    · exact .inr ⟨_, _, rfl, rfl, h⟩
    · exact .inl rfl
  | item => exact .inl rfl

end Reordered

end Tree

end Toml

namespace Settings

/-! ### Edits -/

/-- The sections of the settings. -/
def sections : List Text := ["graph".toList, "engine".toList]

/-- The keys of a section. -/
def keys (title : Text) : List Text :=
  if title = "graph".toList then ["rankdir".toList, "fontname".toList, "fontsize".toList, "node_shape".toList]
  else if title = "engine".toList then ["program".toList, "cleanup".toList]
  else []

/-- One edit of a document that leaves its settings alone. -/
inductive Edit : Tree → Tree → Prop where
  /-- Keys change places. -/
  | reorder {doc other : Tree} : doc.Reordered other → Edit doc other
  /-- A key or a table is added that is no section. -/
  | add {name : Text} (t : Tree) {rest : List (Text × Tree)} : name ∉ sections → name ∉ (Tree.table rest).names →
    Edit (.table rest) (.table ((name, t) :: rest))
  /-- A key or a table is added to a section, which has none of the name. -/
  | addWithin {title name : Text} (t : Tree) {inner : List (Text × Tree)} (rest : List (Text × Tree)) :
    title ∈ sections → name ∉ keys title → name ∉ (Tree.table inner).names →
    Edit (.table ((title, .table inner) :: rest)) (.table ((title, .table ((name, t) :: inner)) :: rest))
  /-- A section is opened, with nothing in it. -/
  | openSection {title : Text} {rest : List (Text × Tree)} : title ∈ sections → title ∉ (Tree.table rest).names →
    Edit (.table rest) (.table ((title, .table []) :: rest))

/-! ### One section -/

/-- What two documents have of a section, where settings cannot tell one from the other. -/
structure SameSection (title : Text) (a b : Option Tree) : Prop where
  unrepeated : (∀ t, a = some t → t.names.Nodup) ↔ ∀ t, b = some t → t.names.Nodup
  tables : (∀ t, a = some t → t.IsTable) ↔ ∀ t, b = some t → t.IsTable
  items : ∀ key ∈ keys title,
    (a.bind fun t => t.get? key).map Tree.surface = (b.bind fun t => t.get? key).map Tree.surface

namespace SameSection
variable {title : Text} {a b c : Option Tree}

theorem refl (a : Option Tree) : SameSection title a a := ⟨.rfl, .rfl, fun _ _ => rfl⟩

theorem symm (h : SameSection title a b) : SameSection title b a :=
  ⟨h.unrepeated.symm, h.tables.symm, fun key hk => (h.items key hk).symm⟩

theorem trans (h : SameSection title a b) (h' : SameSection title b c) : SameSection title a c :=
  ⟨h.unrepeated.trans h'.unrepeated, h.tables.trans h'.tables,
    fun key hk => (h.items key hk).trans (h'.items key hk)⟩

theorem of_reordered {t u : Tree} (h : t.Reordered u) (ht : t.names.Nodup) :
    SameSection title (some t) (some u) := by
  refine ⟨?_, ?_, fun key _ => ?_⟩
  · simpa using h.names_perm.nodup_iff
  · simp [Tree.isTable_iff_surface, h.surface_eq]
  · rw [Option.bind_some, Option.bind_some]
    rcases h.get? ht key with heq | ⟨c, d, hc, hd, hcd⟩
    · rw [heq]
    · rw [hc, hd, Option.map_some, Option.map_some, hcd.surface_eq]

theorem of_add {name : Text} {t : Tree} {inner : List (Text × Tree)} (hname : name ∉ keys title)
    (hnew : name ∉ (Tree.table inner).names) :
    SameSection title (some (.table inner)) (some (.table ((name, t) :: inner))) := by
  refine ⟨?_, ?_, fun key hk => ?_⟩
  · simpa [Tree.names] using fun _ => hnew
  · simp [Tree.IsTable]
  · rw [Option.bind_some, Option.bind_some, Tree.get?_table_cons, if_neg fun heq : name = key => hname (heq ▸ hk)]

theorem of_open : SameSection title none (some (.table [])) := by
  refine ⟨?_, ?_, fun key _ => ?_⟩
  · simp [Tree.names]
  · simp [Tree.IsTable]
  · rfl

end SameSection

/-! ### One edit -/

/-- No key stands twice at the root of a document or in a section. -/
structure Unrepeated (doc : Tree) : Prop where
  root : doc.names.Nodup
  within : ∀ title ∈ sections, ∀ t, doc.get? title = some t → t.names.Nodup

/-- Two documents that settings cannot tell apart. -/
structure Similar (doc other : Tree) : Prop where
  root : doc.names.Nodup ↔ other.names.Nodup
  within : ∀ title ∈ sections, SameSection title (doc.get? title) (other.get? title)

namespace Similar
variable {doc other third : Tree}

theorem refl (doc : Tree) : Similar doc doc := ⟨.rfl, fun _ _ => .refl _⟩

theorem symm (h : Similar doc other) : Similar other doc := ⟨h.root.symm, fun title ht => (h.within title ht).symm⟩

theorem trans (h : Similar doc other) (h' : Similar other third) : Similar doc third :=
  ⟨h.root.trans h'.root, fun title ht => (h.within title ht).trans (h'.within title ht)⟩

theorem unrepeated (h : Similar doc other) (hdoc : Unrepeated doc) : Unrepeated other :=
  ⟨h.root.1 hdoc.root, fun title ht => (h.within title ht).unrepeated.1 (hdoc.within title ht)⟩

theorem of_reordered (h : doc.Reordered other) (hdoc : Unrepeated doc) : Similar doc other := by
  refine ⟨h.names_perm.nodup_iff, fun title ht => ?_⟩
  rcases h.get? hdoc.root title with heq | ⟨a, b, ha, hb, hab⟩
  · rw [heq]
    exact .refl _
  · rw [ha, hb]
    exact .of_reordered hab (hdoc.within title ht a ha)

end Similar

/-- A document with an edit is similar to the one without, if no key stands twice in one of them. -/
theorem similar_of_edit {doc other : Tree} (h : Edit doc other) (hrepeated : Unrepeated doc ∨ Unrepeated other) :
    Similar doc other := by
  cases h with
  | reorder h =>
    rcases hrepeated with hdoc | hother
    · exact .of_reordered h hdoc
    · exact (Similar.of_reordered h.symm hother).symm
  | @add name t rest hname hnew =>
    refine ⟨by simpa [Tree.names] using fun _ => hnew, fun title ht => ?_⟩
    rw [Tree.get?_table_cons, if_neg fun heq : name = title => hname (heq ▸ ht)]
    exact .refl _
  | @addWithin opened name t inner rest _ hname hnew =>
    refine ⟨.rfl, fun title _ => ?_⟩
    rw [Tree.get?_table_cons, Tree.get?_table_cons]
    split
    · rename_i heq
      exact .of_add (heq ▸ hname) hnew
    · exact .refl _
  | @openSection opened rest _ hnew =>
    refine ⟨by simpa [Tree.names] using fun _ => hnew, fun title _ => ?_⟩
    rw [Tree.get?_table_cons]
    split
    · rename_i heq
      rw [Tree.get?_eq_none_iff.2 (heq ▸ hnew)]
      exact .of_open
    · exact .refl _

/-- Any number of edits, done or undone, lead to a similar document. -/
theorem similar_of_edits {doc other : Tree} (h : Relation.EqvGen Edit doc other)
    (hrepeated : Unrepeated doc ∨ Unrepeated other) : Similar doc other := by
  induction h with
  | rel _ _ h => exact similar_of_edit h hrepeated
  | refl => exact .refl _
  | symm _ _ _ ih => exact (ih hrepeated.symm).symm
  | trans a b c _ _ ih ih' =>
    rcases hrepeated with ha | hc
    · have hab := ih (.inl ha)
      exact hab.trans (ih' (.inl (hab.unrepeated ha)))
    · have hbc := ih' (.inr hc)
      exact (ih (.inr (hbc.symm.unrepeated hc))).trans hbc

/-! ### What documents give -/

/-- No key stands twice in a document that is read. -/
theorem unrepeated_of_read? {source : Text} {entries : Entries} (h : read? source = some entries) :
    Unrepeated entries.tree := by
  have hdistinct := distinct_of_read? h
  refine ⟨?_, fun title _ t ht => ?_⟩
  · rw [names_tree]
    exact hdistinct.names
  · rw [get?_tree] at ht
    obtain ⟨v, hv, rfl⟩ := Option.map_eq_some_iff.1 ht
    have hv := hdistinct.of_find? hv
    cases v with
    | table form span? inner =>
      rw [tree_table, names_tree]
      exact hv.names
    | _ => exact List.nodup_nil

/-- An item that is looked for where the settings have their keys, and is not written as a value that holds others. -/
structure Listed {α : Type} (i : Item α) : Prop where
  table : i.table ∈ sections
  key : i.key ∈ keys i.table
  scalar : ∀ a, (i.write a).IsScalar

theorem listed_direction : Listed .direction := ⟨by decide, by decide, fun _ => trivial⟩

theorem listed_fontName : Listed .fontName := ⟨by decide, by decide, fun _ => trivial⟩

theorem listed_fontSize : Listed .fontSize := ⟨by decide, by decide, fun _ => trivial⟩

theorem listed_nodeShape : Listed .nodeShape := ⟨by decide, by decide, fun _ => trivial⟩

theorem listed_program : Listed .program := ⟨by decide, by decide, fun _ => trivial⟩

theorem listed_cleanup : Listed .cleanup := ⟨by decide, by decide, fun _ => trivial⟩

namespace Similar
variable {doc other : Tree} {α : Type} {i : Item α}

/-- Similar documents say the same where an item belongs, but for what is in it. -/
theorem found?_surface (h : Similar doc other) (hi : Listed i) :
    (i.found? doc).map Tree.surface = (i.found? other).map Tree.surface :=
  (h.within i.table hi.table).items i.key hi.key

theorem gives (h : Similar doc other) (hi : Listed i) {a : α} (hdoc : i.Gives doc a) : i.Gives other a := by
  have hsurface := h.found?_surface hi
  rcases hdoc with ⟨hnone, ha⟩ | hsome
  · rw [hnone] at hsurface
    exact .inl ⟨Option.map_eq_none_iff.1 hsurface.symm, ha⟩
  · rw [hsome] at hsurface
    obtain ⟨t, ht, heq⟩ := Option.map_eq_some_iff.1 hsurface.symm
    refine .inr ?_
    rw [ht, Tree.eq_of_surface_eq (hi.scalar a) heq]

theorem not_isTable (h : Similar doc other) (hi : Listed i) (hdoc : ∀ t, i.found? doc = some t → ¬t.IsTable) :
    ∀ t, i.found? other = some t → ¬t.IsTable := by
  intro t ht
  have hsurface := h.found?_surface hi
  rw [ht] at hsurface
  obtain ⟨u, hu, heq⟩ := Option.map_eq_some_iff.1 hsurface
  rw [Tree.isTable_iff_surface, ← heq, ← Tree.isTable_iff_surface]
  exact hdoc u hu

theorem plain (h : Similar doc other) (hdoc : Plain doc) : Plain other where
  graph := (h.within _ listed_direction.table).tables.1 hdoc.graph
  engine := (h.within _ listed_program.table).tables.1 hdoc.engine
  direction := h.not_isTable listed_direction hdoc.direction
  nodeShape := h.not_isTable listed_nodeShape hdoc.nodeShape

theorem givenBy (h : Similar doc other) {s : Settings} (hdoc : GivenBy doc s) : GivenBy other s where
  direction := h.gives listed_direction hdoc.direction
  fontName := h.gives listed_fontName hdoc.fontName
  fontSize := h.gives listed_fontSize hdoc.fontSize
  nodeShape := h.gives listed_nodeShape hdoc.nodeShape
  program := h.gives listed_program hdoc.program
  cleanup := h.gives listed_cleanup hdoc.cleanup

end Similar

/-- **Items are all that counts.** A document gives settings if and only if every item in it is of its type; what it
gives is what it says for each item, or the default where it says nothing; and no number of edits changes what it
gives, nor whether it gives anything. -/
theorem ofDocument_by_items {source : Text} {entries : Entries} (hread : read? source = some entries)
    (hplain : Plain entries.tree) :
    ((∃ s, ofDocument source = .ok s) ↔ WellTyped entries.tree) ∧
      (∀ s, ofDocument source = .ok s → GivenBy entries.tree s) ∧
      ∀ other more, read? other = some more → Relation.EqvGen Edit entries.tree more.tree →
        (ofDocument other).toOption = (ofDocument source).toOption := by
  refine ⟨?_, fun s => (ofDocument_eq_ok_iff hread hplain).1, fun other more hmore hedits => ?_⟩
  · rw [← exists_givenBy_iff]
    exact exists_congr fun s => ofDocument_eq_ok_iff hread hplain
  · have hsimilar := similar_of_edits hedits (.inl (unrepeated_of_read? hread))
    ext s
    rw [toOption_eq_some_iff, toOption_eq_some_iff, ofDocument_eq_ok_iff hmore (hsimilar.plain hplain),
      ofDocument_eq_ok_iff hread hplain]
    exact ⟨hsimilar.symm.givenBy, hsimilar.givenBy⟩

/-- A section, and the same with another behind it that has no item in it. -/
theorem ofDocument_by_items_edited :
    ∃ entries more s, read? "\n[graph]\nfontsize = 12\n".toList = some entries ∧
      read? "\n[graph]\nfontsize = 12\n\n[engine]\nspeed = 3\n".toList = some more ∧
      Plain entries.tree ∧ Relation.EqvGen Edit entries.tree more.tree ∧ GivenBy entries.tree s ∧
      ofDocument "\n[graph]\nfontsize = 12\n".toList = .ok s ∧
      ofDocument "\n[graph]\nfontsize = 12\n\n[engine]\nspeed = 3\n".toList = .ok s := by
  let size : Pair := ⟨"fontsize".toList, Text.decimal 12, _, ⟨by decide, by decide⟩, .integer (by decide)⟩
  let speed : Pair := ⟨"speed".toList, Text.decimal 3, _, ⟨by decide, by decide⟩, .integer (by decide)⟩
  let graph : Block := ⟨"graph".toList, [size], ⟨by decide, by decide⟩, by decide⟩
  let engine : Block := ⟨"engine".toList, [speed], ⟨by decide, by decide⟩, by decide⟩
  have hsource : [graph].flatMap Block.print = "\n[graph]\nfontsize = 12\n".toList := by decide +kernel
  have hother : [graph, engine].flatMap Block.print = "\n[graph]\nfontsize = 12\n\n[engine]\nspeed = 3\n".toList := by
    decide +kernel
  obtain ⟨entries, hread, htree⟩ := exists_read?_blocks (show ([graph].map Block.title).Nodup by decide)
  obtain ⟨more, hmore, htree'⟩ := exists_read?_blocks (show ([graph, engine].map Block.title).Nodup by decide)
  rw [hsource] at hread
  rw [hother] at hmore
  have hplain : Plain entries.tree := by
    rw [htree]
    constructor
    · rintro _ ⟨⟩
      exact ⟨_, rfl⟩
    all_goals rintro _ ⟨⟩
  have hwell : WellTyped entries.tree := by
    rw [htree]
    constructor
    case fontSize =>
      rintro _ ⟨⟩
      exact ⟨12, rfl⟩
    all_goals rintro _ ⟨⟩
  have hedits : Relation.EqvGen Edit entries.tree more.tree := by
    rw [htree, htree']
    have hopen : Edit (.table [graph.entry]) (.table [("engine".toList, .table []), graph.entry]) :=
      .openSection (by decide) (by decide)
    have hadd : Edit (.table [("engine".toList, .table []), graph.entry]) (.table [engine.entry, graph.entry]) :=
      .addWithin _ _ (by decide) (by decide) (by decide)
    have hswap : Edit (.table [engine.entry, graph.entry]) (.table [graph.entry, engine.entry]) :=
      .reorder (.keys (.swap ..))
    exact ((Relation.EqvGen.rel _ _ hopen).trans _ _ _ (.rel _ _ hadd)).trans _ _ _ (.rel _ _ hswap)
  obtain ⟨hgives, hgiven, hedited⟩ := ofDocument_by_items hread hplain
  obtain ⟨s, hs⟩ := hgives.2 hwell
  have hsame := hedited _ more hmore hedits
  rw [hs] at hsame
  exact ⟨entries, more, s, hread, hmore, hplain, hedits, hgiven s hs, hs, toOption_eq_some_iff.1 hsame⟩

end Settings

end Flowchart
