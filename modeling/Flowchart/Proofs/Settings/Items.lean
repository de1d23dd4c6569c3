import Flowchart.Proofs.Settings.Fields
import Flowchart.Proofs.Toml.Tree

/-! What a document sets.

An item is one setting as a document has it: the table and the key it stands under, how a
value of it is written, and what it is without one (`Item`). A document gives an item a
value if it has that value there, or else if it has nothing there and the value is the
default (`Gives`). Items know nothing of each other, of what else is in the document, or
of the order in which it stands there.

Settings are read from a document exactly if it gives them item by item:
`ofDocument_eq_ok_iff`. The tables are assigned field by field (`toOption_assignEntries`),
and each field reads what its item writes. -/
namespace Flowchart

open Toml

/-! ### Items -/

/-- A setting in a document. -/
structure Item (α : Type) where
  /-- The table that it belongs to. -/
  table : Text
  key : Text
  /-- What a document says that has the setting. -/
  write : α → Tree
  /-- The setting of a document that does not have it. -/
  default : α

namespace Item
variable {α : Type} (i : Item α)

/-- What a document says where the item belongs. -/
def found? (doc : Tree) : Option Tree := (doc.get? i.table).bind fun t => t.get? i.key

/-- Whatever a document says there is a value of the item. -/
def WellTyped (doc : Tree) : Prop := ∀ t, i.found? doc = some t → ∃ a, t = i.write a

/-- The document says nothing there and the value is the default, or it says the value. -/
def Gives (doc : Tree) (a : α) : Prop :=
  i.found? doc = none ∧ a = i.default ∨ i.found? doc = some (i.write a)

theorem exists_gives_iff {doc : Tree} : (∃ a, i.Gives doc a) ↔ i.WellTyped doc := by
  constructor
  · rintro ⟨a, ⟨hnone, -⟩ | hsome⟩ t ht
    · rw [hnone] at ht
      cases ht
    · exact ⟨a, Option.some.inj (ht.symm.trans hsome)⟩
  · intro h
    cases hfound : i.found? doc with
    | none => exact ⟨i.default, .inl ⟨hfound, rfl⟩⟩
    | some t =>
      obtain ⟨a, rfl⟩ := h t hfound
      exact ⟨a, .inr hfound⟩

/-- The direction of charts. -/
def direction : Item Direction := ⟨"graph".toList, "rankdir".toList, fun d => .string d.name, .down⟩

/-- The name of the font. -/
def fontName : Item Text := ⟨"graph".toList, "fontname".toList, .string, "Courier".toList⟩

/-- The size of the font, which has 32 bits. -/
def fontSize : Item UInt32 := ⟨"graph".toList, "fontsize".toList, fun n => .integer n.toNat, 10⟩

/-- The shape of nodes. -/
def nodeShape : Item Shape := ⟨"graph".toList, "node_shape".toList, fun s => .string s.name, .box⟩

/-- The program that renders. -/
def program : Item Text := ⟨"engine".toList, "program".toList, .string, "dot".toList⟩

/-- Whether the intermediate document is removed. -/
def cleanup : Item Bool := ⟨"engine".toList, "cleanup".toList, .boolean, true⟩

end Item

namespace Settings

/-- Every item that a document has is of its type. -/
structure WellTyped (doc : Tree) : Prop where
  direction : Item.direction.WellTyped doc
  fontName : Item.fontName.WellTyped doc
  fontSize : Item.fontSize.WellTyped doc
  nodeShape : Item.nodeShape.WellTyped doc
  program : Item.program.WellTyped doc
  cleanup : Item.cleanup.WellTyped doc

/-- A document gives some settings, item by item. -/
structure GivenBy (doc : Tree) (s : Settings) : Prop where
  direction : Item.direction.Gives doc s.chart.direction
  fontName : Item.fontName.Gives doc s.chart.fontName
  fontSize : Item.fontSize.Gives doc s.chart.fontSize
  nodeShape : Item.nodeShape.Gives doc s.chart.nodeShape
  program : Item.program.Gives doc s.engine.program
  cleanup : Item.cleanup.Gives doc s.engine.cleanup

theorem exists_givenBy_iff {doc : Tree} : (∃ s, GivenBy doc s) ↔ WellTyped doc := by
  constructor
  · rintro ⟨s, h⟩
    exact ⟨Item.exists_gives_iff _ |>.1 ⟨_, h.direction⟩, Item.exists_gives_iff _ |>.1 ⟨_, h.fontName⟩,
      Item.exists_gives_iff _ |>.1 ⟨_, h.fontSize⟩, Item.exists_gives_iff _ |>.1 ⟨_, h.nodeShape⟩,
      Item.exists_gives_iff _ |>.1 ⟨_, h.program⟩, Item.exists_gives_iff _ |>.1 ⟨_, h.cleanup⟩⟩
  · intro h
    obtain ⟨direction, hdirection⟩ := (Item.exists_gives_iff _).2 h.direction
    obtain ⟨fontName, hfontName⟩ := (Item.exists_gives_iff _).2 h.fontName
    obtain ⟨fontSize, hfontSize⟩ := (Item.exists_gives_iff _).2 h.fontSize
    obtain ⟨nodeShape, hnodeShape⟩ := (Item.exists_gives_iff _).2 h.nodeShape
    obtain ⟨program, hprogram⟩ := (Item.exists_gives_iff _).2 h.program
    obtain ⟨cleanup, hcleanup⟩ := (Item.exists_gives_iff _).2 h.cleanup
    exact ⟨⟨⟨direction, fontName, fontSize, nodeShape⟩, ⟨program, cleanup⟩⟩,
      hdirection, hfontName, hfontSize, hnodeShape, hprogram, hcleanup⟩

/-- What a document has of the two sections are tables, and what it has of the two settings that go by a name is not
written as a table. -/
structure Plain (doc : Tree) : Prop where
  graph : ∀ t, doc.get? "graph".toList = some t → t.IsTable
  engine : ∀ t, doc.get? "engine".toList = some t → t.IsTable
  direction : ∀ t, Item.direction.found? doc = some t → ¬t.IsTable
  nodeShape : ∀ t, Item.nodeShape.found? doc = some t → ¬t.IsTable

end Settings

/-! ### What the readers of single settings take -/

theorem decodeText_eq_some_iff {v : Value} {t : Text} : (decodeText v).toOption = some t ↔ v.tree = .string t := by
  cases v <;> simp [decodeText, misfit, Value.tree, Except.toOption]

theorem decodeFlag_eq_some_iff {v : Value} {b : Bool} : (decodeFlag v).toOption = some b ↔ v.tree = .boolean b := by
  cases v <;> simp [decodeFlag, misfit, Value.tree, Except.toOption]

theorem decodeWord_eq_some_iff {v : Value} {n : UInt32} :
    (decodeWord v).toOption = some n ↔ v.tree = .integer n.toNat := by
  cases v with
  | integer span i =>
    rw [decodeWord, toOption_eq_some_iff]
    have hn := n.toNat_lt_size
    split
    · rename_i hi
      simp only [Except.ok.injEq, ← UInt32.toNat_inj, UInt32.toNat_ofNat_of_lt' hi.2, Value.tree, Tree.integer.injEq]
      omega
    · rename_i hi
      simp only [Value.tree, Tree.integer.injEq, reduceCtorEq, false_iff]
      omega
  | _ => simp [decodeWord, misfit, Value.tree, Except.toOption]

/-- A name that is not written as a table is read by its keyword. -/
theorem decodeName_eq_some_iff {α : Type} {choices : List α} {keyword : α → Text} (hall : ∀ a, a ∈ choices)
    (hinj : ∀ a b, keyword a = keyword b → a = b) {v : Value} (hv : ¬v.tree.IsTable) {a : α} :
    (decodeName choices keyword v).toOption = some a ↔ v.tree = .string (keyword a) := by
  cases v with
  | string span t =>
    rw [decodeName, toOption_eq_some_iff]
    simp only [Value.tree, Tree.string.injEq]
    split
    · rename_i b hfind
      have hb : keyword b = t := by simpa using List.find?_some hfind
      rw [← hb, Except.ok.injEq]
      exact ⟨fun h => by rw [h], fun h => hinj b a h⟩
    · rename_i hfind
      refine ⟨fun h => (by cases h), fun h => ?_⟩
      exact absurd h.symm (by simpa using List.find?_eq_none.1 hfind a (hall a))
  | table form span? entries => exact absurd ⟨_, rfl⟩ hv
  | _ => simp [decodeName, misfit, Value.tree, Except.toOption]

theorem Direction.keyword_eq_name (d : Direction) : d.keyword = d.name := by
  cases d <;> rfl

theorem Shape.keyword_eq_name (s : Shape) : s.keyword = s.name := by
  cases s <;> decide

theorem decodeDirection_eq_some_iff {v : Value} (hv : ¬v.tree.IsTable) {d : Direction} :
    (decodeDirection v).toOption = some d ↔ v.tree = .string d.name := by
  rw [← Direction.keyword_eq_name]
  refine decodeName_eq_some_iff Direction.mem_all (fun a b h => ?_) hv
  revert h
  cases a <;> cases b <;> decide

theorem decodeShape_eq_some_iff {v : Value} (hv : ¬v.tree.IsTable) {s : Shape} :
    (decodeShape v).toOption = some s ↔ v.tree = .string s.name := by
  rw [← Shape.keyword_eq_name]
  refine decodeName_eq_some_iff Shape.mem_all (fun a b h => Shape.name_injective ?_) hv
  rwa [Shape.keyword_eq_name, Shape.keyword_eq_name] at h

/-! ### Sections -/

/-- What a table gives for a key: what is read there, or else the default. -/
def given {α : Type} (read : Value → Decoded α) (default : α) (entries : Entries) (key : Text) : Option α :=
  match entries.find? key with
  | none => some default
  | some v => (read v).toOption

/-- A field puts what it reads into one place of a section. -/
def Field.Puts {σ α : Type} (f : Field σ) (read : Value → Decoded α) (put : α → σ → σ) : Prop :=
  ∀ v s, (f.assign v s).toOption = (read v).toOption.map fun a => put a s

namespace Field.Puts
variable {σ α β : Type} {f g : Field σ} {read : Value → Decoded α} {other : Value → Decoded β}
  {put : α → σ → σ} {putOther : β → σ → σ}

theorem independent (hf : f.Puts read put) (hg : g.Puts other putOther)
    (hput : ∀ a b s, putOther b (put a s) = put a (putOther b s)) : f.Independent g := by
  intro v w s
  simp only [hf _ _, hg _ _]
  cases (read v).toOption <;> cases (other w).toOption <;> simp [hput]

/-- What comes after a field goes on with what the table gives for it. -/
theorem take_bind (hf : f.Puts read put) {entries : Entries} {s : σ} (default : α) (hs : put default s = s) {τ : Type}
    (rest : σ → Option τ) :
    (f.take entries s >>= rest) = given read default entries f.key >>= fun a => rest (put a s) := by
  unfold Field.take given
  cases entries.find? f.key with
  | none => exact congrArg rest hs.symm
  | some v =>
    show (f.assign v s).toOption.bind rest = (read v).toOption.bind _
    rw [hf v s, Option.bind_map]
    rfl

end Field.Puts

theorem Field.puts {σ α : Type} (key : Text) (read : Value → Decoded α) (put : α → σ → σ) :
    Field.Puts ⟨key, fun v s => do return put (← read v) s⟩ read put := by
  intro v s
  show (read v >>= _).toOption = _
  cases read v <;> rfl

/-- The entries of a section that a document has as a table; none if it does not have the section. -/
def sectionEntries (entries : Entries) (name : Text) : Entries :=
  match entries.find? name with
  | some (.table _ _ inner) => inner
  | _ => []

theorem Item.found?_eq {α : Type} (i : Item α) (entries : Entries) :
    i.found? entries.tree = (sectionEntries entries i.table).tree.get? i.key := by
  rw [found?, get?_tree, sectionEntries]
  cases entries.find? i.table with
  | none => rfl
  | some v => cases v <;> rfl

/-- What a section gives for the key of an item is what the document gives for the item. -/
theorem given_eq_some_iff {α : Type} (i : Item α) {read : Value → Decoded α} {entries : Entries}
    (hread : ∀ v, i.found? entries.tree = some v.tree → ∀ a, (read v).toOption = some a ↔ v.tree = i.write a) {a : α} :
    given read i.default (sectionEntries entries i.table) i.key = some a ↔ i.Gives entries.tree a := by
  simp only [Item.Gives, Item.found?_eq, get?_tree] at hread ⊢
  rw [given]
  cases hfind : (sectionEntries entries i.table).find? i.key with
  | none => simp [eq_comm]
  | some v => simpa using hread v (by rw [hfind]; rfl) a

theorem distinct_sectionEntries {entries : Entries} (h : (Value.table .header none entries).Distinct) (name : Text) :
    (sectionEntries entries name).names.Nodup := by
  unfold sectionEntries
  split
  · rename_i hfind
    exact (h.of_find? hfind).names
  · exact List.nodup_nil

/-- A section that is a table, or is not there, is what its entries make of the defaults. -/
theorem given_section {σ : Type} {fields : List (Field σ)} {expected : Expected} {default : σ} {entries : Entries}
    {name : Text} (h : ∀ t, entries.tree.get? name = some t → t.IsTable) :
    given (decodeSection fields expected default) default entries name =
      (assignEntries fields (sectionEntries entries name) default).toOption := by
  unfold given sectionEntries
  cases hfind : entries.find? name with
  | none => rfl
  | some v =>
    obtain ⟨form, span?, inner, rfl⟩ := isTable_tree_iff.1 (h v.tree (by rw [get?_tree, hfind]; rfl))
    show ((assignEntries fields inner default).mapError _).toOption = (assignEntries fields inner default).toOption
    cases assignEntries fields inner default <;> rfl

/-- **A section for charts is read setting by setting.** -/
theorem toOption_chart {entries : Entries} (h : entries.names.Nodup) :
    (assignEntries chartFields entries {}).toOption = do
      let direction ← given decodeDirection .down entries "rankdir".toList
      let fontName ← given decodeText "Courier".toList entries "fontname".toList
      let fontSize ← given decodeWord 10 entries "fontsize".toList
      let nodeShape ← given decodeShape .box entries "node_shape".toList
      return { direction, fontName, fontSize, nodeShape } := by
  have hdirection := Field.puts "rankdir".toList decodeDirection fun d (a : Attributes) => { a with direction := d }
  have hfontName := Field.puts "fontname".toList decodeText fun t (a : Attributes) => { a with fontName := t }
  have hfontSize := Field.puts "fontsize".toList decodeWord fun n (a : Attributes) => { a with fontSize := n }
  have hnodeShape := Field.puts "node_shape".toList decodeShape fun s (a : Attributes) => { a with nodeShape := s }
  have hindependent : chartFields.Pairwise Field.Independent := by
    refine .cons ?_ (.cons ?_ (.cons ?_ (.cons ?_ .nil)))
    · simp only [List.forall_mem_cons]
      exact ⟨hdirection.independent hfontName fun _ _ _ => rfl, hdirection.independent hfontSize fun _ _ _ => rfl,
        hdirection.independent hnodeShape fun _ _ _ => rfl, fun _ h => by cases h⟩
    · simp only [List.forall_mem_cons]
      exact ⟨hfontName.independent hfontSize fun _ _ _ => rfl, hfontName.independent hnodeShape fun _ _ _ => rfl,
        fun _ h => by cases h⟩
    · simp only [List.forall_mem_cons]
      exact ⟨hfontSize.independent hnodeShape fun _ _ _ => rfl, fun _ h => by cases h⟩
    · exact fun _ h => by cases h
  rw [toOption_assignEntries (by decide +kernel) hindependent h]
  refine (hdirection.take_bind .down rfl _).trans (bind_congr fun direction => ?_)
  refine (hfontName.take_bind "Courier".toList rfl _).trans (bind_congr fun fontName => ?_)
  refine (hfontSize.take_bind 10 rfl _).trans (bind_congr fun fontSize => ?_)
  exact hnodeShape.take_bind .box rfl _

/-- **A section for the engine is read setting by setting.** -/
theorem toOption_engine {entries : Entries} (h : entries.names.Nodup) :
    (assignEntries engineFields entries {}).toOption = do
      let program ← given decodeText "dot".toList entries "program".toList
      let cleanup ← given decodeFlag true entries "cleanup".toList
      return { program, cleanup } := by
  have hprogram := Field.puts "program".toList decodeText fun t (e : EngineSettings) => { e with program := t }
  have hcleanup := Field.puts "cleanup".toList decodeFlag fun b (e : EngineSettings) => { e with cleanup := b }
  have hindependent : engineFields.Pairwise Field.Independent :=
    List.pairwise_pair.2 (hprogram.independent hcleanup fun _ _ _ => rfl)
  rw [toOption_assignEntries (by decide +kernel) hindependent h]
  refine (hprogram.take_bind "dot".toList rfl _).trans (bind_congr fun program => ?_)
  exact hcleanup.take_bind true rfl _

theorem toOption_decode {entries : Entries} (h : entries.names.Nodup) :
    (Settings.decode entries).toOption = do
      let chart ← given (decodeSection chartFields .chartSection {}) {} entries "graph".toList
      let engine ← given (decodeSection engineFields .engineSection {}) {} entries "engine".toList
      return { chart, engine } := by
  have hchart := Field.puts "graph".toList (decodeSection chartFields .chartSection {})
    fun a (s : Settings) => { s with chart := a }
  have hengine := Field.puts "engine".toList (decodeSection engineFields .engineSection {})
    fun e (s : Settings) => { s with engine := e }
  have hindependent : settingsFields.Pairwise Field.Independent :=
    List.pairwise_pair.2 (hchart.independent hengine fun _ _ _ => rfl)
  rw [Settings.decode, toOption_assignEntries (by decide +kernel) hindependent h]
  refine (hchart.take_bind {} rfl _).trans (bind_congr fun chart => ?_)
  exact hengine.take_bind {} rfl _

/-! ### Documents -/

/-- **Settings are read from a document exactly if it gives them, item by item.** -/
theorem ofDocument_eq_ok_iff {source : Text} {entries : Entries} (hread : read? source = some entries)
    (hplain : Settings.Plain entries.tree) {s : Settings} :
    Settings.ofDocument source = .ok s ↔ Settings.GivenBy entries.tree s := by
  have hdistinct := distinct_of_read? hread
  have hdecode : Settings.ofDocument source = .ok s ↔ (Settings.decode entries).toOption = some s := by
    rw [Settings.ofDocument, hread, toOption_eq_some_iff]
    exact mapError_eq_ok_iff
  obtain ⟨⟨direction, fontName, fontSize, nodeShape⟩, program, cleanup⟩ := s
  have hdirection : given decodeDirection .down (sectionEntries entries "graph".toList) "rankdir".toList =
      some direction ↔ Item.direction.Gives entries.tree direction :=
    given_eq_some_iff .direction fun v hv _ => decodeDirection_eq_some_iff (hplain.direction v.tree hv)
  have hfontName : given decodeText "Courier".toList (sectionEntries entries "graph".toList) "fontname".toList =
      some fontName ↔ Item.fontName.Gives entries.tree fontName :=
    given_eq_some_iff .fontName fun _ _ _ => decodeText_eq_some_iff
  have hfontSize : given decodeWord 10 (sectionEntries entries "graph".toList) "fontsize".toList =
      some fontSize ↔ Item.fontSize.Gives entries.tree fontSize :=
    given_eq_some_iff .fontSize fun _ _ _ => decodeWord_eq_some_iff
  have hnodeShape : given decodeShape .box (sectionEntries entries "graph".toList) "node_shape".toList =
      some nodeShape ↔ Item.nodeShape.Gives entries.tree nodeShape :=
    given_eq_some_iff .nodeShape fun v hv _ => decodeShape_eq_some_iff (hplain.nodeShape v.tree hv)
  have hprogram : given decodeText "dot".toList (sectionEntries entries "engine".toList) "program".toList =
      some program ↔ Item.program.Gives entries.tree program :=
    given_eq_some_iff .program fun _ _ _ => decodeText_eq_some_iff
  have hcleanup : given decodeFlag true (sectionEntries entries "engine".toList) "cleanup".toList =
      some cleanup ↔ Item.cleanup.Gives entries.tree cleanup :=
    given_eq_some_iff .cleanup fun _ _ _ => decodeFlag_eq_some_iff
  rw [hdecode, toOption_decode hdistinct.names, given_section hplain.graph, given_section hplain.engine,
    toOption_chart (distinct_sectionEntries hdistinct _), toOption_engine (distinct_sectionEntries hdistinct _)]
  simp only [bind, Option.bind_eq_some_iff, pure, Option.some.injEq]
  constructor
  · rintro ⟨_, ⟨_, h₁, _, h₂, _, h₃, _, h₄, rfl⟩, _, ⟨_, h₅, _, h₆, rfl⟩, ⟨⟩⟩
    exact ⟨hdirection.1 h₁, hfontName.1 h₂, hfontSize.1 h₃, hnodeShape.1 h₄, hprogram.1 h₅, hcleanup.1 h₆⟩
  · rintro ⟨h₁, h₂, h₃, h₄, h₅, h₆⟩
    exact ⟨_, ⟨_, hdirection.2 h₁, _, hfontName.2 h₂, _, hfontSize.2 h₃, _, hnodeShape.2 h₄, rfl⟩,
      _, ⟨_, hprogram.2 h₅, _, hcleanup.2 h₆, rfl⟩, rfl⟩

end Flowchart
