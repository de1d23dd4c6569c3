import Flowchart.Toml.Reader
import Mathlib.Data.List.Nodup

/-! No key twice.

A document is made of statements, and each of them is refused if it would give a table a
key that the table has. So no table of a document that is read has a key twice, at any
depth (`Value.Distinct`): `distinct_of_read?`.

What one statement does is `alter?` with a change at the end of a path. The tables on the
way keep their names (`names_set`) or get one that is new, so only the change itself has
to be looked at: `Value.Distinct.alter?`. -/
namespace Flowchart.Toml

/-! ### Names of entries -/

/-- The names of a table's keys. -/
def Entries.names (entries : Entries) : List Text := entries.map fun e => e.1.name

namespace Entries

theorem find?_eq_none_iff {entries : Entries} {name : Text} : entries.find? name = none ↔ name ∉ entries.names := by
  simp [find?, names]

theorem mem_of_find? {entries : Entries} {name : Text} {v : Value} (h : entries.find? name = some v) :
    ∃ key, (key, v) ∈ entries := by
  obtain ⟨e, he, rfl⟩ := Option.map_eq_some_iff.1 h
  exact ⟨e.1, List.mem_of_find?_eq_some he⟩

theorem names_concat (entries : Entries) (key : Key) (v : Value) :
    (entries ++ [(key, v)]).names = entries.names ++ [key.name] := by
  rw [names, List.map_append]
  rfl

theorem names_set (entries : Entries) (name : Text) (v : Value) : (entries.set name v).names = entries.names := by
  rw [names, set, List.map_map]
  refine List.map_congr_left fun e _ => ?_
  show (if e.1.name = name then (e.1, v) else e).1.name = e.1.name
  split <;> rfl

theorem mem_set {entries : Entries} {name : Text} {v : Value} {e : Key × Value} (h : e ∈ entries.set name v) :
    e.2 = v ∨ e ∈ entries := by
  obtain ⟨d, hd, rfl⟩ := List.mem_map.1 h
  split
  · exact .inl rfl
  · exact .inr hd

theorem not_mem_names_erase (entries : Entries) (name : Text) : name ∉ (entries.erase name).names := by
  intro h
  obtain ⟨e, he, hname⟩ := List.mem_map.1 h
  exact of_decide_eq_true (List.mem_filter.1 he).2 hname

end Entries

/-! ### Values in which no key stands twice -/

/-- No table in a value has a key twice. -/
inductive Value.Distinct : Value → Prop where
  | string (span : Span) (t : Text) : Distinct (.string span t)
  | integer (span : Span) (i : Int) : Distinct (.integer span i)
  | float (span : Span) (x : Binary64) : Distinct (.float span x)
  | boolean (span : Span) (b : Bool) : Distinct (.boolean span b)
  | datetime (span : Span) : Distinct (.datetime span)
  | array {span : Span} {items : List Value} : (∀ v ∈ items, Distinct v) → Distinct (.array span items)
  | tables {rows : List Value} : (∀ v ∈ rows, Distinct v) → Distinct (.tables rows)
  | table {form : Form} {span? : Option Span} {entries : Entries} :
    entries.names.Nodup → (∀ e ∈ entries, Distinct e.2) → Distinct (.table form span? entries)

namespace Value.Distinct
variable {form other : Form} {span? more? : Option Span} {entries : Entries} {rows : List Value}

theorem names (h : Distinct (.table form span? entries)) : entries.names.Nodup := by
  cases h with
  | table hnames _ => exact hnames

theorem of_mem (h : Distinct (.table form span? entries)) {e : Key × Value} (he : e ∈ entries) : e.2.Distinct := by
  cases h with
  | table _ hvalues => exact hvalues e he

theorem of_find? (h : Distinct (.table form span? entries)) {name : Text} {v : Value}
    (hfind : entries.find? name = some v) : v.Distinct := by
  obtain ⟨key, hmem⟩ := Entries.mem_of_find? hfind
  exact h.of_mem hmem

theorem of_mem_rows (h : Distinct (.tables rows)) {v : Value} (hv : v ∈ rows) : v.Distinct := by
  cases h with
  | tables hrows => exact hrows v hv

/-- What a table is called does not matter. -/
theorem relabel (h : Distinct (.table form span? entries)) : Distinct (.table other more? entries) :=
  .table h.names fun _ => h.of_mem

theorem empty : Distinct (.table form span? []) := .table List.nodup_nil fun _ he => by cases he

theorem concat (h : Distinct (.table form span? entries)) {key : Key} {v : Value} (hv : v.Distinct)
    (hnew : key.name ∉ entries.names) : Distinct (.table form span? (entries ++ [(key, v)])) := by
  refine .table ?_ ?_
  · rw [Entries.names_concat, ← List.concat_eq_append]
    exact h.names.concat hnew
  · intro e he
    rcases List.mem_append.1 he with he | he
    · exact h.of_mem he
    · rw [List.mem_singleton.1 he]
      exact hv

theorem set (h : Distinct (.table form span? entries)) {v : Value} (hv : v.Distinct) (name : Text) :
    Distinct (.table form span? (entries.set name v)) := by
  refine .table ?_ ?_
  · rw [Entries.names_set]
    exact h.names
  · intro e he
    rcases Entries.mem_set he with rfl | he
    · exact hv
    · exact h.of_mem he

theorem erase (h : Distinct (.table form span? entries)) (name : Text) :
    Distinct (.table form span? (entries.erase name)) := by
  refine .table ?_ fun e he => h.of_mem (List.mem_filter.1 he).1
  exact h.names.sublist (List.filter_sublist.map _)

end Value.Distinct

/-! ### One statement -/

namespace Value
variable {v w : Value} {key : Key} {span : Span}

/-- A change at the end of a path gives no table on the way a key twice. -/
theorem Distinct.alter? {dotted : Bool} {change : Value → Option Value} {path : List Key}
    (hchange : ∀ u u', u.Distinct → change u = some u' → u'.Distinct) (hv : v.Distinct)
    (h : v.alter? dotted change path = some w) : w.Distinct := by
  induction path generalizing v w with
  | nil => exact hchange v w hv h
  | cons key path ih =>
    cases v with
    | table form span? entries =>
      rw [Value.alter?] at h
      split at h
      · rename_i hnone
        obtain ⟨made, hmade, ⟨⟩⟩ := Option.bind_eq_some_iff.1 h
        exact hv.concat (ih .empty hmade) (Entries.find?_eq_none_iff.1 hnone)
      · rename_i inner innerSpan? more hsome
        split at h
        · cases h
        · obtain ⟨changed, hchanged, ⟨⟩⟩ := Option.bind_eq_some_iff.1 h
          exact hv.set (ih (hv.of_find? hsome) hchanged) key.name
      · rename_i rows hsome
        have hrows := hv.of_find? hsome
        obtain ⟨last, hlast, h⟩ := Option.bind_eq_some_iff.1 h
        obtain ⟨changed, hchanged, ⟨⟩⟩ := Option.bind_eq_some_iff.1 h
        have hlast := hrows.of_mem_rows (List.mem_of_getLast? hlast)
        refine hv.set (.tables fun row hrow => ?_) key.name
        rcases List.mem_append.1 hrow with hrow | hrow
        · exact hrows.of_mem_rows ((List.dropLast_sublist rows).subset hrow)
        · rw [List.mem_singleton.1 hrow]
          exact ih hlast hchanged
      · cases h
    | _ => cases h

theorem Distinct.put? {path : List Key} {u : Value} (hu : u.Distinct) (hv : v.Distinct)
    (h : Value.put? path key v u = some w) : w.Distinct := by
  cases u with
  | table form span? entries =>
    rw [Value.put?] at h
    split at h
    · cases h
    · rename_i hnot
      cases h
      refine hu.concat hv (Entries.find?_eq_none_iff.1 ?_)
      rw [← Option.not_isSome_iff_eq_none]
      exact fun hsome => hnot (.inr hsome)
  | _ => cases h

theorem Distinct.extend (hv : v.Distinct) (u : Value) : (u.extend v).Distinct := by
  unfold Value.extend
  split
  · exact hv.relabel
  · exact hv

theorem Distinct.openTable? (hv : v.Distinct) (h : v.openTable? key span = some w) : w.Distinct := by
  cases v with
  | table form span? entries =>
    rw [Value.openTable?] at h
    split at h
    · rename_i hnone
      cases h
      exact hv.concat .empty (Entries.find?_eq_none_iff.1 hnone)
    · rename_i hsome
      cases h
      exact (hv.erase key.name).concat (hv.of_find? hsome).relabel (Entries.not_mem_names_erase entries key.name)
    · cases h
  | _ => cases h

theorem Distinct.openRow? (hv : v.Distinct) (h : v.openRow? key span = some w) : w.Distinct := by
  cases v with
  | table form span? entries =>
    rw [Value.openRow?] at h
    split at h
    · rename_i hnone
      cases h
      refine hv.concat (.tables fun row hrow => ?_) (Entries.find?_eq_none_iff.1 hnone)
      rw [List.mem_singleton.1 hrow]
      exact .empty
    · rename_i rows hsome
      cases h
      refine hv.set (.tables fun row hrow => ?_) key.name
      rcases List.mem_append.1 hrow with hrow | hrow
      · exact (hv.of_find? hsome).of_mem_rows hrow
      · rw [List.mem_singleton.1 hrow]
        exact .empty
    · cases h
  | _ => cases h

theorem Distinct.addPair? {path : KeyPath} {u : Value} (hu : u.Distinct) (hv : v.Distinct)
    (h : u.addPair? path v = some w) : w.Distinct :=
  hu.alter? (fun _ _ ht hput => ht.put? hv hput) h

end Value

/-! ### Documents -/

/-- What every step keeps, a run keeps. -/
theorem foldlM_keeps {α σ : Type} {P : σ → Prop} {step : σ → α → Option σ} {l : List α} {s t : σ}
    (hstep : ∀ a ∈ l, ∀ u v, P u → step u a = some v → P v) (hs : P s) (h : l.foldlM step s = some t) : P t := by
  induction l generalizing s with
  | nil =>
    cases h
    exact hs
  | cons a l ih =>
    rw [List.foldlM_cons] at h
    obtain ⟨u, hu, h⟩ := Option.bind_eq_some_iff.1 h
    have ha := hstep a (List.mem_cons_self ..) s u hs hu
    exact ih (fun b hb => hstep b (List.mem_cons_of_mem a hb)) ha h

theorem distinct_inlineTable? {span : Span} {pairs : List (KeyPath × Value)} {v : Value}
    (hpairs : ∀ p ∈ pairs, p.2.Distinct) (h : Value.inlineTable? span pairs = some v) : v.Distinct :=
  foldlM_keeps (fun p hp _ _ hu => hu.addPair? (hpairs p hp)) .empty h

/-- No table in the value of a statement has a key twice. -/
def Statement.Distinct : Statement → Prop
  | .pair _ v => v.Distinct
  | _ => True

theorem distinct_add? {d e : Draft} {s : Statement} (hs : s.Distinct) (hd : d.root.Distinct)
    (h : d.add? s = some e) : e.root.Distinct := by
  cases s with
  | table path span =>
    obtain ⟨root, hroot, ⟨⟩⟩ := Option.bind_eq_some_iff.1 h
    exact hd.alter? (fun _ _ hu => hu.openTable?) hroot
  | row path span =>
    obtain ⟨root, hroot, ⟨⟩⟩ := Option.bind_eq_some_iff.1 h
    exact hd.alter? (fun _ _ hu => hu.openRow?) hroot
  | pair path v =>
    obtain ⟨root, hroot, ⟨⟩⟩ := Option.bind_eq_some_iff.1 h
    refine hd.alter? (fun u w hu hw => ?_) hroot
    obtain ⟨added, hadded, rfl⟩ := Option.map_eq_some_iff.1 hw
    exact (hu.addPair? hs hadded).extend v

theorem distinct_ofStatements? {statements : List Statement} {entries : Entries}
    (hstatements : ∀ s ∈ statements, s.Distinct) (h : Entries.ofStatements? statements = some entries) :
    (Value.table .header none entries).Distinct := by
  obtain ⟨d, hd, h⟩ := Option.bind_eq_some_iff.1 h
  have hroot : d.root.Distinct :=
    foldlM_keeps (P := fun d : Draft => d.root.Distinct) (fun s hs _ _ => distinct_add? (hstatements s hs)) .empty hd
  split at h
  · rename_i heq
    cases h
    rw [heq] at hroot
    exact hroot.relabel
  · cases h

/-! ### What is read -/

theorem distinct_scalar? {size : Nat} {t rest : Text} {v : Value} (h : scalar? size t = some (v, rest)) :
    v.Distinct := by
  unfold scalar? at h
  split at h
  · cases h
  · split at h
    · obtain ⟨p, -, ⟨⟩⟩ := Option.map_eq_some_iff.1 h
      exact .string ..
    · split at h
      · obtain ⟨p, -, ⟨⟩⟩ := Option.map_eq_some_iff.1 h
        exact .boolean ..
      · split at h
        · obtain ⟨p, -, ⟨⟩⟩ := Option.map_eq_some_iff.1 h
          exact .boolean ..
        · split at h
          · cases h
            exact .datetime ..
          · split at h
            · cases h
              exact .float ..
            · obtain ⟨p, -, ⟨⟩⟩ := Option.map_eq_some_iff.1 h
              exact .integer ..

section Nested
variable {read? : Text → Option (Value × Text)} (hread : ∀ {t rest v}, read? t = some (v, rest) → v.Distinct)
include hread

theorem distinct_items? {fuel : Nat} {t rest : Text} {items : List Value}
    (h : items? read? fuel t = some (items, rest)) : ∀ v ∈ items, v.Distinct := by
  induction fuel generalizing t items with
  | zero => cases h
  | succ fuel ih =>
    rw [items?] at h
    split at h
    · cases h
      exact fun v hv => by cases hv
    · obtain ⟨⟨v, behind⟩, hv, h⟩ := Option.bind_eq_some_iff.1 h
      have hv := hread hv
      dsimp only at h
      split at h
      · cases h
        simpa using hv
      · obtain ⟨⟨vs, left⟩, hvs, ⟨⟩⟩ := Option.bind_eq_some_iff.1 h
        exact List.forall_mem_cons.2 ⟨hv, ih hvs⟩
      · cases h

theorem distinct_pairs? {size fuel : Nat} {t rest : Text} {pairs : List (KeyPath × Value)}
    (h : pairs? size read? fuel t = some (pairs, rest)) : ∀ p ∈ pairs, p.2.Distinct := by
  induction fuel generalizing t pairs with
  | zero => cases h
  | succ fuel ih =>
    rw [pairs?] at h
    obtain ⟨⟨path, behind⟩, -, h⟩ := Option.bind_eq_some_iff.1 h
    obtain ⟨behind, -, h⟩ := Option.bind_eq_some_iff.1 h
    obtain ⟨⟨v, behind⟩, hv, h⟩ := Option.bind_eq_some_iff.1 h
    have hv := hread hv
    dsimp only at h
    split at h
    · cases h
      simpa using hv
    · obtain ⟨⟨ps, left⟩, hps, ⟨⟩⟩ := Option.bind_eq_some_iff.1 h
      exact List.forall_mem_cons.2 ⟨hv, ih hps⟩
    · cases h

end Nested

theorem distinct_value? {size depth : Nat} {t rest : Text} {v : Value} (h : value? size depth t = some (v, rest)) :
    v.Distinct := by
  induction depth using Nat.strongRecOn generalizing t rest v with
  | ind depth ih =>
    unfold value? at h
    split at h
    · cases h
    · cases h
    · rename_i inner behind
      obtain ⟨⟨items, left⟩, hitems, ⟨⟩⟩ := Option.bind_eq_some_iff.1 h
      exact .array (distinct_items? (ih inner (Nat.lt_succ_self inner)) hitems)
    · rename_i inner behind
      dsimp only at h
      split at h
      · obtain ⟨_, ⟨⟩, h⟩ := Option.bind_eq_some_iff.1 h
        obtain ⟨table, htable, ⟨⟩⟩ := Option.bind_eq_some_iff.1 h
        exact distinct_inlineTable? (fun p hp => by cases hp) htable
      · obtain ⟨⟨pairs, left⟩, hpairs, h⟩ := Option.bind_eq_some_iff.1 h
        obtain ⟨table, htable, ⟨⟩⟩ := Option.bind_eq_some_iff.1 h
        exact distinct_inlineTable? (distinct_pairs? (ih inner (Nat.lt_succ_self inner)) hpairs) htable
    · exact distinct_scalar? h

theorem distinct_header? {size : Nat} {t rest : Text} {s : Statement} (h : header? size t = some (s, rest)) :
    s.Distinct := by
  unfold header? at h
  split at h
  · obtain ⟨_, -, h⟩ := Option.bind_eq_some_iff.1 h
    obtain ⟨_, -, ⟨⟩⟩ := Option.bind_eq_some_iff.1 h
    trivial
  · obtain ⟨_, -, h⟩ := Option.bind_eq_some_iff.1 h
    obtain ⟨_, -, ⟨⟩⟩ := Option.bind_eq_some_iff.1 h
    trivial
  · cases h

theorem distinct_pair? {size : Nat} {t rest : Text} {s : Statement} (h : pair? size t = some (s, rest)) :
    s.Distinct := by
  obtain ⟨_, -, h⟩ := Option.bind_eq_some_iff.1 h
  obtain ⟨_, -, h⟩ := Option.bind_eq_some_iff.1 h
  obtain ⟨⟨v, left⟩, hv, ⟨⟩⟩ := Option.bind_eq_some_iff.1 h
  exact distinct_value? hv

theorem distinct_statements? {size fuel : Nat} {t : Text} {statements : List Statement}
    (h : statements? size fuel t = some statements) : ∀ s ∈ statements, s.Distinct := by
  induction fuel generalizing t statements with
  | zero => cases h
  | succ fuel ih =>
    rw [statements?] at h
    split at h
    · cases h
      exact fun s hs => by cases hs
    · split at h
      · obtain ⟨left, -, h⟩ := Option.bind_eq_some_iff.1 h
        exact ih h
      · dsimp only at h
        split at h
        · obtain ⟨⟨s, left⟩, hs, h⟩ := Option.bind_eq_some_iff.1 h
          obtain ⟨left, -, h⟩ := Option.bind_eq_some_iff.1 h
          obtain ⟨more, hmore, ⟨⟩⟩ := Option.bind_eq_some_iff.1 h
          exact List.forall_mem_cons.2 ⟨distinct_header? hs, ih hmore⟩
        · obtain ⟨⟨s, left⟩, hs, h⟩ := Option.bind_eq_some_iff.1 h
          obtain ⟨left, -, h⟩ := Option.bind_eq_some_iff.1 h
          obtain ⟨more, hmore, ⟨⟩⟩ := Option.bind_eq_some_iff.1 h
          exact List.forall_mem_cons.2 ⟨distinct_pair? hs, ih hmore⟩

/-- **No table of a document that is read has a key twice.** -/
theorem distinct_of_read? {source : Text} {entries : Entries} (h : read? source = some entries) :
    (Value.table .header none entries).Distinct := by
  obtain ⟨statements, hstatements, h⟩ := Option.bind_eq_some_iff.1 h
  exact distinct_ofStatements? (distinct_statements? hstatements) h

end Flowchart.Toml
