import Flowchart.Proofs.Files.Leaving

/-! What becomes of the files that nobody asked for.

An operation on the tree is told a path, and the path leads to at most one file
(`LeadsTo`). `Keeps` says of any other file that it stands where it stood and holds
what it held, and that no way leads to it that did not lead to it before, so that the
next operation keeps it for the same reason (`Keeps.leadsTo`). Writing keeps it, since
writing changes a tree at its path only (`changedAt_write`), and so does removing
(`keeps_remove`).

Over several operations this makes the relation `Spares`: all files but those that some
paths lead to are as they were. -/
namespace Flowchart.Files

namespace Tree

/-- A path leads to the file of a number, links followed. -/
def LeadsTo (t : Tree) (path : Text) (n : Nat) : Prop := ∃ p, t.locate path = .ok p ∧ t.get? p = some (.file n)

instance (t : Tree) (path : Text) (n : Nat) : Decidable (t.LeadsTo path n) :=
  match h : t.locate path with
  | .ok p =>
    decidable_of_iff (t.get? p = some (.file n)) ⟨fun hp => ⟨p, h, hp⟩, fun ⟨q, hq, hfile⟩ => by
      rw [h] at hq
      cases hq
      exact hfile⟩
  | .error _ => isFalse fun ⟨q, hq, _⟩ => by
      rw [h] at hq
      cases hq

/-- A tree is left as it was but for the file that a path leads to, which may be written, removed, made, or
replaced by a new one. -/
structure ChangedAt (t : Tree) (path : Text) (left : Tree) : Prop where
  spread : left.spread = t.spread
  elsewhere : ∀ p, t.locate path ≠ .ok p → left.get? p = t.get? p
  there : ∀ p, t.locate path = .ok p →
    left.get? p = t.get? p ∨ left.get? p = none ∨ ∃ n, left.get? p = some (.file n) ∧ ¬ t.Holds n
  content : ∀ n, t.Holds n → ¬ t.LeadsTo path n → (left.fileNumbered n).content = (t.fileNumbered n).content

/-- All files but those that some paths lead to stand where they stood and hold what they held. -/
def Spares (t : Tree) (paths : List Text) (left : Tree) : Prop :=
  ∀ p n, t.get? p = some (.file n) → (∀ path ∈ paths, ¬ t.LeadsTo path n) →
    left.get? p = some (.file n) ∧ (left.fileNumbered n).content = (t.fileNumbered n).content

/-- The file of a number stands where it stood and holds what it held, and there are no new ways. -/
structure Keeps (n : Nat) (t left : Tree) : Prop where
  spread : left.spread = t.spread
  stands : ∀ p, left.get? p = some (.file n) ↔ t.get? p = some (.file n)
  ways : ∀ p e, e.leadsOn = true → left.get? p = some e → t.get? p = some e
  content : (left.fileNumbered n).content = (t.fileNumbered n).content

theorem ChangedAt.refl (t : Tree) (path : Text) : t.ChangedAt path t :=
  ⟨rfl, fun _ _ => rfl, fun _ _ => .inl rfl, fun _ _ _ => rfl⟩

theorem Spares.refl (t : Tree) (paths : List Text) : t.Spares paths t := fun _ _ hp _ => ⟨hp, rfl⟩

/-- Files are spared one by one. -/
theorem spares_of_keeps {t left : Tree} {paths : List Text}
    (h : ∀ n, t.Holds n → (∀ path ∈ paths, ¬ t.LeadsTo path n) → Keeps n t left) : t.Spares paths left := by
  intro p n hp hpaths
  have hkeeps := h n ⟨p, hp⟩ hpaths
  exact ⟨(hkeeps.stands p).2 hp, hkeeps.content⟩

/-! ### Ways to a file that is kept -/

namespace Keeps
variable {n : Nat} {t left : Tree}

theorem refl (n : Nat) (t : Tree) : Keeps n t t := ⟨rfl, fun _ => .rfl, fun _ _ _ h => h, rfl⟩

theorem trans {last : Tree} (h : Keeps n t left) (h' : Keeps n left last) : Keeps n t last :=
  ⟨h'.spread.trans h.spread, fun p => (h'.stands p).trans (h.stands p),
    fun p e he hp => h.ways p e he (h'.ways p e he hp), h'.content.trans h.content⟩

theorem holds (h : Keeps n t left) (hn : t.Holds n) : left.Holds n := by
  obtain ⟨p, hp⟩ := hn
  exact ⟨p, (h.stands p).2 hp⟩

/-- The ways to a file that is kept are ways that were there before. -/
theorem within (h : Keeps n t left) : left.Within t := ⟨h.spread.symm, h.ways⟩

/-- A path that leads to a file that is kept led to it before. -/
theorem leadsTo (h : Keeps n t left) {path : Text} (hpath : left.LeadsTo path n) : t.LeadsTo path n := by
  obtain ⟨p, hp, hfile⟩ := hpath
  have hbefore := (h.stands p).1 hfile
  refine ⟨p, h.within.locate (fun target htarget => ?_) hp, hbefore⟩
  rw [hbefore] at htarget
  cases htarget

end Keeps

/-! ### Operations -/

section Operations
variable {t left : Tree} {path : Text} {content : Bytes}

/-- What is stored changes a tree at its path only. -/
theorem changedAt_store {p : Place} (h : t.target path = .ok p) (content : Bytes) :
    t.ChangedAt path (t.store p content) := by
  have hp := (target_eq_ok h).1
  rcases store_eq h content with ⟨n, hn, hleft⟩ | ⟨-, -, hleft⟩ | ⟨hnone, hleft⟩ <;> rw [hleft]
  · refine ⟨rfl, fun _ _ => rfl, fun _ _ => .inl rfl, fun m _ hm => ?_⟩
    have hne : m ≠ n := by
      rintro rfl
      exact hm ⟨p, hp, hn⟩
    rw [fileNumbered_fill, if_neg hne]
  · exact .refl _ path
  · refine ⟨rfl, fun q hq => ?_, fun q hq => ?_, fun m hm _ => ?_⟩
    · have hne : q ≠ p := by
        rintro rfl
        exact hq hp
      rw [get?_create hnone, if_neg hne]
    · rw [hp] at hq
      cases hq
      refine .inr (.inr ⟨t.freshNumber, ?_, not_holds_freshNumber t⟩)
      rw [get?_create hnone, if_pos rfl]
    · rw [fileNumbered_create hm]

/-- A write changes a tree at its path only, even if it fails. -/
theorem changedAt_write (t : Tree) (path : Text) (content : Bytes) : t.ChangedAt path (t.write path content).2 := by
  cases hopened : t.opened path with
  | error fault =>
    rw [write_of_not_opened hopened]
    exact .refl t path
  | ok o =>
    have htarget := target_of_opened hopened
    rcases write_of_opened hopened content with h | ⟨room, fault, -, h⟩ <;> rw [h]
    · exact changedAt_store htarget content
    · exact changedAt_store htarget _

/-- What changes a tree at a path keeps every file that the path does not lead to. -/
theorem ChangedAt.keeps (h : t.ChangedAt path left) {n : Nat} (hn : t.Holds n) (hpath : ¬ t.LeadsTo path n) :
    Keeps n t left := by
  -- At the path nothing new can be met but files, and none of them is the file of the number.
  have hthere : ∀ p, left.get? p = t.get? p ∨
      (left.get? p = none ∨ ∃ m, left.get? p = some (.file m) ∧ m ≠ n) ∧ t.get? p ≠ some (.file n) := by
    intro p
    by_cases hp : t.locate path = .ok p
    · rcases h.there p hp with hsame | hleft | ⟨m, hm, hfresh⟩
      · exact .inl hsame
      · exact .inr ⟨.inl hleft, fun hfile => hpath ⟨p, hp, hfile⟩⟩
      · refine .inr ⟨.inr ⟨m, hm, ?_⟩, fun hfile => hpath ⟨p, hp, hfile⟩⟩
        rintro rfl
        exact hfresh hn
    · exact .inl (h.elsewhere p hp)
  refine ⟨h.spread, fun p => ?_, fun p e he hp => ?_, h.content n hn hpath⟩
  · rcases hthere p with hsame | ⟨hleft | ⟨m, hm, hne⟩, hfile⟩
    · rw [hsame]
    · simp [hleft, hfile]
    · simp [hm, hne, hfile]
  · rcases hthere p with hsame | ⟨hleft | ⟨m, hm, hne⟩, hfile⟩
    · exact hsame ▸ hp
    · rw [hleft] at hp
      cases hp
    · rw [hm] at hp
      cases hp
      cases he

/-- A path to a file that is not written leads to it after the write as before, whether or not the write fails. -/
theorem leadsTo_write {n : Nat} {other : Text} (h : t.LeadsTo other n) (hpath : ¬ t.LeadsTo path n) (content : Bytes) :
    (t.write path content).2.LeadsTo other n ∧
      ((t.write path content).2.fileNumbered n).content = (t.fileNumbered n).content := by
  obtain ⟨p, hp, hfile⟩ := h
  have hkeeps := (changedAt_write t path content).keeps ⟨p, hfile⟩ hpath
  have hnow := (hkeeps.stands p).2 hfile
  refine ⟨⟨p, (within_write t path content).locate (fun target htarget => ?_) hp, hnow⟩, hkeeps.content⟩
  rw [hnow] at htarget
  cases htarget

/-- Removing keeps every file that the path does not lead to. -/
theorem keeps_remove (h : t.remove path = .ok left) {n : Nat}
    (hpath : ¬ t.LeadsTo path n) : Keeps n t left := by
  obtain ⟨p, e, hp, -, he, hdirectory, rfl⟩ := remove_eq_ok h
  have hnames := names_ne_nil_of_get? he hdirectory
  have hfile : t.get? p ≠ some (.file n) := by
    intro hfile
    refine hpath ⟨p, locate_true hp fun target htarget => ?_, hfile⟩
    rw [hfile] at htarget
    cases htarget
  refine ⟨rfl, fun q => ?_, fun q e _ hq => ?_, rfl⟩
  · rw [get?_erase t p q hnames]
    by_cases hq : q = p
    · subst hq
      simp [hfile]
    · rw [if_neg hq]
  · rw [get?_erase t p q hnames] at hq
    split at hq
    · cases hq
    · exact hq

end Operations

end Tree

end Flowchart.Files
