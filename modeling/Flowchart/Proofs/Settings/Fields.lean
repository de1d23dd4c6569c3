import Flowchart.Settings.Decode
import Flowchart.Proofs.Toml.Keys

/-! Fields in any order.

The entries of a table are assigned in the order in which they stand in the document. Fields
that go to different places of a section do not get in each other's way (`Independent`), and
no key stands twice in a table, so it comes to the same to ask for the fields one by one:
`toOption_assignEntries`. Nothing is left then of the order of the entries, nor of entries
that are no field.

Which misfit is reported does depend on the order, so the result is taken without it. -/
namespace Flowchart

open Toml

/-! ### Results -/

section Except
variable {ε ε' α β : Type} {x : Except ε α} {a : α} {e : ε}

theorem bind_eq_ok_iff {f : α → Except ε β} {b : β} : (x >>= f) = .ok b ↔ ∃ a, x = .ok a ∧ f a = .ok b := by
  cases x <;> simp [bind, Except.bind]

theorem mapError_eq_ok_iff {f : ε → ε'} : x.mapError f = .ok a ↔ x = .ok a := by
  cases x with
  | error e => exact ⟨nofun, nofun⟩
  | ok b => exact ⟨fun h => by cases h; rfl, fun h => by cases h; rfl⟩

theorem toOption_eq_some_iff : x.toOption = some a ↔ x = .ok a := by
  cases x <;> simp [Except.toOption]

end Except

/-! ### One field -/

namespace Field
variable {σ α β : Type}

/-- What a table does to a section through one field. -/
def take (entries : Entries) (s : σ) (f : Field σ) : Option σ :=
  match entries.find? f.key with
  | none => some s
  | some v => (f.assign v s).toOption

/-- Two fields of which either may be assigned first. -/
def Independent (f g : Field σ) : Prop :=
  ∀ v w s, ((f.assign v s).toOption.bind fun s => (g.assign w s).toOption) =
    (g.assign w s).toOption.bind fun s => (f.assign v s).toOption

theorem take_nil (s : σ) (f : Field σ) : f.take [] s = some s := rfl

theorem take_cons_self (entries : Entries) (s : σ) (f : Field σ) {key : Key} (hkey : f.key = key.name) (v : Value) :
    f.take ((key, v) :: entries) s = (f.assign v s).toOption := by
  rw [take, Entries.find?_cons, if_pos hkey.symm]

theorem take_cons_of_ne (entries : Entries) (s : σ) (f : Field σ) {key : Key} (hkey : f.key ≠ key.name) (v : Value) :
    f.take ((key, v) :: entries) s = f.take entries s := by
  rw [take, take, Entries.find?_cons, if_neg (Ne.symm hkey)]

theorem take_of_not_mem {entries : Entries} (s : σ) {f : Field σ} (h : f.key ∉ entries.names) :
    f.take entries s = some s := by
  rw [take, Entries.find?_eq_none_iff.2 h]

/-- Either of two independent fields may be taken from a table first. -/
theorem Independent.take {f g : Field σ} (h : f.Independent g) (entries : Entries) (s : σ) :
    ((f.take entries s).bind fun s => g.take entries s) = (g.take entries s).bind fun s => f.take entries s := by
  unfold Field.take
  cases entries.find? f.key with
  | none =>
    cases entries.find? g.key with
    | none => rfl
    | some w => exact (Option.bind_fun_some _).symm
  | some v =>
    cases entries.find? g.key with
    | none => exact Option.bind_fun_some _
    | some w => exact h v w s

end Field

/-! ### All fields -/

section Assign
variable {σ : Type} {fields : List (Field σ)}

theorem foldlM_congr {α : Type} {l : List α} {run other : σ → α → Option σ} (h : ∀ a ∈ l, ∀ s, run s a = other s a)
    (s : σ) : l.foldlM run s = l.foldlM other s := by
  induction l generalizing s with
  | nil => rfl
  | cons a l ih =>
    rw [List.foldlM_cons, List.foldlM_cons, h a (List.mem_cons_self ..)]
    exact congrArg _ (funext fun s => ih (fun b hb => h b (List.mem_cons_of_mem a hb)) s)

/-- A step that may change places with each step before it may be done first. -/
theorem foldlM_middle {α : Type} {run : σ → α → Option σ} {a : α} {before behind : List α}
    (h : ∀ b ∈ before, ∀ s, ((run s b).bind fun s => run s a) = (run s a).bind fun s => run s b) (s : σ) :
    (before ++ a :: behind).foldlM run s = (a :: (before ++ behind)).foldlM run s := by
  induction before generalizing s with
  | nil => rfl
  | cons b before ih =>
    have hrest := ih fun c hc => h c (List.mem_cons_of_mem b hc)
    calc (b :: (before ++ a :: behind)).foldlM run s
        = (run s b).bind fun s => (a :: (before ++ behind)).foldlM run s := by
          rw [List.foldlM_cons]
          exact congrArg _ (funext hrest)
      _ = ((run s b).bind fun s => run s a).bind fun s => (before ++ behind).foldlM run s := by
          simp only [List.foldlM_cons]
          exact (Option.bind_assoc ..).symm
      _ = ((run s a).bind fun s => run s b).bind fun s => (before ++ behind).foldlM run s := by
          rw [h b (List.mem_cons_self ..)]
      _ = (a :: b :: (before ++ behind)).foldlM run s := by
          simp only [List.foldlM_cons]
          exact Option.bind_assoc ..

theorem foldlM_take_nil (s : σ) : fields.foldlM (Field.take []) s = some s := by
  induction fields generalizing s with
  | nil => rfl
  | cons f fields ih =>
    rw [List.foldlM_cons, Field.take_nil]
    exact ih s

/-- **The entries of a table may be assigned field by field.** -/
theorem toOption_assignEntries (hkeys : (fields.map Field.key).Nodup) (hfields : fields.Pairwise Field.Independent)
    {entries : Entries} (hentries : entries.names.Nodup) (s : σ) :
    (assignEntries fields entries s).toOption = fields.foldlM (Field.take entries) s := by
  induction entries generalizing s with
  | nil => exact (foldlM_take_nil s).symm
  | cons e entries ih =>
    obtain ⟨key, v⟩ := e
    obtain ⟨hnew, hentries⟩ := List.nodup_cons.1 hentries
    rw [assignEntries]
    split
    · rename_i hnone
      rw [ih hentries]
      refine foldlM_congr (fun f hf s => (Field.take_cons_of_ne entries s f ?_ v).symm) s
      simpa using List.find?_eq_none.1 hnone f hf
    · rename_i f hsome
      obtain ⟨hkey, before, behind, rfl, -⟩ := List.find?_eq_some_iff_append.1 hsome
      have hkey : f.key = key.name := of_decide_eq_true hkey
      have hbefore : ∀ g ∈ before, g.Independent f := by
        intro g hg
        exact (List.pairwise_append.1 hfields).2.2 g hg f (List.mem_cons_self ..)
      rw [foldlM_middle fun g hg s => (hbefore g hg).take _ s, List.foldlM_cons,
        Field.take_cons_self entries s f hkey]
      have hstep : ∀ s, (assignEntries (before ++ f :: behind) entries s).toOption =
          (before ++ behind).foldlM (Field.take ((key, v) :: entries)) s := by
        intro s
        rw [ih hentries, foldlM_middle fun g hg s => (hbefore g hg).take _ s, List.foldlM_cons,
          Field.take_of_not_mem s (hkey ▸ hnew)]
        -- The other fields have other keys.
        refine foldlM_congr (fun g hg s => (Field.take_cons_of_ne entries s g (fun heq => ?_) v).symm) s
        rw [List.map_append, List.map_cons, List.nodup_middle, List.nodup_cons, ← List.map_append] at hkeys
        exact hkeys.1 (hkey.trans heq.symm ▸ List.mem_map_of_mem hg)
      cases f.assign v s with
      | error e => rfl
      | ok t => exact hstep t

end Assign

end Flowchart
