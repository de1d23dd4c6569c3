import Flowchart.Proofs.Files.Ways

/-! What an operation leaves at its path.

Once a file is written, its path leads to what was written (`stores_write`): the way that
the write took is still there. A write that fails has stored nothing if the file was not
opened, and the first bytes of what was to be written if it was (`stores_of_write_error`).
Once a file is removed, nothing can be found at its path by
any way, whether or not a link at the end is followed (`without_remove`), and everything
else is where it was. -/
namespace Flowchart.Files.Tree

variable {t left : Tree} {path : Text}

/-- A path leads to a file with some content. -/
def Stores (t : Tree) (path : Text) (content : Bytes) : Prop :=
  ∃ p n, t.locate path = .ok p ∧ t.get? p = some (.file n) ∧ (t.fileNumbered n).content = content

/-- A path leads to a device, which keeps nothing of what is written to it. -/
def LeadsToDevice (t : Tree) (path : Text) : Prop := ∃ p d, t.locate path = .ok p ∧ t.get? p = some (.device d)

/-- A tree is left without what stood at a path, and otherwise as it was: the path leads to nothing, and every
other place and every content is the same. -/
structure Without (t : Tree) (path : Text) (left : Tree) : Prop where
  gone : ∀ last, left.look path last = .error .notFound
  elsewhere : ∀ p, t.locate path false ≠ .ok p → left.get? p = t.get? p
  content : ∀ n, left.fileNumbered n = t.fileNumbered n

/-! ### Writing -/

theorem within_fill (t : Tree) (n : Nat) (content : Bytes) : t.Within (t.fill n content) :=
  ⟨rfl, fun _ _ _ h => h⟩

theorem within_create {p : Place} (h : t.get? p = none) (content : Bytes) (mode : Nat) :
    t.Within (t.create p content mode) := by
  refine ⟨rfl, fun q e _ hq => ?_⟩
  have hne : q ≠ p := by
    rintro rfl
    rw [h] at hq
    cases hq
  rwa [get?_create h, if_neg hne]

theorem fileNumbered_create_fresh (t : Tree) (p : Place) (content : Bytes) (mode : Nat) :
    ((t.create p content mode).fileNumbered t.freshNumber).content = content :=
  congrArg File.content ((fileNumbered_putFile t t.freshNumber t.freshNumber _).trans (if_pos rfl))

theorem within_store {p : Place} (h : t.target path = .ok p) (content : Bytes) : t.Within (t.store p content) := by
  rcases store_eq h content with ⟨n, -, hleft⟩ | ⟨-, -, hleft⟩ | ⟨hnone, hleft⟩ <;> rw [hleft]
  · exact within_fill t n content
  · exact ⟨rfl, fun _ _ _ h => h⟩
  · exact within_create hnone content _

/-- A write leaves every directory and every link where it was. -/
theorem within_write (t : Tree) (path : Text) (content : Bytes) : t.Within (t.write path content).2 := by
  cases hopened : t.opened path with
  | error fault =>
    rw [write_of_not_opened hopened]
    exact ⟨rfl, fun _ _ _ h => h⟩
  | ok o =>
    have htarget := target_of_opened hopened
    rcases write_of_opened hopened content with h | ⟨room, fault, -, h⟩ <;> rw [h]
    · exact within_store htarget content
    · exact within_store htarget _

/-- What has been stored is found where it was stored. -/
theorem stores_store {p : Place} (h : t.target path = .ok p) (hdevice : ¬ t.LeadsToDevice path) (content : Bytes) :
    (t.store p content).Stores path content := by
  obtain ⟨n, hfile, hcontent⟩ :
      ∃ n, (t.store p content).get? p = some (.file n) ∧ ((t.store p content).fileNumbered n).content = content := by
    rcases store_eq h content with ⟨n, hn, hleft⟩ | ⟨d, hd, -⟩ | ⟨hnone, hleft⟩
    · refine ⟨n, hleft ▸ hn, ?_⟩
      rw [hleft, fileNumbered_fill, if_pos rfl]
    · exact absurd ⟨p, d, (target_eq_ok h).1, hd⟩ hdevice
    · refine ⟨t.freshNumber, ?_, ?_⟩ <;> rw [hleft]
      · rw [get?_create hnone, if_pos rfl]
      · exact fileNumbered_create_fresh t p content _
  refine ⟨p, n, (within_store h content).locate (fun target htarget => ?_) (target_eq_ok h).1, hfile, hcontent⟩
  rw [hfile] at htarget
  cases htarget

/-- What has been written is found where it was written. -/
theorem stores_write {content : Bytes} (h : t.write path content = (.ok (), left)) (hdevice : ¬ t.LeadsToDevice path) :
    left.Stores path content := by
  cases hopened : t.opened path with
  | error fault =>
    rw [write_of_not_opened hopened] at h
    cases h
  | ok o =>
    rcases write_of_opened hopened content with hwrite | ⟨room, fault, -, hwrite⟩ <;> rw [hwrite] at h <;> cases h
    exact stores_store (target_of_opened hopened) hdevice content

theorem eq_of_write_not_opened {content : Bytes} {fault fault' : Fault} (h : t.write path content = (.error fault, left))
    (hopened : t.opened path = .error fault') : left = t := by
  rw [write_of_not_opened hopened] at h
  cases h
  rfl

/-- A write that fails after the file was opened leaves the first bytes of what was to be written, and not all. -/
theorem stores_of_write_error {content : Bytes} {fault : Fault} {o : Opened}
    (h : t.write path content = (.error fault, left)) (hopened : t.opened path = .ok o)
    (hdevice : ¬ t.LeadsToDevice path) : ∃ room < content.length, left.Stores path (content.take room) := by
  rcases write_of_opened hopened content with hwrite | ⟨room, fault, hroom, hwrite⟩ <;> rw [hwrite] at h <;> cases h
  exact ⟨room, hroom, stores_store (target_of_opened hopened) hdevice _⟩

/-! ### Removing -/

section Erase
variable {p here : Place} {last : Bool} (hp : p.names ≠ [])
include hp

theorem get?_erase_of_ne {q : Place} (h : q ≠ p) : (t.erase p).get? q = t.get? q := by
  rw [get?_erase t p q hp, if_neg h]

theorem get?_erase_self : (t.erase p).get? p = none := by
  rw [get?_erase t p p hp, if_pos rfl]

/-- There is no way on from a place that was erased. -/
theorem step_erase_self (name : Text) : (t.erase p).step p name = .error .notFound := by
  rw [step, get?_erase_self hp]

theorem step_erase_of_ne {name : Text} (h : here ≠ p) : (t.erase p).step here name = t.step here name := by
  rw [step, get?_erase_of_ne hp h]
  rfl

/-- A walk that ended at the place that was erased, or at a link in another place, ends there still or finds
nothing on its way. -/
theorem walk_erase {names : List Text} {w : Walk} (hw : t.walk false here names = .ok w)
    (hend : ∀ q, w = .arrived q → q = p) :
    (t.erase p).walk last here names = .ok w ∨ (t.erase p).walk last here names = .error .notFound := by
  induction names generalizing here with
  | nil => exact .inl hw
  | cons name rest ih =>
    obtain ⟨next, hstep⟩ := exists_step_of_walk hw
    by_cases hhere : here = p
    · subst hhere
      right
      rw [walk, step_erase_self hp]
      rfl
    · have hstep' : (t.erase p).step here name = .ok next := (step_erase_of_ne hp hhere).trans hstep
      by_cases hnext : next = p
      · -- The walk has come to the place that was erased: it ends here, or there is no way on.
        subst hnext
        have hnone : ∀ target, (t.erase next).get? next ≠ some (.link target) := by
          intro target htarget
          cases (get?_erase_self hp).symm.trans htarget
        rw [walk_of_not_link hstep' hnone]
        cases rest with
        | nil =>
          rw [walk_last hstep] at hw
          exact .inl hw
        | cons name' rest =>
          right
          rw [walk, step_erase_self hp]
          rfl
      · by_cases hlink : ∃ target, t.get? next = some (.link target)
        · obtain ⟨target, hlink⟩ := hlink
          rw [walk_of_link hstep hlink] at hw
          rw [walk_of_link hstep' ((get?_erase_of_ne hp hnext).trans hlink)]
          by_cases hrest : rest = []
          · rw [if_pos ⟨hrest, rfl⟩] at hw
            cases hw
            exact absurd (hend next rfl) hnext
          · rw [if_neg fun h => hrest h.1] at hw ⊢
            exact .inl hw
        · rw [walk_of_not_link hstep fun target htarget => hlink ⟨target, htarget⟩] at hw
          rw [walk_of_not_link hstep' fun target htarget =>
            hlink ⟨target, (get?_erase_of_ne hp hnext).symm.trans htarget⟩]
          exact ih hw

theorem follow_erase {links : Nat} {names : List Text} (hfollow : t.follow false links here names = .ok p) :
    (t.erase p).follow last links here names = .ok p ∨
      (t.erase p).follow last links here names = .error .notFound := by
  induction links generalizing here names with
  | zero => cases hfollow
  | succ links ih =>
    have hlost (h : (t.erase p).walk last here names = .error .notFound) :
        (t.erase p).follow last (links + 1) here names = .error .notFound := by
      rw [follow, h]
      rfl
    rcases follow_eq_ok_iff.1 hfollow with hwalk | ⟨directory, target, rest, hwalk, htarget, hlater⟩
    · rcases walk_erase hp hwalk (fun q hq => by cases hq; rfl) with h | h
      · exact .inl (follow_eq_ok_iff.2 (.inl h))
      · exact .inr (hlost h)
    · rcases walk_erase hp hwalk (fun q hq => by cases hq) with h | h
      · rw [follow_of_link h htarget]
        exact ih hlater
      · exact .inr (hlost h)

/-- Nothing is found at the path of a place that was erased. -/
theorem look_erase (hlocate : t.locate path false = .ok p) (hslash : endsInSlash path = false) :
    (t.erase p).look path last = .error .notFound := by
  rw [locate_eq_ok_iff, hslash] at hlocate
  obtain ⟨hnull, hempty, hlong, hfollow⟩ := hlocate
  have hlong' : ¬ maxPath < (t.erase p).nameSize path := hlong
  have hleft : (t.erase p).locate path last =
      (t.erase p).follow last (maxLinks + 1) (startOf .here path) (pathNames path) := by
    rw [locate, if_neg hnull, if_neg hempty, if_neg hlong', hslash, Bool.or_false]
  rw [look, hleft]
  rcases follow_erase hp hfollow with h | h
  · rw [h]
    simp only [bind, Except.bind, get?_erase_self hp]
  · rw [h]
    rfl

end Erase

/-- What is removed is gone, and nothing else is. -/
theorem without_remove (h : t.remove path = .ok left) : t.Without path left := by
  obtain ⟨p, e, hlocate, hslash, he, hdirectory, rfl⟩ := remove_eq_ok h
  have hnames := names_ne_nil_of_get? he hdirectory
  refine ⟨fun last => look_erase hnames hlocate hslash, fun q hq => ?_, fun n => rfl⟩
  refine get?_erase_of_ne hnames ?_
  rintro rfl
  exact hq hlocate

end Flowchart.Files.Tree
