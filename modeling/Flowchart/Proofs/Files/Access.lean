import Flowchart.Files.Access

/-! Ways through a tree of files, and what is done at their ends.

A way is followed name by name, and along links: `walk_of_link` and `walk_of_not_link` are
one step of it, and `follow_eq_ok_iff` says how a way is followed to its end. What is done
there changes one entry or one file: `store_eq` and `remove_eq_ok` say which, and
`not_holds_freshNumber` that a file that is made takes no other file's number. A write is one
of three (`write_of_not_opened`, `write_of_opened`): nothing is stored, or all of it, or its
first bytes. -/
namespace Flowchart.Files.Tree

/-- The file of a number stands somewhere. -/
def Holds (t : Tree) (n : Nat) : Prop := ∃ p, t.get? p = some (.file n)

/-! ### Ways -/

section Ways
variable {t : Tree} {last : Bool} {here next : Place} {name : Text} {rest : List Text}

/-- A step starts from a directory. -/
theorem exists_directory_of_step (h : t.step here name = .ok next) : ∃ mode, t.get? here = some (.directory mode) := by
  rw [step] at h
  cases hhere : t.get? here with
  | none =>
    rw [hhere] at h
    cases h
  | some e =>
    rw [hhere] at h
    cases e with
    | directory mode => exact ⟨mode, rfl⟩
    | file m => cases h
    | link target => cases h
    | device d => cases h

theorem exists_step_of_walk {w : Walk} (h : t.walk last here (name :: rest) = .ok w) :
    ∃ next, t.step here name = .ok next := by
  rw [walk] at h
  cases hstep : t.step here name with
  | error fault =>
    rw [hstep] at h
    cases h
  | ok next => exact ⟨next, rfl⟩

theorem walk_of_link {target : Text} (hstep : t.step here name = .ok next)
    (hlink : t.get? next = some (.link target)) :
    t.walk last here (name :: rest) =
      .ok (if rest = [] ∧ last = false then .arrived next else .link here target rest) := by
  rw [walk, hstep]
  simp only [bind, Except.bind, hlink]
  split <;> rfl

theorem walk_of_not_link (hstep : t.step here name = .ok next)
    (hlink : ∀ target, t.get? next ≠ some (.link target)) :
    t.walk last here (name :: rest) = t.walk last next rest := by
  rw [walk, hstep]
  simp only [bind, Except.bind]

/-- A last step arrives, whatever stands there, if a link there is not to be followed. -/
theorem walk_last (hstep : t.step here name = .ok next) : t.walk false here [name] = .ok (.arrived next) := by
  by_cases hlink : ∃ target, t.get? next = some (.link target)
  · obtain ⟨target, hlink⟩ := hlink
    rw [walk_of_link hstep hlink, if_pos ⟨rfl, rfl⟩]
  · rw [walk_of_not_link hstep fun target htarget => hlink ⟨target, htarget⟩, walk]

/-- A way that is followed to its end has arrived, or it goes on along a link. -/
theorem follow_eq_ok_iff {links : Nat} {names : List Text} {p : Place} :
    t.follow last (links + 1) here names = .ok p ↔
      t.walk last here names = .ok (.arrived p) ∨
        ∃ directory target rest, t.walk last here names = .ok (.link directory target rest) ∧ target ≠ [] ∧
          t.follow last links (startOf directory target) (pathNames target ++ rest) = .ok p := by
  rw [follow]
  rcases t.walk last here names with fault | q | ⟨directory, target, rest⟩
  · simp [bind, Except.bind]
  · simp [bind, Except.bind, pure, Except.pure]
  · by_cases htarget : target = []
    · subst htarget
      simp [bind, Except.bind]
    · simp only [bind, Except.bind, htarget, if_false, reduceCtorEq, false_or, Except.ok.injEq, Walk.link.injEq]
      constructor
      · intro h
        exact ⟨directory, target, rest, ⟨rfl, rfl, rfl⟩, htarget, h⟩
      · rintro ⟨_, _, _, ⟨rfl, rfl, rfl⟩, -, h⟩
        exact h

/-- A way goes on along a link. -/
theorem follow_of_link {links : Nat} {names : List Text} {directory : Place} {target : Text}
    (hwalk : t.walk last here names = .ok (.link directory target rest)) (htarget : target ≠ []) :
    t.follow last (links + 1) here names =
      t.follow last links (startOf directory target) (pathNames target ++ rest) := by
  rw [follow, hwalk]
  simp only [bind, Except.bind, htarget, if_false]

/-- Where a walk does not stop at a link, it does not matter whether it would go on along a last link. -/
theorem walk_true {names : List Text} {w : Walk} (h : t.walk last here names = .ok w)
    (hend : ∀ p target, w = .arrived p → t.get? p ≠ some (.link target)) : t.walk true here names = .ok w := by
  induction names generalizing here with
  | nil => exact h
  | cons name rest ih =>
    obtain ⟨next, hstep⟩ := exists_step_of_walk h
    by_cases hlink : ∃ target, t.get? next = some (.link target)
    · obtain ⟨target, hlink⟩ := hlink
      rw [walk_of_link hstep hlink] at h ⊢
      by_cases hstop : rest = [] ∧ last = false
      · rw [if_pos hstop] at h
        cases h
        exact absurd hlink (hend next target rfl)
      · rw [if_neg hstop] at h
        rw [if_neg (by simp)]
        exact h
    · have hlink' : ∀ target, t.get? next ≠ some (.link target) := fun target htarget => hlink ⟨target, htarget⟩
      rw [walk_of_not_link hstep hlink'] at h ⊢
      exact ih h

theorem follow_true {links : Nat} {names : List Text} {p : Place} (h : t.follow last links here names = .ok p)
    (hend : ∀ target, t.get? p ≠ some (.link target)) : t.follow true links here names = .ok p := by
  induction links generalizing here names with
  | zero => cases h
  | succ links ih =>
    rw [follow_eq_ok_iff] at h ⊢
    rcases h with hwalk | ⟨directory, target, rest, hwalk, htarget, hfollow⟩
    · refine .inl (walk_true hwalk fun q target hq => ?_)
      cases hq
      exact hend target
    · exact .inr ⟨directory, target, rest, walk_true hwalk nofun, htarget, ih hfollow⟩

theorem locate_eq_ok_iff {path : Text} {p : Place} :
    t.locate path last = .ok p ↔
      '\x00' ∉ path ∧ path ≠ [] ∧ ¬ maxPath < t.nameSize path ∧
        t.follow (last || endsInSlash path) (maxLinks + 1) (startOf .here path) (pathNames path) = .ok p := by
  rw [locate]
  split
  · simp [*]
  · split
    · simp [*]
    · split <;> simp [*]

/-- A path that ends at no link leads to the same place whether or not a last link is followed. -/
theorem locate_true {path : Text} {p : Place} (h : t.locate path last = .ok p)
    (hend : ∀ target, t.get? p ≠ some (.link target)) : t.locate path = .ok p := by
  rw [locate_eq_ok_iff] at h ⊢
  obtain ⟨hnull, hempty, hlong, hfollow⟩ := h
  exact ⟨hnull, hempty, hlong, follow_true hfollow hend⟩

end Ways

/-! ### Writing -/

theorem le_foldl_max {ns : List Nat} {n top : Nat} (h : n ∈ ns ∨ n ≤ top) : n ≤ ns.foldl max top := by
  induction ns generalizing top with
  | nil => exact h.resolve_left List.not_mem_nil
  | cons m ns ih =>
    apply ih
    rcases h with h | h
    · rcases List.mem_cons.1 h with rfl | h
      · exact .inr (Nat.le_max_right top n)
      · exact .inl h
    · exact .inr (Nat.le_trans h (Nat.le_max_left top m))

theorem exists_entry_of_get? {t : Tree} {p : Place} {n : Nat} (h : t.get? p = some (.file n)) :
    (p, .file n) ∈ t.entries := by
  rw [get?] at h
  split at h
  · cases h
  · obtain ⟨⟨q, e⟩, hfind, rfl⟩ := Option.map_eq_some_iff.1 h
    have hq : q = p := by simpa using List.find?_some hfind
    exact hq ▸ List.mem_of_find?_eq_some hfind

/-- A fresh number is the number of no file that stands in the tree. -/
theorem not_holds_freshNumber (t : Tree) : ¬ t.Holds t.freshNumber := by
  rintro ⟨p, hp⟩
  have hlt : t.freshNumber < t.freshNumber :=
    Nat.lt_succ_of_le (le_foldl_max (.inl (List.mem_append_left _ (List.mem_map_of_mem (exists_entry_of_get? hp)))))
  exact Nat.lt_irrefl _ hlt

/-- What stands nowhere can be put there: the origins of places are directories. -/
theorem names_ne_nil_of_get?_eq_none {t : Tree} {p : Place} (h : t.get? p = none) : p.names ≠ [] := by
  intro hnames
  rw [get?, if_pos hnames] at h
  cases h

theorem get?_create {t : Tree} {p : Place} (h : t.get? p = none) (content : Bytes) (mode : Nat) (q : Place) :
    (t.create p content mode).get? q = if q = p then some (.file t.freshNumber) else t.get? q :=
  get?_put _ p q _ (names_ne_nil_of_get?_eq_none h)

theorem fileNumbered_create {t : Tree} {p : Place} {n : Nat} (hn : t.Holds n) (content : Bytes) (mode : Nat) :
    (t.create p content mode).fileNumbered n = t.fileNumbered n := by
  have hne : n ≠ t.freshNumber := by
    rintro rfl
    exact not_holds_freshNumber t hn
  exact (fileNumbered_putFile t n t.freshNumber _).trans (if_neg hne)

/-- A write is meant for where its path leads, and neither a directory nor a link stands there. -/
theorem target_eq_ok {t : Tree} {path : Text} {p : Place} (h : t.target path = .ok p) :
    t.locate path = .ok p ∧
      ((∃ n, t.get? p = some (.file n)) ∨ (∃ d, t.get? p = some (.device d)) ∨ t.get? p = none) := by
  rw [target] at h
  cases hlocate : t.locate path with
  | error fault =>
    rw [hlocate] at h
    cases h
  | ok q =>
    rw [hlocate] at h
    simp only [bind, Except.bind] at h
    split at h
    · split at h <;> cases h
      · rename_i n hn
        exact ⟨rfl, .inl ⟨n, hn⟩⟩
      · rename_i d hd
        exact ⟨rfl, .inr (.inl ⟨d, hd⟩)⟩
      · rename_i hnone
        exact ⟨rfl, .inr (.inr hnone)⟩
    · cases h

theorem target_of_opened {t : Tree} {path : Text} {o : Opened} (h : t.opened path = .ok o) :
    t.target path = .ok o.place := by
  rw [opened] at h
  cases htarget : t.target path with
  | error fault =>
    rw [htarget] at h
    cases h
  | ok p =>
    rw [htarget] at h
    simp only [bind, Except.bind] at h
    split at h <;> cases h <;> rfl

/-- What is stored at a place goes into the file that stands there, or is lost on a device, or makes a new file. -/
theorem store_eq {t : Tree} {path : Text} {p : Place} (h : t.target path = .ok p) (content : Bytes) :
    (∃ n, t.get? p = some (.file n) ∧ t.store p content = t.fill n content) ∨
      (∃ d, t.get? p = some (.device d) ∧ t.store p content = t) ∨
        t.get? p = none ∧ t.store p content = t.create p content File.usualMode := by
  rcases (target_eq_ok h).2 with ⟨n, hn⟩ | ⟨d, hd⟩ | hnone
  · exact .inl ⟨n, hn, by rw [store, hn]⟩
  · exact .inr (.inl ⟨d, hd, by rw [store, hd]⟩)
  · exact .inr (.inr ⟨hnone, by rw [store, hnone]⟩)

theorem write_of_not_opened {t : Tree} {path : Text} {fault : Fault} (h : t.opened path = .error fault)
    (content : Bytes) : t.write path content = (.error fault, t) := by
  rw [write, h]

/-- A file that is opened takes all of a content, or no more than its first bytes. -/
theorem write_of_opened {t : Tree} {path : Text} {o : Opened} (h : t.opened path = .ok o) (content : Bytes) :
    t.write path content = (.ok (), t.store o.place content) ∨
      ∃ room fault, room < content.length ∧ t.write path content = (.error fault, t.store o.place (content.take room)) := by
  obtain ⟨p, _ | ⟨room, fault⟩⟩ := o
  · left
    rw [write, h]
  · by_cases hroom : content.length ≤ room
    · left
      rw [write, h]
      exact if_pos hroom
    · right
      refine ⟨room, fault, Nat.lt_of_not_le hroom, ?_⟩
      rw [write, h]
      exact if_neg hroom

/-! ### Removing -/

/-- What is found stands where the path leads, and a path to anything but a directory does not end in a slash. -/
theorem look_eq_ok {t : Tree} {path : Text} {last : Bool} {p : Place} {e : Entry}
    (h : t.look path last = .ok (p, e)) :
    t.locate path last = .ok p ∧ t.get? p = some e ∧
      ((∀ mode, e ≠ .directory mode) → endsInSlash path = false) := by
  rw [look] at h
  cases hlocate : t.locate path last with
  | error fault =>
    rw [hlocate] at h
    cases h
  | ok q =>
    rw [hlocate] at h
    simp only [bind, Except.bind] at h
    split at h
    · cases h
    · rename_i mode hmode
      cases h
      exact ⟨rfl, hmode, fun hdirectory => absurd rfl (hdirectory mode)⟩
    · rename_i entry _ hentry
      split at h
      · cases h
      · rename_i hslash
        cases h
        exact ⟨rfl, hentry, fun _ => Bool.eq_false_iff.2 hslash⟩

/-- What is no directory stands at a place that can be changed. -/
theorem names_ne_nil_of_get? {t : Tree} {p : Place} {e : Entry} (h : t.get? p = some e)
    (hdirectory : ∀ mode, e ≠ .directory mode) : p.names ≠ [] := by
  intro hnames
  rw [get?, if_pos hnames] at h
  cases h
  exact hdirectory _ rfl

/-- What is removed stands where the path leads if a last link is not followed, and is no directory. -/
theorem remove_eq_ok {t left : Tree} {path : Text} (h : t.remove path = .ok left) :
    ∃ p e, t.locate path false = .ok p ∧ endsInSlash path = false ∧ t.get? p = some e ∧
      (∀ mode, e ≠ .directory mode) ∧ left = t.erase p := by
  rw [remove] at h
  cases hlook : t.look path false with
  | error fault =>
    rw [hlook] at h
    cases h
  | ok found =>
    obtain ⟨p, e⟩ := found
    rw [hlook] at h
    obtain ⟨hp, he, hslash⟩ := look_eq_ok hlook
    have hdirectory : ∀ mode, e ≠ .directory mode := by
      rintro mode rfl
      cases h
    refine ⟨p, e, hp, hslash hdirectory, he, hdirectory, ?_⟩
    cases hlimit : t.limits.removing? p with
    | some fault => cases e <;> simp [bind, Except.bind, hlimit] at h
    | none =>
      cases e with
      | directory mode => cases h
      | file n | link target | device d =>
        simp only [bind, Except.bind, hlimit] at h
        cases h
        rfl

end Flowchart.Files.Tree
