import Flowchart.Proofs.Files.Access

/-! Ways that are still there in another tree.

A tree that has every directory and every link of another one has its ways too
(`Within`): they lead where they led, as long as no link has come to stand at their end.
This serves both directions of an operation. What has been written can be found on the
way that it was written on, and a way to a file that was kept is no new way. -/
namespace Flowchart.Files

/-- A way leads on from a directory and along a link. -/
def Entry.leadsOn : Entry → Bool
  | .directory _ | .link _ => true
  | .file _ | .device _ => false

namespace Tree

/-- Every directory and every link of a tree stands in another tree too. -/
structure Within (t left : Tree) : Prop where
  spread : left.spread = t.spread
  ways : ∀ p e, e.leadsOn = true → t.get? p = some e → left.get? p = some e

namespace Within
variable {t left : Tree} {last : Bool} {here p : Place}

theorem nameSize (h : t.Within left) (name : Text) : left.nameSize name = t.nameSize name := by
  rw [Tree.nameSize, Tree.nameSize, h.spread]

/-- A step that can be taken can be taken in the other tree. -/
theorem step (h : t.Within left) {next : Place} {name : Text} (hnext : t.step here name = .ok next) :
    left.step here name = .ok next := by
  obtain ⟨mode, hmode⟩ := exists_directory_of_step hnext
  rw [Tree.step, hmode] at hnext
  rw [Tree.step, h.ways here _ rfl hmode, h.nameSize]
  exact hnext

/-- A walk ends in the other tree where it ended, unless a link stands there now. -/
theorem walk (h : t.Within left) {names : List Text} {w : Walk} (hw : t.walk last here names = .ok w)
    (hend : ∀ p target, w = .arrived p → left.get? p = some (.link target) → t.get? p = some (.link target)) :
    left.walk last here names = .ok w := by
  induction names generalizing here with
  | nil => exact hw
  | cons name rest ih =>
    obtain ⟨next, hstep⟩ := exists_step_of_walk hw
    by_cases hlink : ∃ target, t.get? next = some (.link target)
    · obtain ⟨target, hlink⟩ := hlink
      rw [walk_of_link hstep hlink] at hw
      rw [walk_of_link (h.step hstep) (h.ways next _ rfl hlink)]
      exact hw
    · rw [walk_of_not_link hstep fun target htarget => hlink ⟨target, htarget⟩] at hw
      -- No link stands there now either: the way ends there, or it leads on from a directory.
      have hnow : ∀ target, left.get? next ≠ some (.link target) := by
        intro target htarget
        cases rest with
        | nil =>
          cases hw
          exact hlink ⟨target, hend next target rfl htarget⟩
        | cons name' rest =>
          obtain ⟨after, hafter⟩ := exists_step_of_walk hw
          obtain ⟨mode, hmode⟩ := exists_directory_of_step hafter
          rw [h.ways next _ rfl hmode] at htarget
          cases htarget
      rw [walk_of_not_link (h.step hstep) hnow]
      exact ih hw

theorem follow (h : t.Within left) {links : Nat} {names : List Text}
    (hend : ∀ target, left.get? p = some (.link target) → t.get? p = some (.link target))
    (hp : t.follow last links here names = .ok p) : left.follow last links here names = .ok p := by
  induction links generalizing here names with
  | zero => cases hp
  | succ links ih =>
    rw [follow_eq_ok_iff] at hp ⊢
    rcases hp with hwalk | ⟨directory, target, rest, hwalk, htarget, hfollow⟩
    · refine .inl (h.walk hwalk fun q target hq hlink => ?_)
      cases hq
      exact hend target hlink
    · exact .inr ⟨directory, target, rest, h.walk hwalk nofun, htarget, ih hfollow⟩

/-- A path leads to the place that it led to, unless a link stands there now. -/
theorem locate (h : t.Within left) {path : Text}
    (hend : ∀ target, left.get? p = some (.link target) → t.get? p = some (.link target))
    (hp : t.locate path last = .ok p) : left.locate path last = .ok p := by
  rw [locate_eq_ok_iff] at hp ⊢
  obtain ⟨hnull, hempty, hlong, hfollow⟩ := hp
  rw [h.nameSize]
  exact ⟨hnull, hempty, hlong, h.follow hend hfollow⟩

end Within

end Tree

end Flowchart.Files
