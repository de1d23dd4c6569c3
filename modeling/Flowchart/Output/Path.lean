import Flowchart.Text.Basic

/-!
File paths as texts, and the paths that a save derives from its destination.

The name of a path is its last component. Slashes at its end, alone or before a dot, do not count, and the
components `.` and `..` are no names. The stem of a name is what stands before its last dot, unless that
dot comes first. `withExtension` puts a new extension behind the stem; the *base* of a destination is its
path without extension, and what is saved goes to the base with a suffix.
-/

namespace Flowchart.Path

open Text

/-- Takes slashes, and dots that stand alone behind a slash, off the start of a reversed path. -/
def dropTrailing : Text → Text
  | '/' :: rest => dropTrailing rest
  | '.' :: '/' :: rest => dropTrailing rest
  | rest => rest

/-- A path that ends in a name: what stands before the name, the name, and what stands behind it. -/
structure Parts where
  directory : Text
  name : Text
  trailing : Text
deriving DecidableEq, Repr

/-- Takes a path apart; `none` if it does not end in a name. -/
def parts? (path : Text) : Option Parts :=
  let kept := dropTrailing path.reverse
  let name := (kept.takeWhile (· ≠ '/')).reverse
  if name = [] ∨ name = ['.'] ∨ name = ['.', '.'] then none
  else some ⟨(kept.dropWhile (· ≠ '/')).reverse, name, path.drop kept.length⟩

/-- The name of a path, empty if it has none. -/
def name (path : Text) : Text := ((parts? path).map Parts.name).getD []

/-- A name without its last dot and what follows it, unless that dot comes first. -/
def stem (name : Text) : Text :=
  match name.reverse.dropWhile (· ≠ '.') with
  | [] => name
  | _ :: before => if before = [] then name else before.reverse

/-- Puts an extension behind the stem of a path, in place of the extension it has; an empty extension
leaves the stem bare. A path without a name stays as it is. Where nothing but dots would be left of the
name before its own extension, both dots stay and nothing is put behind them. -/
def withExtension (extension path : Text) : Text :=
  match parts? path with
  | none => path
  | some p =>
    if stem p.name = ['.'] ∧ p.trailing = [] then p.directory ++ ['.', '.']
    else p.directory ++ stem p.name ++ (if extension = [] then [] else '.' :: extension)

def base (destination : Text) : Text := withExtension [] destination

/-- Puts a suffix behind a path, whatever dots it has. -/
def withSuffix (path extension : Text) : Text := path ++ '.' :: extension

/-- Where the DOT document for an image is written. -/
def dotSource (image : Text) : Text := withExtension "gv".toList image

theorem dropTrailing_suffix (r : Text) : ∃ dropped, r = dropped ++ dropTrailing r := by
  fun_induction dropTrailing r with
  | case1 rest ih =>
    obtain ⟨d, hd⟩ := ih
    exact ⟨'/' :: d, congrArg ('/' :: ·) hd⟩
  | case2 rest ih =>
    obtain ⟨d, hd⟩ := ih
    exact ⟨'.' :: '/' :: d, congrArg ('.' :: '/' :: ·) hd⟩
  | case3 rest => exact ⟨[], rfl⟩

/-- The parts of a path make the path. -/
theorem parts?_append {path : Text} {p : Parts} (h : parts? path = some p) :
    path = p.directory ++ p.name ++ p.trailing := by
  unfold parts? at h
  obtain ⟨d, hd⟩ := dropTrailing_suffix path.reverse
  generalize dropTrailing path.reverse = kept at h hd
  obtain rfl : path = kept.reverse ++ d.reverse := by
    rw [← List.reverse_append, ← hd, List.reverse_reverse]
  simp only at h
  split at h
  · cases h
  · cases h
    have hkept : (kept.dropWhile (· ≠ '/')).reverse ++ (kept.takeWhile (· ≠ '/')).reverse = kept.reverse := by
      rw [← List.reverse_append, List.takeWhile_append_dropWhile]
    simp only [hkept]
    rw [← List.length_reverse, List.drop_left]

end Flowchart.Path
