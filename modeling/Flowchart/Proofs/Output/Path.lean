import Flowchart.Output.Format
import Flowchart.Output.Path
import Flowchart.Proofs.Text.Run

/-! Paths cut at their last slash.

Any path is what stands up to its last slash (`front`) and what stands behind it (`tip`). If
the tip can be a name (`IsFileName`) it is the name of the path, whatever slashes stand
behind it (`parts?_of_isTrailing`), and a suffix goes to the tip (`parts?_withSuffix`). What
is left of a name without its extension is told by its dots alone (`IsStem`). The base of a
destination ends in a bare name, or it is the destination itself, which has none then
(`base_cases`); so its name is its tip unless the tip is one of the two components that
are no names (`name_base_eq_tip_iff`). -/
namespace Flowchart.Path

open Text

/-- A path up to its last slash. -/
def front (path : Text) : Text := (path.reverse.dropWhile (· ≠ '/')).reverse

/-- What stands behind the last slash of a path. -/
def tip (path : Text) : Text := (path.reverse.takeWhile (· ≠ '/')).reverse

/-- The directory of a path that ends in a name. -/
def directory? (path : Text) : Option Text := (parts? path).map Parts.directory

/-- A text that a path can end in before a name: nothing, or a text with a slash at its end. -/
def IsFront (t : Text) : Prop := Stops (· ≠ '/') t.reverse

/-- A text that can be the name of a path. -/
structure IsFileName (t : Text) : Prop where
  ne_nil : t ≠ []
  ne_dot : t ≠ ['.']
  ne_dots : t ≠ ['.', '.']
  noSlash : '/' ∉ t

/-- What may stand behind the name of a path without counting: slashes, each of them alone or before a dot. -/
inductive IsTrailing : Text → Prop where
  | nil : IsTrailing []
  | slash {t : Text} (more : IsTrailing t) : IsTrailing ('/' :: t)
  | dot {t : Text} (more : IsTrailing t) : IsTrailing ('/' :: '.' :: t)

/-- What is left of a name without its extension: what stands before its last dot, or all of it if it has no dot
behind its first character. -/
inductive IsStem : Text → Text → Prop where
  | cut {s extension : Text} (hne : s ≠ []) (hdot : '.' ∉ extension) : IsStem (s ++ '.' :: extension) s
  | whole {t : Text} (hdot : '.' ∉ t.tail) : IsStem t t

/-- A text that can stand behind a dot as an extension. -/
structure IsExtension (t : Text) : Prop where
  ne_nil : t ≠ []
  noSlash : '/' ∉ t
  noDot : '.' ∉ t

/-! ### The last slash -/

theorem front_append_tip (path : Text) : front path ++ tip path = path := by
  rw [front, tip, lead_append_last]

theorem isFront_front (path : Text) : IsFront (front path) := by
  rw [IsFront, front, List.reverse_reverse]
  exact stops_dropWhile _

theorem noSlash_tip (path : Text) : '/' ∉ tip path := not_mem_last path.reverse

section Cut
variable {d t : Text} (hd : IsFront d) (ht : '/' ∉ t)
include hd ht

theorem takeWhile_reverse_append : (d ++ t).reverse.takeWhile (· ≠ '/') = t.reverse := by
  rw [List.reverse_append]
  exact takeWhile_run (ne_of_mem_reverse ht) hd

theorem dropWhile_reverse_append : (d ++ t).reverse.dropWhile (· ≠ '/') = d.reverse := by
  rw [List.reverse_append]
  exact dropWhile_run (ne_of_mem_reverse ht) hd

theorem tip_append : tip (d ++ t) = t := by
  rw [tip, takeWhile_reverse_append hd ht, List.reverse_reverse]

end Cut

/-! ### Names -/

/-- Nothing is dropped from the end of a path that ends in a name. -/
theorem dropTrailing_of_isFileName {t : Text} (h : IsFileName t) (d : Text) :
    dropTrailing (d ++ t).reverse = (d ++ t).reverse := by
  have hslash : '/' ∉ t.reverse := fun hmem => h.noSlash (List.mem_reverse.1 hmem)
  have hdot : t.reverse ≠ ['.'] := fun hdot => h.ne_dot (by rw [← List.reverse_reverse t, hdot]; rfl)
  rw [List.reverse_append]
  obtain ⟨c, rest, hc⟩ := List.exists_cons_of_ne_nil (List.reverse_ne_nil_iff.2 h.ne_nil)
  rw [hc] at hslash hdot ⊢
  unfold dropTrailing
  split
  · simp_all
  · cases rest <;> simp_all
  · rfl

/-- What does not count is dropped from the end of a path. -/
theorem dropTrailing_of_isTrailing {trailing : Text} (h : IsTrailing trailing) (path : Text) :
    dropTrailing (path ++ trailing).reverse = dropTrailing path.reverse := by
  rw [List.reverse_append]
  -- Read backwards, the first slash of the trailing comes last, and the rest of the path is behind it.
  generalize path.reverse = backwards
  induction h generalizing backwards with
  | nil => rfl
  | slash more ih =>
    rw [List.reverse_cons, List.append_assoc, ih]
    rfl
  | dot more ih =>
    rw [List.reverse_cons, List.reverse_cons, List.append_assoc, List.append_assoc, ih]
    rfl

theorem parts?_of_isTrailing {d t trailing : Text} (hd : IsFront d) (h : IsFileName t) (htrailing : IsTrailing trailing) :
    parts? (d ++ t ++ trailing) = some ⟨d, t, trailing⟩ := by
  have hname := takeWhile_reverse_append hd h.noSlash
  have hdirectory := dropWhile_reverse_append hd h.noSlash
  unfold parts?
  simp only [dropTrailing_of_isTrailing htrailing, dropTrailing_of_isFileName h, hname, hdirectory,
    List.reverse_reverse]
  rw [if_neg (by simp [h.ne_nil, h.ne_dot, h.ne_dots]), List.length_reverse, List.drop_left]

theorem parts?_of_isFileName {d t : Text} (hd : IsFront d) (h : IsFileName t) :
    parts? (d ++ t) = some ⟨d, t, []⟩ := by
  have hparts := parts?_of_isTrailing hd h .nil
  rwa [List.append_nil] at hparts

theorem isFileName_of_parts? {path : Text} {p : Parts} (h : parts? path = some p) :
    IsFileName p.name ∧ IsFront p.directory := by
  unfold parts? at h
  simp only at h
  split at h
  · cases h
  · rename_i hname
    rw [not_or, not_or] at hname
    cases h
    refine ⟨⟨hname.1, hname.2.1, hname.2.2, not_mem_last _⟩, ?_⟩
    rw [IsFront, List.reverse_reverse]
    exact stops_dropWhile _

theorem name_of_parts? {path : Text} {p : Parts} (h : parts? path = some p) : name path = p.name := by
  rw [name, h]
  rfl

theorem name_of_parts?_none {path : Text} (h : parts? path = none) : name path = [] := by
  rw [name, h]
  rfl

/-- The components that are no names are the name of no path. -/
theorem name_ne_dots (path : Text) : name path ≠ ['.'] ∧ name path ≠ ['.', '.'] := by
  cases h : parts? path with
  | none =>
    rw [name_of_parts?_none h]
    exact ⟨by decide, by decide⟩
  | some p =>
    rw [name_of_parts? h]
    exact ⟨(isFileName_of_parts? h).1.ne_dot, (isFileName_of_parts? h).1.ne_dots⟩

/-! ### Suffixes -/

theorem isExtension_extension (format : OutputFormat) : IsExtension format.extension := by
  rcases format with (_ | _ | _) | _ <;> exact ⟨by decide, by decide, by decide⟩

/-- A suffix makes a name of whatever stands behind the last slash. -/
theorem isFileName_withSuffix {t extension : Text} (ht : '/' ∉ t) (h : IsExtension extension) :
    IsFileName (withSuffix t extension) := by
  obtain ⟨hne, hslash, hdot⟩ := h
  refine ⟨by simp [withSuffix], fun h => ?_, fun h => ?_, by simp [withSuffix, ht, hslash]⟩
  · cases t <;> simp_all [withSuffix]
  · match t with
    | [] => simp_all [withSuffix]
    | [c] => simp_all [withSuffix]
    | c :: c' :: t => simp_all [withSuffix]

theorem parts?_withSuffix {extension : Text} (path : Text) (h : IsExtension extension) :
    parts? (withSuffix path extension) = some ⟨front path, withSuffix (tip path) extension, []⟩ := by
  have hpath : withSuffix path extension = front path ++ withSuffix (tip path) extension := by
    rw [withSuffix, withSuffix, ← List.append_assoc, front_append_tip]
  rw [hpath]
  exact parts?_of_isFileName (isFront_front path) (isFileName_withSuffix (noSlash_tip path) h)

/-! ### Stems and bases -/

theorem mem_of_mem_stem {t : Text} {c : Char} (h : c ∈ stem t) : c ∈ t := by
  unfold stem at h
  split at h
  · exact h
  · rename_i d before hdrop
    split at h
    · exact h
    · have hmem : c ∈ t.reverse.dropWhile (· ≠ '.') := by
        rw [hdrop]
        exact List.mem_cons_of_mem d (List.mem_reverse.1 h)
      exact List.mem_reverse.1 ((List.dropWhile_sublist _).subset hmem)

theorem stem_ne_nil {t : Text} (h : t ≠ []) : stem t ≠ [] := by
  unfold stem
  split
  · exact h
  · split
    · exact h
    · rename_i hbefore
      exact List.reverse_ne_nil_iff.2 hbefore

theorem stem_eq_of_isStem {t s : Text} (h : IsStem t s) : stem t = s := by
  cases h with
  | @cut _ extension hne hdot =>
    have hstop : Stops (· ≠ '.') ('.' :: s.reverse) := stops_cons.2 (by decide)
    have hdrop : (s ++ '.' :: extension).reverse.dropWhile (· ≠ '.') = '.' :: s.reverse := by
      rw [List.reverse_append, List.reverse_cons, List.append_assoc]
      exact dropWhile_run (ne_of_mem_reverse hdot) hstop
    rw [stem, hdrop]
    simp [hne]
  | whole hdot =>
    cases t with
    | nil => rfl
    | cons c t =>
      rw [List.tail_cons] at hdot
      have hdrop : (c :: t).reverse.dropWhile (· ≠ '.') = [c].dropWhile (· ≠ '.') := by
        rw [List.reverse_cons, List.dropWhile_append_of_pos (ne_of_mem_reverse hdot)]
      rw [stem, hdrop]
      by_cases hc : c = '.' <;> simp [hc]

/-- The base of a destination ends in a text without a slash, or it is the destination, which has no name then. -/
theorem base_cases (destination : Text) :
    (parts? destination = none ∧ base destination = destination) ∨
      ∃ d t, base destination = d ++ t ∧ IsFront d ∧ t ≠ [] ∧ '/' ∉ t := by
  rw [base, withExtension]
  cases h : parts? destination with
  | none => exact .inl ⟨rfl, rfl⟩
  | some p =>
    obtain ⟨hname, hfront⟩ := isFileName_of_parts? h
    refine .inr ?_
    simp only
    split
    · exact ⟨p.directory, ['.', '.'], rfl, hfront, by decide, by decide⟩
    · refine ⟨p.directory, stem p.name, ?_, hfront, stem_ne_nil hname.ne_nil, fun hmem => ?_⟩
      · simp
      · exact hname.noSlash (mem_of_mem_stem hmem)

/-- The name of a base is what stands behind its last slash, unless that is no name. -/
theorem name_base_eq_tip_iff (destination : Text) :
    name (base destination) = tip (base destination) ↔
      tip (base destination) ≠ ['.'] ∧ tip (base destination) ≠ ['.', '.'] := by
  constructor
  · intro h
    rw [← h]
    exact name_ne_dots _
  · rintro ⟨hdot, hdots⟩
    by_cases hempty : tip (base destination) = []
    · rcases base_cases destination with ⟨hnone, hbase⟩ | ⟨d, t, hbase, hd, hne, ht⟩
      · rw [hempty, hbase]
        exact name_of_parts?_none hnone
      · rw [hbase, tip_append hd ht] at hempty
        exact absurd hempty hne
    · have hparts := parts?_of_isFileName (isFront_front (base destination))
        ⟨hempty, hdot, hdots, noSlash_tip (base destination)⟩
      rw [front_append_tip] at hparts
      exact name_of_parts? hparts

end Flowchart.Path
