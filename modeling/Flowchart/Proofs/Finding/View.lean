import Flowchart.Proofs.Finding.Rows

/-! What can be read off a report, and what a reporter is relied on for.

A reader of a report sees a `View`: a row of the source with its number, and which part of it
is marked. Of the library that draws reports one thing is assumed, as it is documented: it
takes the offsets of a label for counts of characters. A reporter `CountsCharacters` if what
it writes for a label on one row can be read, and shows the characters at these offsets.
Nothing is assumed of labels that go on in another row.

The offsets of a finding count bytes. So its report shows the characters at the numbers of
its bytes, and `view_eq_iff` says when these are the characters of its line. -/
namespace Flowchart

open Text

/-- What can be read off a report: the number of a row and the column where the marks start, the row as it is quoted
and which characters of it are highlighted, and how many cells are underlined. -/
structure View where
  row : Nat
  column : Nat
  quoted : List (Char × Bool)
  underlined : Nat
deriving DecidableEq, Repr

namespace Report

/-- The cells of so many columns of a row. -/
def spanned (row : Text) (start : Nat) : Nat → Nat
  | 0 => 0
  | n + 1 => spanned row start n + cells row (start + n)

/-- Every column behind a row takes one cell. -/
theorem spanned_add {row : Text} {start n : Nat} (hrow : row.length ≤ start + n) (more : Nat) :
    spanned row start (n + more) = spanned row start n + more := by
  induction more with
  | zero => rfl
  | succ more ih =>
    have hcells : cells row (start + (n + more)) = 1 := by
      rw [cells, List.getElem?_eq_none (by omega)]
    rw [← Nat.add_assoc, spanned, ih, hcells, Nat.add_assoc]

end Report

namespace Stretch

variable {source : Text}

/-- What is quoted of the row of a stretch: blanks at its end are not. -/
def shown (s : Stretch source) : Text := trimEnd s.row.text

/-- The columns that a stretch takes. -/
def mark (s : Stretch source) : Report.Mark := ⟨s.left.length, s.left.length + s.text.length⟩

/-- What shows a stretch, and nothing but the stretch. -/
def view (s : Stretch source) : View where
  row := s.row.number
  column := s.left.length + 1
  quoted := Report.seen s.shown s.mark
  underlined := Report.spanned s.shown s.left.length s.text.length

end Stretch

/-- A reporter takes the offsets of a note for counts of characters, as far as its reports can be read: for a label on
one row of a source it writes a report that shows the characters at these offsets. -/
def Reporter.CountsCharacters (reporter : Reporter) (read : Note → Text → View) : Prop :=
  ∀ {source : Text} (label : Stretch source) (note : Note),
    note.offset = label.characters.start → note.label = label.characters →
      ∃ written, reporter note source = some written ∧ read note written = label.view

/-! ### Bytes and characters -/

theorem Text.length_le_byteSize (t : Text) : t.length ≤ byteSize t := by
  induction t with
  | nil => exact Nat.le_refl 0
  | cons c t ih =>
    have hpos := Char.utf8Size_pos c
    rw [List.length_cons, byteSize_cons]
    omega

theorem Text.byteSize_eq_length_iff {t : Text} : byteSize t = t.length ↔ ∀ c ∈ t, c.utf8Size = 1 := by
  induction t with
  | nil => simp
  | cons c t ih =>
    have hpos := Char.utf8Size_pos c
    have hle := length_le_byteSize t
    rw [List.forall_mem_cons, ← ih, byteSize_cons, List.length_cons]
    omega

namespace Stretch

variable {source : Text} {s u : Stretch source}

/-- Stretches of the same characters have the same view. -/
theorem view_eq_of_characters_eq (h : s.characters = u.characters) : s.view = u.view := by
  have hrow := row_eq_of_start_eq (congrArg Span.start h)
  have hstart := s.characters_start.symm.trans ((congrArg Span.start h).trans u.characters_start)
  have hleft : s.left.length = u.left.length := by
    rw [hrow] at hstart
    exact Nat.add_left_cancel hstart
  have hstop : s.before.length + s.text.length = u.before.length + u.text.length := congrArg Span.stop h
  have htext : s.text.length = u.text.length := by
    have hbefore : s.before.length = u.before.length := congrArg Span.start h
    omega
  simp only [view, shown, mark, hrow, hleft, htext]

/-- The row as it is quoted ends with the stretch if only blanks follow it. -/
theorem shown_eq (hblank : isAllBlank s.text = false) (hright : ∀ c ∈ s.right, isBlank c = true) :
    s.shown = s.left ++ trimEnd s.text := by
  rw [shown, row, trimEnd_append_of_blank _ hright, trimEnd_append_of_not_blank _ hblank]

/-- The characters at the numbers of a stretch's bytes are seen as the stretch is exactly if every character up to
its end is one byte. -/
theorem view_eq_iff {label : Stretch source} (hlabel : label.characters = s.bytes) (hblank : isAllBlank s.text = false)
    (hright : ∀ c ∈ s.right, isBlank c = true) :
    label.view = s.view ↔ ∀ c ∈ s.before ++ s.text, c.utf8Size = 1 := by
  rw [List.forall_mem_append, ← byteSize_eq_length_iff, ← byteSize_eq_length_iff]
  constructor
  · intro h
    have hrow := row_eq_of_number_eq (congrArg View.row h)
    have hleft : label.left.length = s.left.length := Nat.succ.inj (congrArg View.column h)
    have hstart : label.characters.start = s.characters.start := by
      rw [characters_start, characters_start, hrow, hleft]
    have hbefore : byteSize s.before = s.before.length := (congrArg Span.start hlabel).symm.trans hstart
    have hstop : label.before.length + label.text.length = byteSize s.before + byteSize s.text :=
      congrArg Span.stop hlabel
    have htext : label.text.length = byteSize s.text := by
      have : label.before.length = s.before.length := hstart
      omega
    refine ⟨hbefore, Nat.le_antisymm (Nat.not_lt.1 fun hlonger => ?_) (length_le_byteSize _)⟩
    -- Longer marks on the same row go on behind what is quoted of it, where every column is underlined.
    obtain ⟨more, hmore⟩ := Nat.exists_eq_add_of_lt hlonger
    have hend : s.shown.length ≤ s.left.length + s.text.length := by
      rw [shown_eq hblank hright, List.length_append]
      exact Nat.add_le_add_left (trimEnd_starts s.text).length_le _
    have hunderlined : Report.spanned s.shown s.left.length label.text.length =
        Report.spanned s.shown s.left.length s.text.length := by
      simpa only [view, shown, hrow, hleft] using congrArg View.underlined h
    rw [htext, hmore, Nat.add_assoc, Report.spanned_add hend] at hunderlined
    omega
  · rintro ⟨hbefore, htext⟩
    refine view_eq_of_characters_eq (hlabel.trans ?_)
    rw [bytes, characters, hbefore, htext]

end Stretch

end Flowchart
