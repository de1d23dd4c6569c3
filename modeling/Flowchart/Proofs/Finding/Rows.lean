import Flowchart.Finding.Drawing
import Flowchart.Proofs.Finding.Lines

/-! Rows of a source text, and the row on which a line stands.

Cutting a text into rows loses nothing (`rows_flatten`), and a part of the text that no row
ends in lies in one row (`exists_row`). The row that `rowAt` finds for an offset within it
is this one, with the characters before it for its start (`rowAt_append`).

A `Stretch` is a part of one row with the row and its neighbours. It is told by its characters
or by its bytes, and the line of a finding is a stretch with blanks behind it only
(`Stretch.exists_of_mem_findings`). -/
namespace Flowchart

open Text

namespace Report

/-! ### Cutting -/

theorem isBlank_of_endsRow {c : Char} (h : endsRow c = true) : isBlank c = true := by
  simp only [endsRow, Bool.or_eq_true, beq_iff_eq] at h
  rcases h with (((((rfl | rfl) | rfl) | rfl) | rfl) | rfl) | rfl <;> decide

theorem rows_flatten (t : Text) : (rows t).flatten = t := by
  fun_induction rows t <;> simp_all

/-- Rows with a text before the first of them. -/
def extend (t : Text) : List Text → List Text
  | [] => [t]
  | row :: more => (t ++ row) :: more

theorem extend_extend (s t : Text) (rs : List Text) : extend s (extend t rs) = extend (s ++ t) rs := by
  cases rs <;> simp [extend]

theorem rows_cons {c : Char} (h : endsRow c = false) (t : Text) : rows (c :: t) = extend [c] (rows t) := by
  have hreturn : ∀ rest, c = '\r' → t = '\n' :: rest → False := by
    rintro rest rfl -
    exact absurd h (by decide)
  rw [rows, if_neg (by rw [h]; decide)]
  · cases rows t <;> rfl
  · exact hreturn

/-- A text that no row ends in belongs to the row of what follows it. -/
theorem rows_append {t : Text} (hne : t ≠ []) (h : ∀ c ∈ t, endsRow c = false) (after : Text) :
    rows (t ++ after) = extend t (rows after) := by
  induction t with
  | nil => exact absurd rfl hne
  | cons c t ih =>
    obtain ⟨hc, ht⟩ := List.forall_mem_cons.1 h
    rw [List.cons_append, rows_cons hc]
    by_cases hempty : t = []
    · rw [hempty, List.nil_append]
    · rw [ih hempty ht, extend_extend]
      rfl

/-- A row ends before a character that ends none, or goes on with it. -/
theorem exists_rows_append (before : Text) {c : Char} (h : endsRow c = false) (rest : Text) :
    ∃ above left, before = above.flatten ++ left ∧
      rows (before ++ c :: rest) = above ++ extend left (rows (c :: rest)) := by
  induction before using rows.induct with
  | case1 => exact ⟨[], [], rfl, by rw [rows_cons h, extend_extend]; exact rows_cons h rest⟩
  | case2 before ih =>
    obtain ⟨above, left, hbefore, hrows⟩ := ih
    exact ⟨['\r', '\n'] :: above, left, by simp [hbefore], by simp [rows, hrows]⟩
  | case3 d before hfeed hends ih =>
    obtain ⟨above, left, hbefore, hrows⟩ := ih
    refine ⟨[d] :: above, left, by simp [hbefore], ?_⟩
    rw [List.cons_append, rows, if_pos hends, hrows]
    · rfl
    · -- What follows a carriage return is no line feed here either.
      intro more hd hmore
      cases before with
      | nil =>
        obtain ⟨rfl, -⟩ := List.cons.inj hmore
        exact absurd h (by decide)
      | cons e before =>
        obtain ⟨rfl, -⟩ := List.cons.inj hmore
        exact hfeed before hd rfl
  | case4 d before _ hends _ ih | case5 d before _ hends _ _ _ ih =>
    obtain ⟨above, left, hbefore, hrows⟩ := ih
    rw [List.cons_append, rows_cons (by simpa using hends), hrows]
    cases above with
    | nil => exact ⟨[], d :: left, by simp [hbefore], extend_extend [d] left _⟩
    | cons row above => exact ⟨(d :: row) :: above, left, by simp [hbefore], rfl⟩

/-- The first row of a text is blank if what stands before its end is. -/
theorem blank_of_rows_eq_cons {t row : Text} {more : List Text} (hrows : rows t = row :: more)
    (hblank : ∀ c ∈ t.takeWhile (!endsRow ·), isBlank c = true) : ∀ c ∈ row, isBlank c = true := by
  induction t using rows.induct generalizing row more with
  | case1 => cases hrows
  | case2 rest ih =>
    rw [rows] at hrows
    obtain ⟨rfl, -⟩ := List.cons.inj hrows
    exact List.forall_mem_cons.2 ⟨by decide, List.forall_mem_singleton.2 (by decide)⟩
  | case3 c rest hfeed hends ih =>
    rw [rows, if_pos hends] at hrows
    · obtain ⟨rfl, -⟩ := List.cons.inj hrows
      exact List.forall_mem_singleton.2 (isBlank_of_endsRow hends)
    · exact hfeed
  | case4 c rest _ hends hrest ih =>
    rw [Bool.not_eq_true] at hends
    rw [rows_cons hends, hrest] at hrows
    obtain ⟨rfl, -⟩ := List.cons.inj hrows
    exact List.forall_mem_singleton.2 (hblank c (by simp [hends]))
  | case5 c rest _ hends first others hrest ih =>
    rw [Bool.not_eq_true] at hends
    rw [rows_cons hends, hrest] at hrows
    obtain ⟨rfl, -⟩ := List.cons.inj hrows
    rw [List.takeWhile_cons_of_pos (by simp [hends])] at hblank
    obtain ⟨hc, hmore⟩ := List.forall_mem_cons.1 hblank
    exact List.forall_mem_cons.2 ⟨hc, ih hrest hmore⟩

/-- A text that no row ends in lies in one row. Blanks stand behind it in the row if blanks stand there up to
the end of the row. -/
theorem exists_row (before : Text) {t after : Text} (hne : t ≠ []) (h : ∀ c ∈ t, endsRow c = false)
    (hafter : ∀ c ∈ after.takeWhile (!endsRow ·), isBlank c = true) :
    ∃ above left right below, rows (before ++ t ++ after) = above ++ (left ++ t ++ right) :: below ∧
      before = above.flatten ++ left ∧ ∀ c ∈ right, isBlank c = true := by
  obtain ⟨c, t, rfl⟩ := List.exists_cons_of_ne_nil hne
  obtain ⟨above, left, hbefore, hrows⟩ := exists_rows_append before (h c List.mem_cons_self) (t ++ after)
  rw [← List.cons_append, rows_append hne h, extend_extend, ← List.append_assoc] at hrows
  cases hrest : rows after with
  | nil => exact ⟨above, left, [], [], by rw [hrows, hrest, List.append_nil]; rfl, hbefore, by simp⟩
  | cons right below =>
    exact ⟨above, left, right, below, by rw [hrows, hrest]; rfl, hbefore, blank_of_rows_eq_cons hrest hafter⟩

/-! ### Finding a row -/

theorem rowAt_append (number start : Nat) {offset : Nat} (above : List Text) {row : Text} (below : List Text)
    (hlow : start + above.flatten.length ≤ offset) (hhigh : offset < start + above.flatten.length + row.length) :
    rowAt number start offset (above ++ row :: below) =
      ⟨number + above.length, start + above.flatten.length, row⟩ := by
  induction above generalizing number start with
  | nil => exact if_pos (.inr hhigh)
  | cons first above ih =>
    rw [List.flatten_cons, List.length_append, ← Nat.add_assoc] at hlow hhigh ⊢
    have hlater : ¬ (above ++ row :: below = [] ∨ offset < start + first.length) := by
      simp only [List.append_eq_nil_iff, List.cons_ne_nil, and_false, false_or]
      omega
    rw [List.cons_append, rowAt, if_neg hlater, ih _ _ hlow hhigh, List.length_cons, Nat.add_right_comm, Nat.add_assoc]

end Report

/-! ### Stretches -/

/-- A part of one row of a source text, with the rows above and below and what stands beside it on its own. -/
structure Stretch (source : Text) where
  above : List Text
  left : Text
  text : Text
  right : Text
  below : List Text
  rows_eq : Report.rows source = above ++ (left ++ text ++ right) :: below
  text_ne_nil : text ≠ []

namespace Stretch

variable {source : Text}

/-- The text before a stretch. -/
def before (s : Stretch source) : Text := s.above.flatten ++ s.left

/-- The row of a stretch. -/
def row (s : Stretch source) : Report.Row :=
  ⟨1 + s.above.length, s.above.flatten.length, s.left ++ s.text ++ s.right⟩

/-- Where a stretch is by characters. -/
def characters (s : Stretch source) : Span := ⟨s.before.length, s.before.length + s.text.length⟩

/-- Where a stretch is by bytes. -/
def bytes (s : Stretch source) : Span := ⟨byteSize s.before, byteSize s.before + byteSize s.text⟩

theorem source_eq (s : Stretch source) : source = s.before ++ s.text ++ (s.right ++ s.below.flatten) := by
  have hrows : (Report.rows source).flatten = s.before ++ s.text ++ (s.right ++ s.below.flatten) := by
    rw [s.rows_eq]
    simp [before]
  rwa [Report.rows_flatten] at hrows

theorem mem_source (s : Stretch source) {c : Char} (h : c ∈ s.before ++ s.text) : c ∈ source := by
  rw [s.source_eq]
  exact List.mem_append_left _ h

theorem characters_start (s : Stretch source) : s.characters.start = s.row.start + s.left.length := List.length_append

/-- Every character of a stretch leads to its row. -/
theorem rowAt_of_mem (s : Stretch source) {offset : Nat} (hlow : s.characters.start ≤ offset)
    (hhigh : offset < s.characters.stop) : Report.rowAt 1 0 offset (Report.rows source) = s.row := by
  have hstart : s.characters.start = s.above.flatten.length + s.left.length := s.characters_start
  have hstop : s.characters.stop = s.characters.start + s.text.length := rfl
  rw [s.rows_eq, Report.rowAt_append]
  · rw [Nat.zero_add]
    rfl
  · omega
  · simp only [List.length_append]
    omega

theorem characters_start_lt (s : Stretch source) : s.characters.start < s.characters.stop :=
  Nat.lt_add_of_pos_right (List.length_pos_iff.2 s.text_ne_nil)

theorem rowAt_start (s : Stretch source) : Report.rowAt 1 0 s.characters.start (Report.rows source) = s.row :=
  s.rowAt_of_mem (Nat.le_refl _) s.characters_start_lt

theorem rowAt_last (s : Stretch source) : Report.rowAt 1 0 (s.characters.stop - 1) (Report.rows source) = s.row :=
  s.rowAt_of_mem (Nat.le_sub_one_of_lt s.characters_start_lt) (Nat.sub_one_lt_of_lt s.characters_start_lt)

/-- Stretches that start at the same character are on the same row. -/
theorem row_eq_of_start_eq {s u : Stretch source} (h : s.characters.start = u.characters.start) : s.row = u.row := by
  rw [← s.rowAt_start, ← u.rowAt_start, h]

/-- There is one row of each number. -/
theorem row_eq_of_number_eq {s u : Stretch source} (h : s.row.number = u.row.number) : s.row = u.row := by
  have habove : s.above.length = u.above.length := Nat.add_left_cancel h
  obtain ⟨hlists, hrest⟩ := List.append_inj (s.rows_eq.symm.trans u.rows_eq) habove
  rw [row, row, hlists, (List.cons.inj hrest).1]

/-- The line of a finding is a stretch with nothing but blanks behind it on its row, unless a row ends in it. -/
theorem exists_of_mem_findings {f : Finding} (hf : f ∈ findings source)
    (hline : ∀ c ∈ f.line.text, Report.endsRow c = false) :
    ∃ s : Stretch source, s.text = f.line.text ∧ s.bytes = f.line.span ∧ ∀ c ∈ s.right, isBlank c = true := by
  obtain ⟨hmem, hne⟩ := (Finding.findings_along source).line_mem f hf
  rw [Source.sections_eq_ofLines] at hmem
  obtain ⟨before, after, hsource, hstart, hafter⟩ :=
    Source.bodyLines_stand ((Source.ofLines_sublist _).subset hmem)
  have hblank : ∀ c ∈ after.takeWhile (!Report.endsRow ·), isBlank c = true := by
    rcases hafter with hafter | hafter | hafter
    · exact fun c hc => hafter c ((List.takeWhile_sublist _).subset hc)
    all_goals
      obtain ⟨rest, rfl⟩ := List.head?_eq_some_iff.1 hafter
      exact fun c hc => absurd hc List.not_mem_nil
  obtain ⟨above, left, right, below, hrows, hbefore, hright⟩ := Report.exists_row before hne hline hblank
  refine ⟨⟨above, left, f.line.text, right, below, hsource ▸ hrows, hne⟩, rfl, ?_, hright⟩
  rw [bytes, Stretch.before, ← hbefore, hstart]
  rfl

end Stretch

end Flowchart
