import Flowchart.Proofs.Finding.View

/-! What the drawings of notes show.

A drawing is read from its start: the row and the column behind the name of the file, then the
quoted characters by their colours, then the line below them. `read_drawing` says that this
gives back what was drawn, and `draw_countsCharacters` that a label on one row is drawn at its
characters. -/
namespace Flowchart.Report

open Text

/-! ### Reading -/

/-- Reads a number at the start of a text, and gives what stands behind it. -/
def readNumber (t : Text) : Nat × Text := (Nat.ofDigitChars 10 (t.takeWhile Char.isDigit) 0, t.dropWhile Char.isDigit)

/-- Reads coloured characters at the start of a text, and gives what stands behind them. -/
def readCells : Text → List (Char × Bool) × Text
  | _ :: _ :: '3' :: '3' :: _ :: c :: _ :: _ :: _ :: _ :: rest =>
    let (cs, rest) := readCells rest
    ((c, true) :: cs, rest)
  | _ :: _ :: '3' :: '8' :: _ :: _ :: _ :: _ :: _ :: _ :: _ :: c :: _ :: _ :: _ :: _ :: rest =>
    let (cs, rest) := readCells rest
    ((c, false) :: cs, rest)
  | rest => ([], rest)

/-- Reads the drawing of a note. -/
def read (note : Note) (written : Text) : View :=
  let t := (written.drop (heading note).length).dropWhile (· == ' ')
  let (row, t) := readNumber (t.drop (corner note.filename).length)
  let (column, t) := readNumber (t.drop 1)
  let width := digits row
  let (quoted, t) := readCells (t.drop (gap width ++ label width row).length)
  -- Every underlined cell is coloured and has a code before it and one behind it.
  let below := (t.drop ((side width '│').length + 1)).takeWhile (· != '\n')
  { row, column, quoted, underlined := below.count '\x1b' / 2 }

theorem readNumber_decimal (n : Nat) {c : Char} (hc : c.isDigit = false) (rest : Text) :
    readNumber (decimal n ++ c :: rest) = (n, c :: rest) := by
  have hdigits : ∀ d ∈ decimal n, d.isDigit = true := fun d hd => Nat.isDigit_of_mem_toDigits (by decide) (by decide) hd
  have htake : (decimal n ++ c :: rest).takeWhile Char.isDigit = decimal n := by
    rw [List.takeWhile_append_of_pos hdigits, List.takeWhile_cons_of_neg (by simp [hc]), List.append_nil]
  have hdrop : (decimal n ++ c :: rest).dropWhile Char.isDigit = c :: rest := by
    rw [List.dropWhile_append_of_pos hdigits, List.dropWhile_cons_of_neg (by simp [hc])]
  rw [readNumber, htake, hdrop, decimal, Nat.ofDigitChars_ten_toDigits]

theorem readCells_coloured (cs : List (Char × Bool)) {rest : Text} (h : readCells rest = ([], rest)) :
    readCells (coloured cs ++ rest) = (cs, rest) := by
  induction cs with
  | nil => exact h
  | cons cell cs ih =>
    obtain ⟨c, _ | _⟩ := cell
    · show readCells (quoted [c] ++ coloured cs ++ rest) = _
      rw [List.append_assoc]
      show (let (cs, rest) := readCells (coloured cs ++ rest); ((c, false) :: cs, rest)) = _
      rw [ih]
    · show readCells (marked [c] ++ coloured cs ++ rest) = _
      rw [List.append_assoc]
      show (let (cs, rest) := readCells (coloured cs ++ rest); ((c, true) :: cs, rest)) = _
      rw [ih]

/-! ### The line below the marks -/

theorem count_repeated (c : Char) (n : Nat) (cell : Text) : (repeated n cell).count c = n * cell.count c := by
  induction n with
  | zero => simp [repeated]
  | succ n ih =>
    rw [repeated, List.replicate_succ, List.flatten_cons, List.count_append, ← repeated, ih, Nat.succ_mul, Nat.add_comm]

theorem mem_repeated {c : Char} {n : Nat} {cell : Text} (h : c ∈ repeated n cell) : c ∈ cell := by
  obtain ⟨t, ht, hc⟩ := List.mem_flatten.1 h
  rwa [List.eq_of_mem_replicate ht] at hc

theorem count_ruled {sign : Char} (hsign : sign ≠ '\x1b') (n : Nat) : (ruled sign n).count '\x1b' = 2 * n := by
  have hmarked {c : Char} (hc : c ≠ '\x1b') : (marked [c]).count '\x1b' = 2 := by
    simp [marked, paint, hc]
  rw [ruled]
  split
  · simp [*]
  · rw [List.count_append, count_repeated, hmarked hsign, hmarked (by decide)]
    omega

/-- What stands below one column of a row. -/
def stroke (row : Text) (m : Mark) (col : Nat) : Text :=
  if col = m.middle then ruled '┬' (cells row col)
  else if m.holds col then repeated (cells row col) (marked ['─'])
  else repeated (cells row col) [' ']

theorem underline_eq (row : Text) (m : Mark) : underline row m = (List.range (m.stop + 2)).flatMap (stroke row m) := rfl

theorem count_stroke (row : Text) {m : Mark} (hm : m.start < m.stop) (col : Nat) :
    (stroke row m col).count '\x1b' = if m.holds col then 2 * cells row col else 0 := by
  have hmiddle : m.holds m.middle = true := by
    rw [Mark.holds, Bool.and_eq_true, decide_eq_true_eq, decide_eq_true_eq, Mark.middle]
    omega
  rw [stroke]
  split
  · rename_i hcol
    rw [hcol, hmiddle, if_pos rfl, count_ruled (by decide)]
  · split
    · rw [count_repeated, Nat.mul_comm]
      rfl
    · rw [count_repeated]
      rfl

/-- The line below the marked columns is coloured below them only. -/
theorem count_strokes (row : Text) {m : Mark} (hm : m.start < m.stop) (columns : Nat) :
    ((List.range columns).flatMap (stroke row m)).count '\x1b' =
      2 * spanned row m.start (min columns m.stop - m.start) := by
  induction columns with
  | zero => simp [spanned]
  | succ columns ih =>
    rw [List.range_succ, List.flatMap_append, List.count_append, ih, List.flatMap_singleton, count_stroke row hm]
    by_cases hcol : m.start ≤ columns ∧ columns < m.stop
    · have hlater : min (columns + 1) m.stop - m.start = min columns m.stop - m.start + 1 := by omega
      have hcolumn : m.start + (min columns m.stop - m.start) = columns := by omega
      have hholds : m.holds columns = true := by simp [Mark.holds, hcol]
      rw [hlater, spanned, hcolumn, hholds, if_pos rfl, Nat.mul_add]
    · have hlater : min (columns + 1) m.stop - m.start = min columns m.stop - m.start := by omega
      have hholds : m.holds columns = false := by simpa [Mark.holds] using hcol
      rw [hlater, hholds, if_neg Bool.false_ne_true, Nat.add_zero]

theorem count_underline (row : Text) {m : Mark} (hm : m.start < m.stop) :
    (underline row m).count '\x1b' = 2 * spanned row m.start (m.stop - m.start) := by
  rw [underline_eq, count_strokes row hm, Nat.min_eq_right (by omega)]

theorem feed_not_mem_underline (row : Text) (m : Mark) : '\n' ∉ underline row m := by
  have hmarked {c : Char} (hc : c ≠ '\n') : '\n' ∉ marked [c] := by
    simp [marked, paint, hc.symm]
  intro h
  obtain ⟨col, -, h⟩ := List.mem_flatMap.1 (underline_eq row m ▸ h)
  rw [stroke] at h
  split at h
  · rw [ruled] at h
    split at h
    · cases h
    · rcases List.mem_append.1 h with h | h
      · exact hmarked (by decide) h
      · exact hmarked (by decide) (mem_repeated h)
  · split at h
    · exact hmarked (by decide) (mem_repeated h)
    · exact absurd (mem_repeated h) (by decide)

/-! ### What is drawn -/

theorem dropWhile_indent (width : Nat) (filename rest : Text) :
    (indent width ++ (corner filename ++ rest)).dropWhile (· == ' ') = corner filename ++ rest := by
  have hspaces : ∀ c ∈ indent width, (c == ' ') = true := fun c hc => by simpa using mem_repeated hc
  rw [List.dropWhile_append_of_pos hspaces]
  rfl

/-- A drawing for a label on one row is read as what was drawn. -/
theorem read_drawing (note : Note) (row : Row) {m : Mark} (hm : m.start < m.stop) (rest : Text) :
    let width := digits row.number
    read note (heading note ++ place width note.filename row.number (m.start + 1) ++ excerpt width row m note.words ++
        rest) =
      { row := row.number
        column := m.start + 1
        quoted := seen (trimEnd row.text) m
        underlined := spanned (trimEnd row.text) m.start (m.stop - m.start) } := by
  intro width
  have hwidth : digits row.number = width := rfl
  obtain ⟨more, hmore⟩ : ∃ more, excerpt width row m note.words ++ rest =
      label width row.number ++ (coloured (seen (trimEnd row.text) m) ++
        ('\n' :: (side width '│' ++ (underline (trimEnd row.text) m ++ '\n' :: more)))) := by
    simp only [excerpt, List.append_assoc, List.cons_append]
    exact ⟨_, rfl⟩
  have hplace : heading note ++ place width note.filename row.number (m.start + 1) ++ excerpt width row m note.words ++
      rest =
      heading note ++ (indent width ++ (corner note.filename ++ (decimal row.number ++ ':' ::
        (decimal (m.start + 1) ++ (gap width ++ (excerpt width row m note.words ++ rest)))))) := by
    simp only [place, List.append_assoc, List.cons_append]
  have hgap (t : Text) : gap width ++ t = '\x1b' :: ((gap width).tail ++ t) := rfl
  have hcells : readCells (coloured (seen (trimEnd row.text) m) ++
      ('\n' :: (side width '│' ++ (underline (trimEnd row.text) m ++ '\n' :: more)))) =
      (seen (trimEnd row.text) m, '\n' :: (side width '│' ++ (underline (trimEnd row.text) m ++ '\n' :: more))) :=
    readCells_coloured _ rfl
  have hbelow : ((underline (trimEnd row.text) m ++ '\n' :: more).takeWhile (· != '\n')) = underline (trimEnd row.text) m := by
    rw [List.takeWhile_append_of_pos fun c hc => by simpa using ne_of_mem_of_not_mem hc (feed_not_mem_underline _ m)]
    simp
  rw [hplace, read]
  simp only [List.drop_left, dropWhile_indent, readNumber_decimal _ (show Char.isDigit ':' = false by decide),
    List.drop_succ_cons, List.drop_zero]
  rw [hgap]
  simp only [readNumber_decimal _ (show Char.isDigit '\x1b' = false by decide)]
  rw [← hgap, hmore, ← List.append_assoc (gap _), List.drop_left]
  simp only [hwidth, hcells, List.drop_succ_cons, List.drop_left, hbelow, count_underline _ hm]
  rw [Nat.mul_div_cancel_left _ (by decide)]

/-- A label on one row is drawn at the characters that its offsets count. -/
theorem draw_countsCharacters : Reporter.CountsCharacters draw read := by
  intro source s note hoffset hlabel
  have hpos := List.length_pos_iff.2 s.text_ne_nil
  have hlength := congrArg List.length s.source_eq
  simp only [List.length_append] at hlength
  have hstart := s.characters_start
  have hholds : s.row.holds s.characters = true := by
    rw [Row.holds, decide_eq_true_eq]
    simp only [Stretch.characters, Stretch.row, List.length_append] at hstart ⊢
    omega
  have hdrawn : ¬ (note.offset ≠ s.characters.start ∨ s.characters.stop ≤ s.characters.start) := by
    simp only [Stretch.characters] at hoffset ⊢
    omega
  have hinside : ¬ (source.length < s.characters.start ∨ source.length + 1 < s.characters.stop) := by
    simp only [Stretch.characters]
    omega
  have hmark : s.row.mark s.characters = s.mark := by
    simp only [Row.mark, Stretch.mark, Mark.mk.injEq]
    simp only [Stretch.characters] at hstart ⊢
    omega
  have hcolumn : s.characters.start - s.row.start = s.mark.start := congrArg Mark.start hmark
  refine ⟨heading note ++ place (digits s.row.number) note.filename s.row.number (s.mark.start + 1) ++
    excerpt (digits s.row.number) s.row s.mark note.words ++ base (digits s.row.number), ?_, ?_⟩
  · simp only [draw, quotation, hlabel, if_neg hdrawn, if_neg hinside, s.rowAt_start, s.rowAt_last, hholds, if_true,
      hcolumn, hmark]
  · rw [read_drawing _ _ (by simp only [Stretch.mark]; omega)]
    simp only [Stretch.view, Stretch.mark, Stretch.shown, Nat.add_sub_cancel_left]

end Flowchart.Report
