import Flowchart.Proofs.Text.Run
import Flowchart.Source.Line

/-! Lines of a text and where they stand.

`splitAt` and `intercalate` undo each other on pieces that hold no separator
(`intercalate_splitAt`, `splitAt_intercalate`). `rows` gives such pieces the byte
offsets that they have in the joined text; it is the line-by-line reading that
`linesFrom` is compared with (`linesFrom_intercalate`). A row stands in the joined
text where its offset says, and between two rows there is one terminator
(`rows_stand`, `rows_adjacent`). -/
namespace Flowchart

/-- The line stands in a text where its offset says. -/
def Line.Sits (line : Line) (t : Text) : Prop :=
  ∃ before after, t = before ++ line.text ++ after ∧ Text.byteSize before = line.start

/-- One line stands in a text behind the other, with nothing but a terminator between them. -/
def Line.Adjacent (first second : Line) (t : Text) : Prop :=
  ∃ before gap after, t = before ++ first.text ++ gap ++ second.text ++ after ∧
    (gap = ['\n'] ∨ gap = ['\r', '\n']) ∧ Text.byteSize before = first.start ∧
    Text.byteSize (before ++ first.text ++ gap) = second.start

/-- The line that stands some bytes further on. -/
def Line.shift (n : Nat) (line : Line) : Line := { line with start := line.start + n }

namespace Text

/-! ### Cutting at line feeds -/

theorem splitAt_ne_nil (c : Char) (t : Text) : splitAt c t ≠ [] := by
  cases t with
  | nil => simp [splitAt]
  | cons d t =>
    rw [splitAt]
    split
    · simp
    · split <;> simp

theorem splitAt_of_not_mem {c : Char} {t : Text} (h : c ∉ t) : splitAt c t = [t] := by
  induction t with
  | nil => rfl
  | cons d t ih =>
    rw [List.mem_cons, not_or] at h
    rw [splitAt, if_neg (Ne.symm h.1), ih h.2]

theorem splitAt_append {c : Char} {t : Text} (h : c ∉ t) (rest : Text) :
    splitAt c (t ++ c :: rest) = t :: splitAt c rest := by
  induction t with
  | nil => rw [List.nil_append, splitAt, if_pos rfl]
  | cons d t ih =>
    rw [List.mem_cons, not_or] at h
    rw [List.cons_append, splitAt, if_neg (Ne.symm h.1), ih h.2]

theorem intercalate_splitAt (c : Char) (t : Text) : [c].intercalate (splitAt c t) = t := by
  induction t with
  | nil => rfl
  | cons d t ih =>
    rw [splitAt]
    split
    · rename_i hd
      rw [List.intercalate_cons_of_ne_nil (splitAt_ne_nil c t), ih, hd]
      rfl
    · split
      · rename_i hnil
        exact absurd hnil (splitAt_ne_nil c t)
      · rename_i piece more hcut
        rw [hcut] at ih
        cases more <;> simp_all

theorem not_mem_of_mem_splitAt {c : Char} {t piece : Text} (h : piece ∈ splitAt c t) : c ∉ piece := by
  induction t generalizing piece with
  | nil => simp_all [splitAt]
  | cons d t ih =>
    rw [splitAt] at h
    split at h
    · rcases List.mem_cons.1 h with rfl | h
      · exact List.not_mem_nil
      · exact ih h
    · rename_i hd
      split at h
      · rename_i hnil
        exact absurd hnil (splitAt_ne_nil c t)
      · rename_i first more hcut
        rcases List.mem_cons.1 h with rfl | h
        · rw [List.mem_cons, not_or]
          exact ⟨Ne.symm hd, ih (hcut ▸ List.mem_cons_self ..)⟩
        · exact ih (hcut ▸ List.mem_cons_of_mem _ h)

/-- Pieces without the character are found again once they are joined by it. -/
theorem splitAt_intercalate {c : Char} {ps : List Text} (hne : ps ≠ []) (hclean : ∀ p ∈ ps, c ∉ p) :
    splitAt c ([c].intercalate ps) = ps := by
  induction ps with
  | nil => exact absurd rfl hne
  | cons p more ih =>
    have hp := hclean p (List.mem_cons_self ..)
    cases more with
    | nil => rw [List.intercalate_singleton, splitAt_of_not_mem hp]
    | cons q more =>
      rw [List.intercalate_cons_cons, List.append_assoc, List.singleton_append, splitAt_append hp,
        ih (List.cons_ne_nil q more) fun r hr => hclean r (List.mem_cons_of_mem p hr)]

theorem dropLastIf_append (c : Char) (t : Text) : ∃ end?, t = dropLastIf c t ++ end? ∧ (end? = [] ∨ end? = [c]) := by
  unfold dropLastIf
  split
  · rename_i hlast
    refine ⟨[c], ?_, .inr rfl⟩
    obtain ⟨ys, rfl⟩ := List.getLast?_eq_some_iff.1 hlast
    simp
  · exact ⟨[], by simp, .inl rfl⟩

theorem dropLastIf_of_ne {c : Char} {t : Text} (h : t.getLast? ≠ some c) : dropLastIf c t = t := by
  rw [dropLastIf, if_neg h]

/-! ### Lines where they stand -/

theorem slice_zero (t after : Text) : slice (t ++ after) 0 (byteSize t) = t := by
  induction t with
  | nil => cases after <;> simp [slice]
  | cons c t ih =>
    have hpos := Char.utf8Size_pos c
    simp only [List.cons_append, slice, byteSize_cons]
    rw [if_neg (by omega), if_pos trivial, Nat.add_sub_cancel_left, ih]

/-- The bytes of a part of a text cut out exactly this part. -/
theorem slice_append (before t after : Text) :
    slice (before ++ t ++ after) (byteSize before) (byteSize before + byteSize t) = t := by
  induction before with
  | nil => simpa using slice_zero t after
  | cons c before ih =>
    have hpos := Char.utf8Size_pos c
    simp only [List.cons_append, slice, byteSize_cons]
    rw [if_neg (by omega), if_neg (by omega), Nat.add_sub_cancel_left, Nat.add_assoc, Nat.add_sub_cancel_left, ih]

/-! ### Pieces with their terminators -/

theorem pieces_of_not_mem {t : Text} (hne : t ≠ []) (h : '\n' ∉ t) : pieces t = [t] := by
  induction t with
  | nil => exact absurd rfl hne
  | cons c t ih =>
    rw [List.mem_cons, not_or] at h
    rw [pieces, if_neg (Ne.symm h.1)]
    cases t with
    | nil => rfl
    | cons d t => rw [ih (List.cons_ne_nil d t) h.2]

theorem pieces_append {t : Text} (h : '\n' ∉ t) (rest : Text) :
    pieces (t ++ '\n' :: rest) = (t ++ ['\n']) :: pieces rest := by
  induction t with
  | nil => rw [List.nil_append, pieces, if_pos rfl, List.nil_append]
  | cons c t ih =>
    rw [List.mem_cons, not_or] at h
    rw [List.cons_append, pieces, if_neg (Ne.symm h.1), ih h.2]
    rfl

theorem linesFrom_last {t : Text} (start : Nat) (hne : t ≠ []) (h : '\n' ∉ t) :
    linesFrom start t = [⟨dropLastIf '\r' t, start⟩] := by
  have hfeed : t.getLast? ≠ some '\n' := fun hlast => h (List.mem_of_getLast? hlast)
  rw [linesFrom, pieces_of_not_mem hne h, locate, locate, dropTerminator, dropLastIf_of_ne hfeed]

theorem linesFrom_append {t : Text} (start : Nat) (h : '\n' ∉ t) (rest : Text) :
    linesFrom start (t ++ '\n' :: rest) =
      ⟨dropLastIf '\r' t, start⟩ :: linesFrom (start + byteSize t + 1) rest := by
  rw [linesFrom, pieces_append h, locate, dropTerminator, dropLastIf_concat, if_pos rfl, byteSize_append,
    ← Nat.add_assoc]
  rfl

/-! ### Rows -/

/-- The lines that some pieces make once a line feed is put between them, the first one at byte `start`: one
carriage return at the end of a piece does not belong to its line. -/
def rows (start : Nat) : List Text → List Line
  | [] => []
  | piece :: more => ⟨dropLastIf '\r' piece, start⟩ :: rows (start + byteSize piece + 1) more

/-- A row holds no line feed if its piece holds none. -/
theorem noFeed_rows {ps : List Text} (hclean : ∀ p ∈ ps, '\n' ∉ p) {start : Nat} {line : Line}
    (h : line ∈ rows start ps) : '\n' ∉ line.text := by
  induction ps generalizing start with
  | nil => cases h
  | cons p ps ih =>
    rcases List.mem_cons.1 h with rfl | h
    · obtain ⟨end?, hp, -⟩ := dropLastIf_append '\r' p
      intro hmem
      refine hclean p (List.mem_cons_self ..) ?_
      rw [hp]
      exact List.mem_append_left _ hmem
    · exact ih (fun q hq => hclean q (List.mem_cons_of_mem p hq)) h

/-- The lines of joined pieces are their rows, unless the last piece is empty and so no line. -/
theorem linesFrom_intercalate {ps : List Text} (start : Nat) (hclean : ∀ p ∈ ps, '\n' ∉ p)
    (hlast : ∀ p ∈ ps.getLast?, p ≠ []) : linesFrom start (['\n'].intercalate ps) = rows start ps := by
  induction ps generalizing start with
  | nil => rfl
  | cons p more ih =>
    have hp := hclean p (List.mem_cons_self ..)
    cases more with
    | nil => rw [List.intercalate_singleton, linesFrom_last start (hlast p rfl) hp, rows, rows]
    | cons q more =>
      rw [List.intercalate_cons_cons, List.append_assoc, List.singleton_append, linesFrom_append start hp, rows,
        ih _ (fun r hr => hclean r (List.mem_cons_of_mem p hr)) (by simpa using hlast)]

theorem byteSize_feed (t : Text) : byteSize (t ++ ['\n']) = byteSize t + 1 := by
  rw [byteSize_append]
  rfl

/-- The text of joined pieces goes on behind the first one, if there is another. -/
theorem intercalate_feed (p : Text) {more : List Text} (hne : more ≠ []) :
    ['\n'].intercalate (p :: more) = p ++ '\n' :: ['\n'].intercalate more := by
  rw [List.intercalate_cons_of_ne_nil hne, List.append_assoc]
  rfl

theorem exists_intercalate_cons (p : Text) (more : List Text) :
    ∃ rest, ['\n'].intercalate (p :: more) = p ++ rest ∧ ∀ c ∈ rest.head?, c = '\n' := by
  cases more with
  | nil => exact ⟨[], by simp, by simp⟩
  | cons q more => exact ⟨_, intercalate_feed p (List.cons_ne_nil q more), by simp⟩

theorem exists_intercalate_last {ps : List Text} {p : Text} (h : p ∈ ps.getLast?) :
    ∃ front, ['\n'].intercalate ps = front ++ p ∧ ∀ c ∈ front.getLast?, c = '\n' := by
  induction ps with
  | nil => cases h
  | cons q more ih =>
    cases more with
    | nil =>
      cases h
      exact ⟨[], by simp, by simp⟩
    | cons r more =>
      obtain ⟨front, hfront, hlast⟩ := ih (by simpa using h)
      refine ⟨q ++ '\n' :: front, ?_, ?_⟩
      · rw [intercalate_feed q (List.cons_ne_nil r more), hfront]
        simp
      · intro c hc
        cases front with
        | nil => simpa [eq_comm] using hc
        | cons d front => exact hlast c (by simpa [List.getLast?_append] using hc)

/-- A row stands in the text where its offset says. Behind it stands what ends it, or what follows the pieces. -/
theorem rows_stand {ps : List Text} (lead tail : Text) {line : Line} (h : line ∈ rows (byteSize lead) ps) :
    ∃ before after, lead ++ ['\n'].intercalate ps ++ tail = before ++ line.text ++ after ∧
      byteSize before = line.start ∧ (after = tail ∨ after.head? = some '\n' ∨ after.head? = some '\r') := by
  induction ps generalizing lead with
  | nil => cases h
  | cons p more ih =>
    rcases List.mem_cons.1 h with rfl | h
    · obtain ⟨end?, hp, hcr⟩ := dropLastIf_append '\r' p
      obtain ⟨rest, hrest, hfeed⟩ := exists_intercalate_cons p more
      refine ⟨lead, end? ++ (rest ++ tail), ?_, rfl, ?_⟩
      · rw [hrest]
        conv => lhs; rw [hp]
        simp
      · rcases hcr with rfl | rfl
        · cases rest with
          | nil => exact .inl rfl
          | cons c rest => exact .inr (.inl (congrArg some (hfeed c rfl)))
        · exact .inr (.inr rfl)
    · have hne : more ≠ [] := by
        rintro rfl
        cases h
      have := ih (lead ++ p ++ ['\n']) (by rwa [byteSize_feed, byteSize_append])
      rw [intercalate_feed p hne]
      simpa using this

theorem rows_adjacent {ps : List Text} (lead tail : Text) {first second : Line}
    (h : [first, second] <:+: rows (byteSize lead) ps) :
    first.Adjacent second (lead ++ ['\n'].intercalate ps ++ tail) := by
  induction ps generalizing lead with
  | nil => simp [rows] at h
  | cons p more ih =>
    have hne : more ≠ [] := by
      rintro rfl
      simpa [rows] using h.length_le
    rw [intercalate_feed p hne]
    rcases List.infix_cons_iff.1 h with h | h
    · -- The two lines are the first piece and the one behind it.
      obtain ⟨q, more, rfl⟩ := List.exists_cons_of_ne_nil hne
      obtain ⟨rfl, hnext⟩ := List.cons_prefix_cons.1 h
      obtain ⟨rfl, -⟩ := List.cons_prefix_cons.1 hnext
      obtain ⟨endp, hp, hcr⟩ := dropLastIf_append '\r' p
      obtain ⟨endq, hq, -⟩ := dropLastIf_append '\r' q
      obtain ⟨rest, hrest, -⟩ := exists_intercalate_cons q more
      refine ⟨lead, endp ++ ['\n'], endq ++ rest ++ tail, ?_, ?_, rfl, ?_⟩
      · rw [hrest]
        conv => lhs; rw [hp, hq]
        simp
      · rcases hcr with rfl | rfl
        · exact .inl rfl
        · exact .inr rfl
      · rw [← List.append_assoc, byteSize_feed, List.append_assoc, ← hp, byteSize_append]
    · have := ih (lead ++ p ++ ['\n']) (by rwa [byteSize_feed, byteSize_append])
      simpa using this

/-! ### Rows put together and moved -/

/-- The text of some lines, each ended by a line feed. -/
def feeds (ps : List Text) : Text := ps.flatMap (· ++ ['\n'])

@[simp] theorem feeds_nil : feeds [] = [] := rfl

@[simp] theorem feeds_cons (p : Text) (ps : List Text) : feeds (p :: ps) = p ++ '\n' :: feeds ps := by
  simp [feeds]

theorem byteSize_feeds_cons (p : Text) (ps : List Text) :
    byteSize (feeds (p :: ps)) = byteSize p + 1 + byteSize (feeds ps) := by
  rw [feeds_cons, byteSize_append, byteSize_cons, ← Nat.add_assoc]
  rfl

theorem rows_append (start : Nat) (ps qs : List Text) :
    rows start (ps ++ qs) = rows start ps ++ rows (start + byteSize (feeds ps)) qs := by
  induction ps generalizing start with
  | nil => rfl
  | cons p ps ih =>
    rw [List.cons_append, rows, rows, ih, byteSize_feeds_cons, List.cons_append]
    simp only [Nat.add_assoc]

theorem rows_text (start : Nat) (ps : List Text) : (rows start ps).map Line.text = ps.map (dropLastIf '\r') := by
  induction ps generalizing start with
  | nil => rfl
  | cons p ps ih => rw [rows, List.map_cons, ih, List.map_cons]

/-- Pieces that no carriage return ends are the texts of their rows. -/
theorem rows_text_of_whole {ps : List Text} (hwhole : ∀ p ∈ ps, dropLastIf '\r' p = p) (start : Nat) :
    (rows start ps).map Line.text = ps := by
  rw [rows_text, List.map_congr_left hwhole, List.map_id']

theorem rows_shift (start n : Nat) (ps : List Text) : rows (start + n) ps = (rows start ps).map (Line.shift n) := by
  induction ps generalizing start with
  | nil => rfl
  | cons p ps ih =>
    rw [rows, rows, List.map_cons, ← ih, show start + n + byteSize p + 1 = start + byteSize p + 1 + n by omega]
    rfl

/-- A row lies within the bytes of the pieces. -/
theorem bounds_of_mem_rows {ps : List Text} {start : Nat} {line : Line} (h : line ∈ rows start ps) :
    start ≤ line.start ∧ line.stop < start + byteSize (feeds ps) := by
  induction ps generalizing start with
  | nil => cases h
  | cons p ps ih =>
    rw [byteSize_feeds_cons]
    rcases List.mem_cons.1 h with rfl | h
    · obtain ⟨end?, hp, -⟩ := dropLastIf_append '\r' p
      have hsize := congrArg byteSize hp
      rw [byteSize_append] at hsize
      exact ⟨Nat.le_refl start, by simp only [Line.stop]; omega⟩
    · have := ih h
      omega

/-- A row ends before the next one starts. -/
theorem rows_pairwise (start : Nat) (ps : List Text) : (rows start ps).Pairwise fun a b => a.stop < b.start := by
  induction ps generalizing start with
  | nil => exact .nil
  | cons p ps ih =>
    refine List.pairwise_cons.2 ⟨fun line hline => ?_, ih _⟩
    have hfirst : (⟨dropLastIf '\r' p, start⟩ : Line) ∈ rows start [p] := List.mem_cons_self ..
    have hbefore := (bounds_of_mem_rows hfirst).2
    have hbehind := (bounds_of_mem_rows hline).1
    rw [byteSize_feeds_cons] at hbefore
    simp only [feeds_nil, byteSize_nil] at hbefore
    omega

end Text

end Flowchart
