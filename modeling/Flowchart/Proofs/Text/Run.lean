import Flowchart.Text.Blank
import Flowchart.Text.Word

/-! Runs of one class of characters, and what trimming leaves.

A reader that takes the longest run of a class gets exactly the run that was
written, provided the class stops there (`Stops`), and one that reads up to a character
cuts a text in one way (`cut_inj`). Trimming leaves the one middle
part of a text that has blanks around it and none at its ends (`exists_trim`,
`trim_eq_self_iff`). -/
namespace Flowchart.Text

/-! ### Longest runs -/

/-- The text does not go on with a character of the class. -/
def Stops (p : Char → Bool) (t : Text) : Prop := ∀ c ∈ t.head?, p c = false

variable {p q : Char → Bool}

@[simp] theorem stops_nil : Stops p [] := by
  intro c hc
  cases hc

@[simp] theorem stops_cons {c : Char} {t : Text} : Stops p (c :: t) ↔ p c = false := by
  simp [Stops]

theorem Stops.mono {t : Text} (h : Stops p t) (hpq : ∀ c, q c = true → p c = true) : Stops q t := by
  intro c hc
  cases hq : q c
  · rfl
  · exact absurd (hpq c hq) (by rw [h c hc]; decide)

theorem Stops.append {t : Text} (h : Stops p t) (hne : t ≠ []) (u : Text) : Stops p (t ++ u) := by
  cases t with
  | nil => exact absurd rfl hne
  | cons c t => exact stops_cons.2 (stops_cons.1 h)

theorem Stops.takeWhile {t : Text} (h : Stops p t) : t.takeWhile p = [] := by
  cases t with
  | nil => rfl
  | cons c t => simp [stops_cons.1 h]

theorem Stops.dropWhile {t : Text} (h : Stops p t) : t.dropWhile p = t := by
  cases t with
  | nil => rfl
  | cons c t => simp [stops_cons.1 h]

theorem takeWhile_run {run rest : Text} (hrun : ∀ c ∈ run, p c = true) (hrest : Stops p rest) :
    (run ++ rest).takeWhile p = run := by
  rw [List.takeWhile_append_of_pos hrun, hrest.takeWhile, List.append_nil]

theorem dropWhile_run {run rest : Text} (hrun : ∀ c ∈ run, p c = true) (hrest : Stops p rest) :
    (run ++ rest).dropWhile p = rest := by
  rw [List.dropWhile_append_of_pos hrun, hrest.dropWhile]

theorem mem_takeWhile {t : Text} {c : Char} (h : c ∈ t.takeWhile p) : p c = true :=
  List.all_eq_true.1 List.all_takeWhile c h

theorem stops_dropWhile (t : Text) : Stops p (t.dropWhile p) := by
  intro c hc
  have hne : t.dropWhile p ≠ [] := by
    intro hnil
    rw [hnil] at hc
    cases hc
  have hhead := List.head_dropWhile_not p hne
  rw [List.head?_eq_some_head hne] at hc
  cases hc
  exact hhead

/-- A text is cut in one way at the first place where a character stands. -/
theorem cut_inj {c : Char} {t u rest rest' : Text} (ht : c ∉ t) (hu : c ∉ u) (h : t ++ c :: rest = u ++ c :: rest') :
    t = u ∧ rest = rest' := by
  have hcut : cut? c (t ++ c :: rest) = some (u, rest') := cut?_eq_some.2 ⟨h, hu⟩
  rw [cut?_eq_some.2 ⟨rfl, ht⟩] at hcut
  exact Prod.mk.inj (Option.some.inj hcut)

/-! ### The last run

A text is cut at the last place where a character stands by reading it backwards. -/

theorem lead_append_last (t : Text) : (t.reverse.dropWhile p).reverse ++ (t.reverse.takeWhile p).reverse = t := by
  rw [← List.reverse_append, List.takeWhile_append_dropWhile, List.reverse_reverse]

theorem not_mem_last {c : Char} (backwards : Text) : c ∉ (backwards.takeWhile (· ≠ c)).reverse := by
  intro hmem
  have hne := mem_takeWhile (List.mem_reverse.1 hmem)
  rw [decide_eq_true_eq] at hne
  exact hne rfl

theorem ne_of_mem_reverse {c : Char} {t : Text} (h : c ∉ t) : ∀ d ∈ t.reverse, decide (d ≠ c) = true := by
  intro d hd
  rw [decide_eq_true_eq]
  rintro rfl
  exact h (List.mem_reverse.1 hd)

/-! ### Trimming -/

/-- A text is what was trimmed off around what trimming leaves. -/
theorem exists_trim (t : Text) :
    ∃ tail, t = t.takeWhile isBlank ++ trim t ++ tail ∧ ∀ c ∈ tail, isBlank c = true := by
  refine ⟨((trimStart t).reverse.takeWhile isBlank).reverse, ?_, ?_⟩
  · have hend : trimStart t = trim t ++ ((trimStart t).reverse.takeWhile isBlank).reverse := by
      rw [trim, trimEnd, ← List.reverse_append, List.takeWhile_append_dropWhile, List.reverse_reverse]
    rw [List.append_assoc, ← hend]
    exact List.takeWhile_append_dropWhile.symm
  · intro c hc
    exact mem_takeWhile (List.mem_reverse.1 hc)

theorem trimEnd_starts (t : Text) : trimEnd t <+: t := by
  rw [trimEnd, ← List.reverse_suffix, List.reverse_reverse]
  exact List.dropWhile_suffix isBlank

theorem ne_nil_of_not_blank {t : Text} (h : isAllBlank t = false) : t ≠ [] := by
  rintro rfl
  cases h

theorem trimEnd_append_of_blank (t : Text) {tail : Text} (h : ∀ c ∈ tail, isBlank c = true) :
    trimEnd (t ++ tail) = trimEnd t := by
  have htail : ∀ c ∈ tail.reverse, isBlank c = true := fun c hc => h c (List.mem_reverse.1 hc)
  rw [trimEnd, List.reverse_append, List.dropWhile_append_of_pos htail]
  rfl

/-- What stands before a text that is not blank stays when the end is trimmed. -/
theorem trimEnd_append_of_not_blank (lead : Text) {t : Text} (h : isAllBlank t = false) :
    trimEnd (lead ++ t) = lead ++ trimEnd t := by
  have hne : (t.reverse.dropWhile isBlank).isEmpty = false := by
    rw [List.isEmpty_eq_false_iff]
    intro hnil
    have hrun : t.reverse.takeWhile isBlank ++ t.reverse.dropWhile isBlank = t.reverse :=
      List.takeWhile_append_dropWhile
    rw [hnil, List.append_nil] at hrun
    rw [isAllBlank, List.all_eq_true.2 fun c hc => mem_takeWhile (hrun.symm ▸ List.mem_reverse.2 hc)] at h
    cases h
  rw [trimEnd, List.reverse_append, List.dropWhile_append, if_neg (by rw [hne]; decide), List.reverse_append,
    List.reverse_reverse]
  rfl

theorem mem_of_mem_trim {t : Text} {c : Char} (h : c ∈ trim t) : c ∈ t :=
  (List.dropWhile_sublist isBlank).subset ((trimEnd_starts (trimStart t)).subset h)

/-- What trimming leaves starts with no blank. -/
theorem stops_trim (t : Text) : Stops isBlank (trim t) := by
  intro c hc
  obtain ⟨tail, htail⟩ := trimEnd_starts (trimStart t)
  refine stops_dropWhile (p := isBlank) t c ?_
  show c ∈ (trimStart t).head?
  rw [← htail, List.head?_append]
  rw [show (trimEnd (trimStart t)).head? = some c from hc]
  rfl

/-- What trimming leaves ends with no blank. -/
theorem stops_reverse_trim (t : Text) : Stops isBlank (trim t).reverse := by
  rw [trim, trimEnd, List.reverse_reverse]
  exact stops_dropWhile _

/-- A text is left as it is exactly when it has no blank at either end. -/
theorem trim_eq_self_iff {t : Text} : trim t = t ↔ Stops isBlank t ∧ Stops isBlank t.reverse := by
  constructor
  · intro h
    have hstart := stops_trim t
    have hend := stops_reverse_trim t
    rw [h] at hstart hend
    exact ⟨hstart, hend⟩
  · rintro ⟨hstart, hend⟩
    rw [trim, trimStart, hstart.dropWhile, trimEnd, hend.dropWhile, List.reverse_reverse]

@[simp] theorem trim_trim (t : Text) : trim (trim t) = trim t :=
  trim_eq_self_iff.2 ⟨stops_trim t, stops_reverse_trim t⟩

/-- No blank starts a trimmed text. -/
theorem head?_ne_of_trimmed {t : Text} (h : trim t = t) {c : Char} (hc : isBlank c = true) : t.head? ≠ some c := by
  intro hhead
  have hblank := (trim_eq_self_iff.1 h).1 c hhead
  rw [hc] at hblank
  cases hblank

/-- No blank ends a trimmed text. -/
theorem getLast?_ne_of_trimmed {t : Text} (h : trim t = t) {c : Char} (hc : isBlank c = true) :
    t.getLast? ≠ some c := by
  intro hlast
  have hblank := (trim_eq_self_iff.1 h).2 c (by rwa [List.head?_reverse])
  rw [hc] at hblank
  cases hblank

/-- A blank before a text is trimmed off. -/
theorem trim_cons_of_blank {c : Char} (hc : isBlank c = true) (t : Text) : trim (c :: t) = trim t := by
  simp [trim, trimStart, hc]

/-- Nothing is left of a text exactly when every character of it is blank. -/
theorem trim_eq_nil_iff {t : Text} : trim t = [] ↔ isAllBlank t = true := by
  rw [isAllBlank, List.all_eq_true]
  constructor
  · intro h c hc
    obtain ⟨tail, htail, hblank⟩ := exists_trim t
    rw [h, List.append_nil] at htail
    rw [htail] at hc
    rcases List.mem_append.1 hc with hc | hc
    · exact mem_takeWhile hc
    · exact hblank c hc
  · intro h
    have hstart : (t ++ []).dropWhile isBlank = [] := dropWhile_run h stops_nil
    rw [List.append_nil] at hstart
    rw [trim, trimStart, hstart, trimEnd_nil]

/-- Of a trimmed text with blanks around it trimming leaves the text. -/
theorem trim_margins {lead t tail : Text} (hlead : ∀ c ∈ lead, isBlank c = true)
    (htail : ∀ c ∈ tail, isBlank c = true) (ht : trim t = t) : trim (lead ++ t ++ tail) = t := by
  by_cases hempty : t = []
  · rw [hempty, List.append_nil, trim_eq_nil_iff, isAllBlank, List.all_eq_true]
    exact fun c hc => (List.mem_append.1 hc).elim (hlead c) (htail c)
  · obtain ⟨hstart, hend⟩ := trim_eq_self_iff.1 ht
    have htail' : ∀ c ∈ tail.reverse, isBlank c = true := fun c hc => htail c (List.mem_reverse.1 hc)
    rw [trim, trimStart, List.append_assoc, dropWhile_run hlead (hstart.append hempty tail), trimEnd,
      List.reverse_append, dropWhile_run htail' hend, List.reverse_reverse]

/-- Blanks around a text make no difference to what trimming leaves. -/
theorem trim_append_of_blank {lead tail : Text} (hlead : ∀ c ∈ lead, isBlank c = true)
    (htail : ∀ c ∈ tail, isBlank c = true) (t : Text) : trim (lead ++ t ++ tail) = trim t := by
  obtain ⟨behind, ht, hbehind⟩ := exists_trim t
  have hwhole : lead ++ t ++ tail = (lead ++ t.takeWhile isBlank) ++ trim t ++ (behind ++ tail) := by
    conv => lhs; rw [ht]
    simp
  rw [hwhole]
  refine trim_margins (fun c hc => ?_) (fun c hc => ?_) (trim_trim t)
  · exact (List.mem_append.1 hc).elim (hlead c) mem_takeWhile
  · exact (List.mem_append.1 hc).elim (hbehind c) (htail c)

/-! ### Words and blanks -/

/-- The ranges of two classes have no code point in common. -/
private def apart (ranges others : List CharRange) : Bool :=
  ranges.all fun r => others.all fun o => r.2 < o.1 || o.2 < r.1

private theorem inRanges_apart {ranges others : List CharRange} {c : Char} (h : apart ranges others = true)
    (hc : inRanges ranges c = true) : inRanges others c = false := by
  cases hother : inRanges others c
  · rfl
  · obtain ⟨r, hr, hlow, hhigh⟩ := inRanges_iff.1 hc
    obtain ⟨o, ho, holow, hohigh⟩ := inRanges_iff.1 hother
    have := List.all_eq_true.1 (List.all_eq_true.1 h r hr) o ho
    simp only [Bool.or_eq_true, decide_eq_true_eq] at this
    omega

private theorem blanks_apart_words : apart blankRanges wordRanges = true := by decide +kernel

private theorem blanks_not_ascii_word :
    (blankRanges.all fun r => (List.range (r.2 + 1 - r.1)).all fun k => !isAsciiWord (Char.ofNat (r.1 + k))) = true := by
  decide +kernel

/-- No character of a word is blank. -/
theorem isBlank_of_isWord {c : Char} (h : isWord c = true) : isBlank c = false := by
  cases hb : isBlank c
  · rfl
  · exfalso
    rw [isWord, inRanges_apart blanks_apart_words hb, Bool.or_false] at h
    obtain ⟨r, hr, hlow, hhigh⟩ := inRanges_iff.1 hb
    have hall := List.all_eq_true.1 (List.all_eq_true.1 blanks_not_ascii_word r hr) (c.toNat - r.1)
      (List.mem_range.2 (by omega))
    rw [show r.1 + (c.toNat - r.1) = c.toNat by omega, Char.ofNat_toNat, h] at hall
    exact absurd hall (by decide)

end Flowchart.Text
