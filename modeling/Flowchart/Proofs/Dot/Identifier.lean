import Flowchart.Proofs.Dot.Quoting

/-! What a quoted text stands for.

The language knows two kinds of identifiers without quotes, bare words and numerals, by a
grammar of their own (`IsBareWord`, `Numeral`); `isPlain` and `isNumeral` recognise them.
Every other text is put between quotes, and then its backslashes count by runs. `Settles`
says run by run what is read: a quote takes the last backslash of an odd run before it, and
an odd run at the end gets one more. `settles_iff` is the induction over the runs of a text;
each run ends at a character that is no backslash, so the next one starts afresh.

`quote_is_one_token` is the outcome for any text. -/
namespace Flowchart.Dot

open Text

/-! ### Bare words and numerals -/

/-- A bare word: a letter or an underline, then letters, digits and underlines, and together no keyword. -/
def IsBareWord (t : Text) : Prop :=
  ∃ c rest, t = c :: rest ∧ isWordStart c = true ∧ (∀ d ∈ rest, isWordPart d = true) ∧ isKeyword t = false

/-- Digits, and at least one. -/
def IsDigits (t : Text) : Prop := t ≠ [] ∧ ∀ c ∈ t, c.isDigit = true

/-- A numeral without a sign: a point and digits, or digits, perhaps with a point behind them and more digits. -/
inductive Unsigned : Text → Prop where
  | fraction {digits : Text} : IsDigits digits → Unsigned ('.' :: digits)
  | whole {digits : Text} : IsDigits digits → Unsigned digits
  | mixed {digits more : Text} : IsDigits digits → (∀ c ∈ more, c.isDigit = true) → Unsigned (digits ++ '.' :: more)

/-- A numeral, with a minus sign or without one. -/
inductive Numeral : Text → Prop where
  | plain {t : Text} : Unsigned t → Numeral t
  | minus {t : Text} : Unsigned t → Numeral ('-' :: t)

theorem isPlain_iff {t : Text} : isPlain t = true ↔ IsBareWord t := by
  cases t with
  | nil =>
    constructor
    · intro h
      cases h
    · rintro ⟨c, rest, h, -⟩
      cases h
  | cons c rest =>
    simp only [isPlain, IsBareWord, Bool.and_eq_true, Bool.not_eq_true', List.all_eq_true]
    constructor
    · rintro ⟨⟨hstart, hparts⟩, hkeyword⟩
      exact ⟨c, rest, rfl, hstart, hparts, hkeyword⟩
    · rintro ⟨c, rest, ⟨⟩, hstart, hparts, hkeyword⟩
      exact ⟨⟨hstart, hparts⟩, hkeyword⟩

theorem not_mem_of_digits {t : Text} (h : ∀ c ∈ t, c.isDigit = true) : '.' ∉ t := by
  intro hmem
  exact absurd (h _ hmem) (by decide)

theorem isUnsigned_iff {t : Text} : isUnsigned t = true ↔ Unsigned t := by
  constructor
  · intro h
    unfold isUnsigned at h
    split at h
    · simp only [Bool.and_eq_true, Bool.not_eq_true', List.isEmpty_eq_false_iff, List.all_eq_true] at h
      exact .whole h
    · rename_i digits more hcut
      obtain ⟨rfl, -⟩ := cut?_eq_some.1 hcut
      simp only [Bool.and_eq_true, Bool.not_eq_true', List.all_eq_true] at h
      obtain ⟨⟨hsome, hdigits⟩, hmore⟩ := h
      by_cases hempty : digits = []
      · subst hempty
        have hne : more ≠ [] := by
          rintro rfl
          exact absurd hsome (by decide)
        exact .fraction ⟨hne, hmore⟩
      · exact .mixed ⟨hempty, hdigits⟩ hmore
  · intro h
    unfold isUnsigned
    cases h with
    | @fraction digits h =>
      have hcut : cut? '.' ('.' :: digits) = some ([], digits) := cut?_eq_some.2 ⟨rfl, List.not_mem_nil⟩
      have hdigits : digits.all Char.isDigit = true := List.all_eq_true.2 h.2
      simp [hcut, h.1, hdigits]
    | whole h =>
      have hcut : cut? '.' t = none := cut?_eq_none.2 (not_mem_of_digits h.2)
      have hdigits : t.all Char.isDigit = true := List.all_eq_true.2 h.2
      simp [hcut, h.1, hdigits]
    | @mixed digits more h hmore =>
      have hcut : cut? '.' (digits ++ '.' :: more) = some (digits, more) :=
        cut?_eq_some.2 ⟨rfl, not_mem_of_digits h.2⟩
      have hdigits : digits.all Char.isDigit = true := List.all_eq_true.2 h.2
      have hmore : more.all Char.isDigit = true := List.all_eq_true.2 hmore
      simp [hcut, h.1, hdigits, hmore]

theorem isNumeral_iff {t : Text} : isNumeral t = true ↔ Numeral t := by
  by_cases hsign : ∃ digits, t = '-' :: digits
  · obtain ⟨digits, rfl⟩ := hsign
    rw [isNumeral_minus, isUnsigned_iff]
    refine ⟨.minus, fun h => ?_⟩
    cases h with
    | minus h => exact h
    | plain h =>
      -- No numeral without a sign starts with one.
      obtain ⟨c, rest, hc, hstart⟩ := head_of_isUnsigned (isUnsigned_iff.2 h)
      rw [← (List.cons.inj hc).1] at hstart
      exact absurd hstart (by decide)
  · rw [isNumeral_unsigned fun digits h => hsign ⟨digits, h⟩, isUnsigned_iff]
    refine ⟨.plain, fun h => ?_⟩
    cases h with
    | plain h => exact h
    | minus h => exact absurd ⟨_, rfl⟩ hsign

theorem isBare_iff {t : Text} : (isPlain t || isNumeral t) = true ↔ IsBareWord t ∨ Numeral t := by
  rw [Bool.or_eq_true, isPlain_iff, isNumeral_iff]

/-! ### Backslashes, run by run -/

/-- What a text is read as once it is quoted: an odd run of backslashes before a quote loses one, an odd run at the
end gains one, and any other run stays. -/
inductive Settles : Text → Text → Prop where
  | last (n : Nat) : Settles (List.replicate n '\\') (List.replicate (n + n % 2) '\\')
  | quote (n : Nat) {t value : Text} : Settles t value →
      Settles (List.replicate n '\\' ++ '"' :: t) (List.replicate (n - n % 2) '\\' ++ '"' :: value)
  | other (n : Nat) {c : Char} {t value : Text} : c ≠ '\\' → c ≠ '"' → Settles t value →
      Settles (List.replicate n '\\' ++ c :: t) (List.replicate n '\\' ++ c :: value)

/-- A text starts with a run of backslashes that goes as far as it can. -/
theorem exists_run (t : Text) : ∃ n rest, t = List.replicate n '\\' ++ rest ∧ ∀ c ∈ rest.head?, c ≠ '\\' := by
  induction t with
  | nil => exact ⟨0, [], rfl, by simp⟩
  | cons c t ih =>
    by_cases hc : c = '\\'
    · obtain ⟨n, rest, ht, hrest⟩ := ih
      exact ⟨n + 1, rest, by rw [hc, ht, List.replicate_succ, List.cons_append], hrest⟩
    · refine ⟨0, c :: t, rfl, ?_⟩
      rintro d ⟨⟩
      exact hc

theorem settles_settled (t : Text) : Settles t (settled t) := by
  obtain ⟨n, rest, ht, hrest⟩ := exists_run t
  cases rest with
  | nil =>
    rw [ht, List.append_nil, settled_run_end]
    exact .last n
  | cons c rest =>
    have hshorter : rest.length < t.length := by
      rw [ht, List.length_append, List.length_cons]
      omega
    have ih := settles_settled rest
    have hc : c ≠ '\\' := hrest c rfl
    by_cases hq : c = '"'
    · subst hq
      rw [ht, settled_run_quote]
      exact .quote n ih
    · rw [ht, settled_run_cons hc hq]
      exact .other n hc hq ih
termination_by t.length

theorem settles_iff {t value : Text} : Settles t value ↔ value = settled t := by
  constructor
  · intro h
    induction h with
    | last n => rw [settled_run_end]
    | quote n _ ih => rw [settled_run_quote, ih]
    | other n hc hq _ ih => rw [settled_run_cons hc hq, ih]
  · rintro rfl
    exact settles_settled t

/-! ### One token -/

theorem token?_quote_alone (t : Text) : token? (quote t) = some (.id (settled t), []) := by
  have hends : Ends [] := stops_nil
  have hread := token?_quote t hends
  rwa [List.append_nil] at hread

/-- Texts without backslashes can be told from what they are quoted to. -/
theorem quote_inj_of_not_mem {t u : Text} (ht : '\\' ∉ t) (hu : '\\' ∉ u) (h : quote u = quote t) : u = t := by
  have hread := token?_quote_alone u
  rw [h, token?_quote_alone t, settled_of_not_mem ht, settled_of_not_mem hu] at hread
  cases hread
  rfl

/-- **Any text is quoted to exactly one identifier.** A bare word and a numeral stand as they are; any other text is
put between quotes, and the quote that closes it is the last character and no earlier one. The value of the identifier
is the text settled, so it is the text itself if there is no backslash in it, and then no other such text is quoted to
the same. -/
theorem quote_is_one_token (t : Text) :
    ∃ value : Text, token? (quote t) = some (.id value, []) ∧
      ((IsBareWord t ∨ Numeral t) ∧ quote t = t ∧ value = t ∨
        ¬(IsBareWord t ∨ Numeral t) ∧ ∃ inside, quote t = '"' :: (inside ++ ['"']) ∧
          quoted? (inside ++ ['"']) = some (value, [])) ∧
      (∀ v, Settles t v ↔ v = value) ∧
      ('\\' ∉ t → value = t ∧ ∀ u, '\\' ∉ u → quote u = quote t → u = t) := by
  refine ⟨settled t, token?_quote_alone t, ?_, fun v => settles_iff, fun ht => ?_⟩
  · rw [← isBare_iff]
    by_cases hbare : (isPlain t || isNumeral t) = true
    · exact .inl ⟨hbare, if_pos hbare, settled_of_bare hbare⟩
    · exact .inr ⟨hbare, escape false t, if_neg hbare, quoted?_escape t []⟩
  · exact ⟨settled_of_not_mem ht, fun u hu => quote_inj_of_not_mem ht hu⟩

/-- Quotes inside a text without backslashes are read back, and they tell it from the text without them. -/
theorem quote_is_one_token_inner :
    let t := "say \"hi\"".toList
    '\\' ∉ t ∧ token? (quote t) = some (.id t, []) ∧ quote "say hi".toList ≠ quote t := by
  intro t
  have hback : '\\' ∉ t := by decide
  obtain ⟨value, htoken, -, -, hplain⟩ := quote_is_one_token t
  obtain ⟨rfl, hinj⟩ := hplain hback
  exact ⟨hback, htoken, fun h => absurd (hinj "say hi".toList (by decide) h) (by decide)⟩

/-- Three backslashes before a quote, and one at the end. -/
example : token? (quote "a\\\\\\\"b\\".toList) = some (.id "a\\\\\"b\\\\".toList, []) := by decide +kernel

end Flowchart.Dot
