import Flowchart.Proofs.Dot.Identifier
import Mathlib.Data.List.Forall2

/-! Quoting that changes nothing.

A text that is quoted to itself stands bare, and the grammar says which texts these are:
numerals, and words of ASCII characters (`IsWord`) that are no keyword in any mix of cases
(`InAnyCase`). Quotes around a text make it longer, so no other text is left as it is:
`quote_eq_self_iff`.

A text that has been put between quotes is escaped, and to escape it again adds nothing
(`escape_escape`): each quote in it has an odd run of backslashes before it, and its end has
an even one. Nor can it stand bare, because what escaping adds is a backslash
(`backslash_mem_escape`). So the text between the quotes is quoted to the same:
`quote_inside`. -/
namespace Flowchart.Dot

open Text

/-! ### The grammar of words -/

/-- A letter, in lower or upper case. -/
def IsLetter (c : Char) : Prop := 'a' ≤ c ∧ c ≤ 'z' ∨ 'A' ≤ c ∧ c ≤ 'Z'

/-- A word: a letter or an underline, then letters, digits and underlines. -/
def IsWord (t : Text) : Prop :=
  ∃ c rest, t = c :: rest ∧ (IsLetter c ∨ c = '_') ∧ ∀ d ∈ rest, IsLetter d ∨ d.isDigit = true ∨ d = '_'

/-- A word with any of its letters in upper case. -/
def InAnyCase (word t : Text) : Prop := List.Forall₂ (fun c d => d = c ∨ d = c.toUpper) word t

theorem isLower_iff {c : Char} : c.isLower = true ↔ 'a' ≤ c ∧ c ≤ 'z' := by
  show (decide ('a' ≤ c) && decide (c ≤ 'z')) = true ↔ _
  rw [Bool.and_eq_true, decide_eq_true_iff, decide_eq_true_iff]

theorem isAlpha_iff {c : Char} : c.isAlpha = true ↔ IsLetter c := by
  show (decide ('A' ≤ c ∧ c ≤ 'Z') || c.isLower) = true ↔ _
  rw [Bool.or_eq_true, decide_eq_true_iff, isLower_iff]
  exact Or.comm

theorem isWordStart_iff {c : Char} : isWordStart c = true ↔ IsLetter c ∨ c = '_' := by
  rw [isWordStart, Bool.or_eq_true, isAlpha_iff, beq_iff_eq]

theorem isWordPart_iff {c : Char} : isWordPart c = true ↔ IsLetter c ∨ c.isDigit = true ∨ c = '_' := by
  rw [isWordPart, Bool.or_eq_true, Char.isAlphanum, Bool.or_eq_true, isAlpha_iff, beq_iff_eq, or_assoc]

/-- The characters that become a small letter are that letter and its capital. -/
theorem toLower_eq_iff {c d : Char} (hc : c.isLower = true) : d.toLower = c ↔ d = c ∨ d = c.toUpper := by
  have hc := isLower_iff.1 hc
  have hupper : c.toUpper = ⟨c.val + ('A'.val - 'a'.val), _⟩ := dif_pos hc
  rw [hupper]
  show (if h : d.val ≥ 'A'.val ∧ d.val ≤ 'Z'.val then (⟨d.val + ('a'.val - 'A'.val), _⟩ : Char) else d) = c ↔ _
  have hdown : ('a'.val - 'A'.val).toNat = 32 := rfl
  have hup : ('A'.val - 'a'.val).toNat = 2 ^ 32 - 32 := rfl
  have hbounds : 'A'.val.toNat = 65 ∧ 'Z'.val.toNat = 90 ∧ 'a'.val.toNat = 97 ∧ 'z'.val.toNat = 122 :=
    ⟨rfl, rfl, rfl, rfl⟩
  simp only [ge_iff_le, Char.le_def, UInt32.le_iff_toNat_le] at hc ⊢
  split
  · simp only [Char.ext_iff, ← UInt32.toNat_inj, UInt32.toNat_add, hdown, hup]
    omega
  · simp only [Char.ext_iff, ← UInt32.toNat_inj, UInt32.toNat_add, hup]
    omega

theorem map_toLower_eq_iff {word t : Text} (hword : ∀ c ∈ word, c.isLower = true) :
    t.map Char.toLower = word ↔ InAnyCase word t := by
  induction word generalizing t with
  | nil => simp [InAnyCase]
  | cons c word ih =>
    rw [List.forall_mem_cons] at hword
    cases t with
    | nil => simp [InAnyCase]
    | cons d t =>
      rw [List.map_cons, List.cons.injEq, toLower_eq_iff hword.1, ih hword.2, InAnyCase, InAnyCase,
        List.forall₂_cons]

theorem isKeyword_iff {t : Text} : isKeyword t = true ↔ ∃ word ∈ keywords, InAnyCase word t := by
  have hlower : ∀ word ∈ keywords, ∀ c ∈ word, c.isLower = true := by
    have hall : (keywords.all fun word => word.all Char.isLower) = true := by decide +kernel
    simpa only [List.all_eq_true] using hall
  rw [isKeyword, List.contains_iff_mem]
  constructor
  · intro hmem
    exact ⟨_, hmem, (map_toLower_eq_iff (hlower _ hmem)).1 rfl⟩
  · rintro ⟨word, hmem, hcase⟩
    rwa [(map_toLower_eq_iff (hlower word hmem)).2 hcase]

theorem isBareWord_iff {t : Text} : IsBareWord t ↔ IsWord t ∧ ∀ word ∈ keywords, ¬InAnyCase word t := by
  have hkeyword : isKeyword t = false ↔ ∀ word ∈ keywords, ¬InAnyCase word t := by
    rw [← Bool.not_eq_true, isKeyword_iff]
    simp only [not_exists, not_and]
  simp only [IsBareWord, IsWord, isWordStart_iff, isWordPart_iff, hkeyword]
  constructor
  · rintro ⟨c, rest, ht, hc, hrest, hno⟩
    exact ⟨⟨c, rest, ht, hc, hrest⟩, hno⟩
  · rintro ⟨⟨c, rest, ht, hc, hrest⟩, hno⟩
    exact ⟨c, rest, ht, hc, hrest, hno⟩

/-! ### Texts that stay as they are -/

theorem length_le_escape (odd : Bool) (t : Text) : t.length ≤ (escape odd t).length := by
  induction t generalizing odd with
  | nil => exact Nat.zero_le _
  | cons c t ih =>
    rw [escape]
    split
    · exact Nat.succ_le_succ (ih _)
    · split
      · exact Nat.succ_le_succ (Nat.le_succ_of_le (ih _))
      · exact Nat.succ_le_succ (ih _)

/-- **A text is quoted to itself exactly if the grammar has it without quotes**: it is a numeral, or a word of letters,
digits and underlines that does not start with a digit and is no keyword in whatever case. -/
theorem quote_eq_self_iff (t : Text) :
    quote t = t ↔ Numeral t ∨ IsWord t ∧ ∀ word ∈ keywords, ¬InAnyCase word t := by
  rw [← isBareWord_iff, or_comm, ← isBare_iff]
  constructor
  · intro h
    by_contra hbare
    have hquoted : quote t = '"' :: (escape false t ++ ['"']) := if_neg hbare
    -- Two quotes more than the text has characters.
    have hlength := congrArg List.length (hquoted.symm.trans h)
    have hle := length_le_escape false t
    simp only [List.length_cons, List.length_append, List.length_nil] at hlength
    omega
  · exact fun hbare => if_pos hbare

/-! ### Texts that are quoted already -/

theorem escape_escape (odd : Bool) (t : Text) : escape odd (escape odd t) = escape odd t := by
  induction t generalizing odd with
  | nil => cases odd <;> rfl
  | cons c t ih =>
    by_cases hc : c = '\\'
    · subst hc
      simp only [escape, if_true, ih]
    · by_cases hq : c = '"'
      · subst hq
        -- The backslash that is put before the quote keeps a second one away.
        cases odd <;> simp [escape, ih]
      · rw [escape_cons hc hq, escape_cons hc hq, ih]

/-- Nothing but backslashes is put into a text. -/
theorem backslash_mem_escape {odd : Bool} {t : Text} (h : escape odd t ≠ t) : '\\' ∈ escape odd t := by
  induction t generalizing odd with
  | nil =>
    cases odd with
    | false => exact absurd rfl h
    | true => exact List.mem_cons_self ..
  | cons c t ih =>
    by_cases hc : c = '\\'
    · subst hc
      exact List.mem_cons_self ..
    · by_cases hq : c = '"' ∧ odd = false
      · rw [escape, if_neg hc, if_pos hq]
        exact List.mem_cons_self ..
      · rw [escape, if_neg hc, if_neg hq] at h ⊢
        exact List.mem_cons_of_mem c (ih fun heq => h (by rw [heq]))

theorem isWordPart_of_isDigit {c : Char} (h : c.isDigit = true) : isWordPart c = true :=
  isWordPart_iff.2 (.inr (.inl h))

theorem isWordPart_or_of_unsigned {t : Text} (h : Unsigned t) : ∀ c ∈ t, isWordPart c = true ∨ c = '.' := by
  intro c hc
  cases h with
  | fraction hdigits =>
    rcases List.mem_cons.1 hc with rfl | hc
    · exact .inr rfl
    · exact .inl (isWordPart_of_isDigit (hdigits.2 c hc))
  | whole hdigits => exact .inl (isWordPart_of_isDigit (hdigits.2 c hc))
  | mixed hdigits hmore =>
    rcases List.mem_append.1 hc with hc | hc
    · exact .inl (isWordPart_of_isDigit (hdigits.2 c hc))
    · rcases List.mem_cons.1 hc with rfl | hc
      · exact .inr rfl
      · exact .inl (isWordPart_of_isDigit (hmore c hc))

/-- What stands bare has none of the characters that quoting is about. -/
theorem isWordPart_or_of_bare {t : Text} (h : (isPlain t || isNumeral t) = true) :
    ∀ c ∈ t, isWordPart c = true ∨ c = '.' ∨ c = '-' := by
  intro c hc
  rcases Bool.or_eq_true _ _ ▸ h with hplain | hnumeral
  · exact .inl (all_wordPart_of_isPlain hplain c hc)
  · cases isNumeral_iff.1 hnumeral with
    | plain hunsigned => exact (isWordPart_or_of_unsigned hunsigned c hc).imp_right .inl
    | minus hunsigned =>
      rcases List.mem_cons.1 hc with rfl | hc
      · exact .inr (.inr rfl)
      · exact (isWordPart_or_of_unsigned hunsigned c hc).imp_right .inl

theorem not_bare_escape {t : Text} (h : ¬(isPlain t || isNumeral t) = true) :
    ¬(isPlain (escape false t) || isNumeral (escape false t)) = true := by
  by_cases heq : escape false t = t
  · rwa [heq]
  · intro hbare
    have hback := isWordPart_or_of_bare hbare '\\' (backslash_mem_escape heq)
    exact absurd hback (by decide)

/-- **Text that has been escaped is not escaped again.** If a text is quoted to something between quotes, then what
stands between them is quoted to the same. -/
theorem quote_inside {t inside : Text} (h : quote t = '"' :: (inside ++ ['"'])) : quote inside = quote t := by
  have hbare : ¬(isPlain t || isNumeral t) = true := by
    intro hbare
    have hself : quote t = t := if_pos hbare
    have hquote := isWordPart_or_of_bare hbare '"' (by rw [← hself, h]; exact List.mem_cons_self ..)
    exact absurd hquote (by decide)
  have hquoted : quote t = '"' :: (escape false t ++ ['"']) := if_neg hbare
  have hinside : inside = escape false t :=
    List.append_cancel_right (List.cons.inj (h.symm.trans hquoted)).2
  rw [hinside, hquoted, quote, if_neg (not_bare_escape hbare), escape_escape]

/-- A quote after two backslashes, a quote after one, and a backslash at the end. -/
theorem quote_inside_runs :
    let inside := "a\\\\\\\"b\\\"c\\\\".toList
    quote "a\\\\\"b\\\"c\\".toList = '"' :: (inside ++ ['"']) ∧ quote inside = quote "a\\\\\"b\\\"c\\".toList := by
  intro inside
  have h : quote "a\\\\\"b\\\"c\\".toList = '"' :: (inside ++ ['"']) := by decide +kernel
  exact ⟨h, quote_inside h⟩

end Flowchart.Dot
