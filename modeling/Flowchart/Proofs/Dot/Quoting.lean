import Flowchart.Dot.Token
import Flowchart.Proofs.Text.Run

/-! One identifier, written and read.

A text stands in a document as a bare word, a numeral or a quoted text, and the
scanner has to find its end with the rest of the document behind it. `token?_quote`
says that it does: whatever the text is, exactly its own characters are taken and
the token is its settled form, as long as the rest cannot go on a word or a
numeral (`Ends`).

`settled` itself is pinned down by what it does to a run of backslashes: before a
quote the run becomes even by losing one, at the end of the text it becomes even by
gaining one, and anywhere else it stays. -/
namespace Flowchart.Dot

open Text

/-! ### What quoting does to backslashes -/

theorem settled_cons {c : Char} (hc : c ≠ '\\') (t : Text) : settled (c :: t) = c :: settled t := by
  rw [settled]
  all_goals
    intros
    contradiction

theorem settled_run_quote (n : Nat) (t : Text) :
    settled (List.replicate n '\\' ++ '"' :: t) = List.replicate (n - n % 2) '\\' ++ '"' :: settled t := by
  match n with
  | 0 => exact settled_cons (by decide) t
  | 1 => rfl
  | n + 2 =>
    rw [show n + 2 - (n + 2) % 2 = n - n % 2 + 2 by omega]
    simp only [List.replicate_succ, List.cons_append, settled, settled_run_quote n t]

theorem settled_run_end (n : Nat) :
    settled (List.replicate n '\\') = List.replicate (n + n % 2) '\\' := by
  match n with
  | 0 => rfl
  | 1 => rfl
  | n + 2 =>
    rw [show n + 2 + (n + 2) % 2 = n + n % 2 + 2 by omega]
    simp only [List.replicate_succ, settled, settled_run_end n]

theorem settled_run_cons {c : Char} (hc : c ≠ '\\') (hq : c ≠ '"') (n : Nat) (t : Text) :
    settled (List.replicate n '\\' ++ c :: t) = List.replicate n '\\' ++ c :: settled t := by
  match n with
  | 0 => exact settled_cons hc t
  | 1 =>
    show settled ('\\' :: c :: t) = '\\' :: c :: settled t
    rw [settled, settled_cons hc t] <;> simp_all
  | n + 2 => simp only [List.replicate_succ, List.cons_append, settled, settled_run_cons hc hq n t]

/-- A text without backslashes is read as it is. -/
theorem settled_of_not_mem {t : Text} (h : '\\' ∉ t) : settled t = t := by
  induction t with
  | nil => rfl
  | cons c t ih =>
    rw [List.mem_cons, not_or] at h
    rw [settled_cons (Ne.symm h.1), ih h.2]

theorem settled_of_all {p : Char → Bool} (hp : p '\\' = false) {t : Text} (h : ∀ c ∈ t, p c = true) :
    settled t = t := by
  refine settled_of_not_mem fun hmem => ?_
  rw [h _ hmem] at hp
  cases hp

/-! ### Quoted texts -/

/-- The backslash that stands between two characters does not matter to the one behind it, unless that
one is a quote or a backslash. -/
theorem escape_cons {c : Char} (hc : c ≠ '\\') (hq : c ≠ '"') (odd : Bool) (t : Text) :
    escape odd (c :: t) = c :: escape false t := by
  simp [escape, hc, hq]

theorem quoted?_cons {c : Char} (hc : c ≠ '\\') (hq : c ≠ '"') (t : Text) :
    quoted? (c :: t) = (quoted? t).map fun p => (c :: p.1, p.2) := by
  rw [quoted?]
  all_goals
    intros
    simp_all

theorem quoted?_backslash_cons {c : Char} (hc : c ≠ '\\') (hq : c ≠ '"') (t : Text) :
    quoted? ('\\' :: c :: t) = (quoted? (c :: t)).map fun p => ('\\' :: p.1, p.2) := by
  rw [quoted?]
  all_goals
    intros
    simp_all

/-- A quote closes the text exactly when the run of backslashes before it is even. Otherwise it belongs to the
value, without the last of those backslashes. -/
theorem quoted?_run_quote (n : Nat) (t : Text) :
    quoted? (List.replicate n '\\' ++ '"' :: t) =
      if n % 2 = 0 then some (List.replicate n '\\', t)
      else (quoted? t).map fun p => (List.replicate (n - 1) '\\' ++ '"' :: p.1, p.2) := by
  match n with
  | 0 => rfl
  | 1 => rfl
  | n + 2 =>
    simp only [List.replicate_succ, List.cons_append, quoted?, quoted?_run_quote n t]
    rw [show (n + 2) % 2 = n % 2 by omega]
    split
    · rfl
    · rw [show n + 2 - 1 = n - 1 + 2 by omega, Option.map_map]
      rfl

/-- Before any other character a run of backslashes is part of the value as it is. -/
theorem quoted?_run_cons {c : Char} (hc : c ≠ '\\') (hq : c ≠ '"') (n : Nat) (t : Text) :
    quoted? (List.replicate n '\\' ++ c :: t) =
      (quoted? t).map fun p => (List.replicate n '\\' ++ c :: p.1, p.2) := by
  match n with
  | 0 => exact quoted?_cons hc hq t
  | 1 =>
    show quoted? ('\\' :: c :: t) = _
    rw [quoted?_backslash_cons hc hq, quoted?_cons hc hq, Option.map_map]
    rfl
  | n + 2 =>
    simp only [List.replicate_succ, List.cons_append, quoted?, quoted?_run_cons hc hq n t, Option.map_map]
    rfl

/-- The inside of a quoted text is read up to the closing quote and no further. -/
theorem quoted?_escape (t rest : Text) : quoted? (escape false t ++ '"' :: rest) = some (settled t, rest) := by
  fun_induction settled t with
  | case1 => rfl
  | case2 => rfl
  | case3 t ih => simp [escape, quoted?, ih]
  | case4 t ih => simp [escape, quoted?, ih]
  | case5 c t hend hpair hquote ih =>
    by_cases hc : c = '\\'
    · subst hc
      -- The backslash stands before a character that it has no effect on.
      cases t with
      | nil => exact absurd rfl (hend rfl)
      | cons d t =>
        have hd : d ≠ '\\' := fun h => hpair t rfl (by rw [h])
        have hq : d ≠ '"' := fun h => hquote t rfl (by rw [h])
        rw [escape_cons hd hq] at ih
        simp only [escape, if_pos, Bool.not_false, if_neg hd, hq, false_and, if_false, List.cons_append] at ih ⊢
        rw [quoted?_backslash_cons hd hq, ih]
        rfl
    · by_cases hq : c = '"'
      · subst hq
        simp [escape, quoted?, ih]
      · rw [escape_cons hc hq, List.cons_append, quoted?_cons hc hq, ih]
        rfl

/-! ### Words and numerals -/

/-- What may stand behind an identifier: nothing that a word or a numeral could go on with. -/
def Ends (rest : Text) : Prop := Stops (fun c => isWordPart c || c == '.') rest

theorem Ends.word {rest : Text} (h : Ends rest) : Stops isWordPart rest :=
  h.mono fun c hc => by simp [hc]

theorem Ends.digit {rest : Text} (h : Ends rest) : Stops Char.isDigit rest :=
  h.mono fun c hc => by simp [isWordPart, Char.isAlphanum, hc]

theorem Ends.point {rest : Text} (h : Ends rest) (behind : Text) : rest ≠ '.' :: behind := by
  rintro rfl
  exact absurd (stops_cons.1 h) (by decide)

theorem isWordPart_of_isWordStart {c : Char} (h : isWordStart c = true) : isWordPart c = true := by
  rw [isWordStart, Bool.or_eq_true] at h
  rw [isWordPart, Bool.or_eq_true, Char.isAlphanum, Bool.or_eq_true]
  exact h.imp_left .inl

theorem all_wordPart_of_isPlain {t : Text} (h : isPlain t = true) : ∀ c ∈ t, isWordPart c = true := by
  cases t with
  | nil => cases h
  | cons c t =>
    simp only [isPlain, Bool.and_eq_true, List.all_eq_true] at h
    intro d hd
    rcases List.mem_cons.1 hd with rfl | hd
    · exact isWordPart_of_isWordStart h.1.1
    · exact h.1.2 d hd

/-- The characters that are tokens or start a quoted text. -/
def marks : Text := ['\x7b', '\x7d', '[', ']', '=', '"']

/-- A text that starts with no mark and no arrow starts with a word or a numeral. -/
theorem token?_bare {c : Char} {t : Text} (hmark : c ∉ marks) (harrow : ∀ rest, c :: t ≠ '-' :: '>' :: rest) :
    token? (c :: t) =
      if isWordStart c then some (.ofWord (c :: t.takeWhile isWordPart), t.dropWhile isWordPart)
      else (numeral? (c :: t)).map fun p => (.id p.1, p.2) := by
  rw [token?]
  case x_6 =>
    intro rest hc ht
    exact harrow rest (by rw [hc, ht])
  all_goals
    rintro rfl
    exact hmark (by decide)

theorem token?_of_wordStart {c : Char} (hc : isWordStart c = true) (t : Text) :
    token? (c :: t) = some (.ofWord (c :: t.takeWhile isWordPart), t.dropWhile isWordPart) := by
  rw [token?_bare, if_pos hc]
  · intro hmem
    have hmarks : (marks.all fun d => !isWordStart d) = true := rfl
    have hnot := List.all_eq_true.1 hmarks c hmem
    rw [hc] at hnot
    cases hnot
  · intro rest h
    rw [(List.cons.inj h).1] at hc
    exact absurd hc (by decide)

theorem token?_plain {t rest : Text} (ht : isPlain t = true) (hrest : Ends rest) :
    token? (t ++ rest) = some (.id t, rest) := by
  cases t with
  | nil => cases ht
  | cons c t =>
    have hall := all_wordPart_of_isPlain ht
    simp only [isPlain, Bool.and_eq_true, Bool.not_eq_true'] at ht
    have hpart : ∀ d ∈ t, isWordPart d = true := fun d hd => hall d (List.mem_cons_of_mem c hd)
    rw [List.cons_append, token?_of_wordStart ht.1.1, takeWhile_run hpart hrest.word,
      dropWhile_run hpart hrest.word, Token.ofWord, ht.2]
    rfl

/-- A numeral without a sign: digits, or digits around one point. -/
def isUnsigned (t : Text) : Bool :=
  match cut? '.' t with
  | none => !t.isEmpty && t.all Char.isDigit
  | some (whole, fraction) =>
    !(whole.isEmpty && fraction.isEmpty) && whole.all Char.isDigit && fraction.all Char.isDigit

theorem unsigned?_append {t rest : Text} (ht : isUnsigned t = true) (hrest : Ends rest) :
    unsigned? (t ++ rest) = some (t, rest) := by
  unfold isUnsigned at ht
  split at ht
  · simp only [Bool.and_eq_true, Bool.not_eq_true', List.isEmpty_eq_false_iff, List.all_eq_true] at ht
    have hwhole := takeWhile_run ht.2 hrest.digit
    have hbehind := dropWhile_run ht.2 hrest.digit
    unfold unsigned?
    simp only [hwhole, hbehind]
    split
    · exact absurd rfl (hrest.point _)
    · rw [if_neg ht.1]
  · rename_i whole fraction hcut
    obtain ⟨rfl, -⟩ := cut?_eq_some.1 hcut
    simp only [Bool.and_eq_true, Bool.not_eq_true', List.all_eq_true] at ht
    have hpoint : Stops Char.isDigit ('.' :: (fraction ++ rest)) := stops_cons.2 (by decide)
    have hsome : ¬(whole = [] ∧ fraction = []) := by
      rintro ⟨rfl, rfl⟩
      exact absurd ht.1.1 (by decide)
    unfold unsigned?
    rw [List.append_assoc, List.cons_append]
    simp only [takeWhile_run ht.1.2 hpoint, dropWhile_run ht.1.2 hpoint, takeWhile_run ht.2 hrest.digit,
      dropWhile_run ht.2 hrest.digit, if_neg hsome]

theorem isNumeral_minus (digits : Text) : isNumeral ('-' :: digits) = isUnsigned digits := rfl

theorem isNumeral_unsigned {t : Text} (h : ∀ digits, t ≠ '-' :: digits) : isNumeral t = isUnsigned t := by
  have hsign : (['-'].isPrefixOf? t).getD t = t := by
    cases t with
    | nil => rfl
    | cons c t =>
      have hc : ('-' == c) = false := beq_eq_false_iff_ne.2 fun hc => h t (by rw [hc])
      show (if '-' == c then some t else none).getD (c :: t) = c :: t
      rw [hc]
      rfl
  show isUnsigned ((['-'].isPrefixOf? t).getD t) = isUnsigned t
  rw [hsign]

/-- A numeral without a sign starts with a digit or a point. -/
theorem head_of_isUnsigned {t : Text} (h : isUnsigned t = true) :
    ∃ c rest, t = c :: rest ∧ (c.isDigit = true ∨ c = '.') := by
  unfold isUnsigned at h
  split at h
  · simp only [Bool.and_eq_true, Bool.not_eq_true', List.isEmpty_eq_false_iff, List.all_eq_true] at h
    obtain ⟨c, rest, rfl⟩ := List.exists_cons_of_ne_nil h.1
    exact ⟨c, rest, rfl, .inl (h.2 c (List.mem_cons_self ..))⟩
  · rename_i whole fraction hcut
    obtain ⟨rfl, -⟩ := cut?_eq_some.1 hcut
    simp only [Bool.and_eq_true, List.all_eq_true] at h
    cases whole with
    | nil => exact ⟨'.', fraction, rfl, .inr rfl⟩
    | cons c whole => exact ⟨c, _, rfl, .inl (h.1.2 c (List.mem_cons_self ..))⟩

theorem numeral?_append {t rest : Text} (ht : isNumeral t = true) (hrest : Ends rest) :
    numeral? (t ++ rest) = some (t, rest) := by
  by_cases hsign : ∃ digits, t = '-' :: digits
  · obtain ⟨digits, rfl⟩ := hsign
    rw [isNumeral_minus] at ht
    simp only [List.cons_append, numeral?, unsigned?_append ht hrest, Option.map_some]
  · rw [isNumeral_unsigned fun digits h => hsign ⟨digits, h⟩] at ht
    obtain ⟨c, t, rfl, hc⟩ := head_of_isUnsigned ht
    have hne : c ≠ '-' := fun h => hsign ⟨t, by rw [h]⟩
    rw [← unsigned?_append ht hrest, List.cons_append, numeral?]
    intro digits heq
    exact hne (List.cons.inj heq).1

/-- What `token?` does with a text that starts like a numeral. -/
theorem token?_of_numeralStart {c : Char} (hc : c.isDigit = true ∨ c = '.' ∨ c = '-') {t : Text}
    (harrow : ∀ rest, c :: t ≠ '-' :: '>' :: rest) :
    token? (c :: t) = (numeral? (c :: t)).map fun p => (.id p.1, p.2) := by
  have hword : isWordStart c = false := by
    rcases hc with hc | rfl | rfl
    · have hunder : (c == '_') = false := beq_eq_false_iff_ne.2 fun hc' => absurd (hc' ▸ hc) (by decide)
      have hdigit : (decide (48 ≤ c.val) && decide (c.val ≤ 57)) = true := hc
      show ((decide (65 ≤ c.val ∧ c.val ≤ 90) || (decide (97 ≤ c.val) && decide (c.val ≤ 122))) || c == '_') = false
      rw [hunder]
      grind
    · decide
    · decide
  have hmark : c ∉ marks := by
    intro hmem
    have hmarks : (marks.all fun d => !(d.isDigit || d == '.' || d == '-')) = true := rfl
    have hnot := List.all_eq_true.1 hmarks c hmem
    simp only [Bool.not_eq_true', Bool.or_eq_false_iff, beq_eq_false_iff_ne] at hnot
    rcases hc with hc | hc | hc
    · rw [hnot.1.1] at hc
      cases hc
    · exact hnot.1.2 hc
    · exact hnot.2 hc
  rw [token?_bare hmark harrow, hword]
  rfl

theorem numeralStart_of_isNumeral {t : Text} (h : isNumeral t = true) :
    ∃ c rest, t = c :: rest ∧ (c.isDigit = true ∨ c = '.' ∨ c = '-') ∧
      ∀ more behind, c :: (rest ++ more) ≠ '-' :: '>' :: behind := by
  by_cases hsign : ∃ digits, t = '-' :: digits
  · obtain ⟨digits, rfl⟩ := hsign
    rw [isNumeral_minus] at h
    obtain ⟨c, digits, rfl, hc⟩ := head_of_isUnsigned h
    refine ⟨'-', c :: digits, rfl, .inr (.inr rfl), fun more behind heq => ?_⟩
    rw [(List.cons.inj (List.cons.inj heq).2).1] at hc
    exact absurd hc (by decide)
  · rw [isNumeral_unsigned fun digits h => hsign ⟨digits, h⟩] at h
    obtain ⟨c, t, rfl, hc⟩ := head_of_isUnsigned h
    refine ⟨c, t, rfl, hc.imp_right .inl, fun more behind heq => ?_⟩
    exact hsign ⟨t, by rw [(List.cons.inj heq).1]⟩

theorem token?_numeral {t rest : Text} (ht : isNumeral t = true) (hrest : Ends rest) :
    token? (t ++ rest) = some (.id t, rest) := by
  have hread := numeral?_append ht hrest
  obtain ⟨c, t, rfl, hc, harrow⟩ := numeralStart_of_isNumeral ht
  rw [List.cons_append] at hread ⊢
  rw [token?_of_numeralStart hc (harrow rest), hread]
  rfl

/-! ### Any text -/

theorem not_mem_backslash_of_isUnsigned {t : Text} (h : isUnsigned t = true) : '\\' ∉ t := by
  unfold isUnsigned at h
  split at h
  · simp only [Bool.and_eq_true, List.all_eq_true] at h
    intro hmem
    exact absurd (h.2 _ hmem) (by decide)
  · rename_i whole fraction hcut
    obtain ⟨rfl, -⟩ := cut?_eq_some.1 hcut
    simp only [Bool.and_eq_true, List.all_eq_true] at h
    rw [List.mem_append, List.mem_cons]
    rintro (hmem | hmem | hmem)
    · exact absurd (h.1.2 _ hmem) (by decide)
    · exact absurd hmem (by decide)
    · exact absurd (h.2 _ hmem) (by decide)

/-- No bare word and no numeral has a backslash in it. -/
theorem settled_of_bare {t : Text} (h : (isPlain t || isNumeral t) = true) : settled t = t := by
  rw [Bool.or_eq_true] at h
  rcases h with h | h
  · exact settled_of_all (by decide) (all_wordPart_of_isPlain h)
  · by_cases hsign : ∃ digits, t = '-' :: digits
    · obtain ⟨digits, rfl⟩ := hsign
      rw [isNumeral_minus] at h
      rw [settled_cons (by decide), settled_of_not_mem (not_mem_backslash_of_isUnsigned h)]
    · rw [isNumeral_unsigned fun digits h => hsign ⟨digits, h⟩] at h
      exact settled_of_not_mem (not_mem_backslash_of_isUnsigned h)

/-- **A text that is quoted is read as one identifier**, its own characters and no more. -/
theorem token?_quote {rest : Text} (t : Text) (hrest : Ends rest) :
    token? (quote t ++ rest) = some (.id (settled t), rest) := by
  unfold quote
  split
  · rename_i hbare
    rw [settled_of_bare hbare]
    rcases Bool.or_eq_true _ _ ▸ hbare with hplain | hnumeral
    · exact token?_plain hplain hrest
    · exact token?_numeral hnumeral hrest
  · rw [List.cons_append, List.append_assoc]
    show (quoted? (escape false t ++ '"' :: rest)).map _ = _
    rw [quoted?_escape]
    rfl

end Flowchart.Dot
