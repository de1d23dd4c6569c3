import Flowchart.Proofs.Text.Run
import Flowchart.Proofs.Toml.Tree

/-! Values as they are written.

A value at the end of a line can be spelled as a basic string, with an escape for any
character of it, as a number in decimal digits, or as a truth value (`Spells`). What is
spelled is read as the value that it is spelled for, up to the end of the line:
`exists_value?_of_spells`.

What a number starts with, it shares with dates and floats. These are tried first, and
fail because digits go on up to the end of the line (`datetime?_digits`, `float?_decimal`). -/
namespace Flowchart.Toml

open Text

/-! ### Digits -/

theorem digitValue_digitChar : ∀ d < 16, digitValue (Nat.digitChar d) = d := by
  decide

/-- The digits of a number stand for the number. -/
theorem natOfDigits_toDigits {base : Nat} (hbase : 1 < base) (hle : base ≤ 16) (n : Nat) :
    natOfDigits base (Nat.toDigits base n) = n := by
  induction n using Nat.strongRecOn with
  | ind n ih =>
    rw [Nat.toDigits_eq_if hbase]
    split
    · rename_i hlt
      rw [← List.nil_append [_], natOfDigits_concat, natOfDigits_nil, Nat.zero_mul, Nat.zero_add,
        digitValue_digitChar n (by omega)]
    · rename_i hge
      have hmod := Nat.mod_lt n (by omega : 0 < base)
      rw [natOfDigits_concat, ih (n / base) (Nat.div_lt_self (by omega) hbase), digitValue_digitChar _ (by omega),
        Nat.div_add_mod']

theorem isDigit_of_mem_decimal {n : Nat} {c : Char} (h : c ∈ decimal n) : c.isDigit = true :=
  Nat.isDigit_of_mem_toDigits (by decide) (by decide) h

theorem exists_decimal_cons (n : Nat) : ∃ c t, decimal n = c :: t ∧ c.isDigit = true := by
  have hne : decimal n ≠ [] := Nat.toDigits_ne_nil
  obtain ⟨c, t, ht⟩ := List.exists_cons_of_ne_nil hne
  refine ⟨c, t, ht, isDigit_of_mem_decimal (n := n) ?_⟩
  rw [ht]
  exact List.mem_cons_self ..

theorem ne_of_isDigit {c d : Char} (hc : c.isDigit = true) (hd : d.isDigit = false) : c ≠ d := by
  rintro rfl
  rw [hc] at hd
  cases hd

/-- The digits of a number start with zero only if the number is zero. -/
theorem head_decimal_ne {n : Nat} (h : 0 < n) : ∃ c t, decimal n = c :: t ∧ c ≠ '0' := by
  induction n using Nat.strongRecOn with
  | ind n ih =>
    rw [decimal, Nat.toDigits_eq_if (by decide)]
    split
    · rename_i hlt
      have hdigit : ∀ d < 10, 0 < d → Nat.digitChar d ≠ '0' := by decide
      exact ⟨_, [], rfl, hdigit n hlt h⟩
    · obtain ⟨c, t, ht, hc⟩ := ih (n / 10) (by omega) (by omega)
      exact ⟨c, t ++ [(n % 10).digitChar], by rw [← decimal, ht]; rfl, hc⟩

section Digits
variable {digits rest : Text} (h : ∀ c ∈ digits, c.isDigit = true)
include h

theorem moreDigits_run : moreDigits Char.isDigit (digits ++ '\n' :: rest) = (digits, '\n' :: rest) := by
  induction digits with
  | nil => rfl
  | cons c digits ih =>
    have hc := h c (List.mem_cons_self ..)
    have hne : c ≠ '_' := ne_of_isDigit hc (by decide)
    rw [List.cons_append, moreDigits, if_pos hc, ih fun d hd => h d (List.mem_cons_of_mem c hd)]
    rintro _ _ rfl
    exact absurd rfl hne

/-- No character but a digit or the line end comes next. -/
theorem isPrefixOf?_digits {c : Char} (hc : c.isDigit = false) (hne : c ≠ '\n') :
    [c].isPrefixOf? (digits ++ '\n' :: rest) = none := by
  cases digits with
  | nil => simp [List.isPrefixOf?, hne]
  | cons d digits =>
    have hd : d ≠ c := ne_of_isDigit (h d (List.mem_cons_self ..)) hc
    simp [List.isPrefixOf?, hd.symm]

/-- Behind some digits come more digits and the line end. -/
theorem fixedDigits?_digits {n : Nat} {taken left : Text}
    (htake : fixedDigits? n (digits ++ '\n' :: rest) = some (taken, left)) :
    ∃ more, (∀ c ∈ more, c.isDigit = true) ∧ left = more ++ '\n' :: rest := by
  induction n generalizing digits taken with
  | zero =>
    cases htake
    exact ⟨digits, h, rfl⟩
  | succ n ih =>
    cases digits with
    | nil => cases htake
    | cons c digits =>
      rw [List.cons_append, fixedDigits?, if_pos (h c (List.mem_cons_self ..))] at htake
      obtain ⟨p, hp, ⟨⟩⟩ := Option.map_eq_some_iff.1 htake
      exact ih (fun d hd => h d (List.mem_cons_of_mem c hd)) hp

theorem ranged?_digits {width low high n : Nat} {left : Text}
    (htake : ranged? width low high (digits ++ '\n' :: rest) = some (n, left)) :
    ∃ more, (∀ c ∈ more, c.isDigit = true) ∧ left = more ++ '\n' :: rest := by
  obtain ⟨p, hp, htake⟩ := Option.bind_eq_some_iff.1 htake
  dsimp only at htake
  split at htake
  · cases htake
    exact fixedDigits?_digits h hp
  · cases htake

theorem date?_digits : date? (digits ++ '\n' :: rest) = none := by
  rw [date?, Option.bind_eq_bind, Option.bind_eq_none_iff]
  rintro ⟨year, left⟩ hyear
  obtain ⟨more, hmore, rfl⟩ := ranged?_digits h hyear
  dsimp only
  rw [isPrefixOf?_digits hmore (by decide) (by decide)]
  rfl

theorem time?_digits : time? (digits ++ '\n' :: rest) = none := by
  rw [time?, Option.bind_eq_bind, Option.bind_eq_none_iff]
  rintro ⟨hour, left⟩ hhour
  obtain ⟨more, hmore, rfl⟩ := ranged?_digits h hhour
  dsimp only
  rw [isPrefixOf?_digits hmore (by decide) (by decide)]
  rfl

theorem datetime?_digits : datetime? (digits ++ '\n' :: rest) = none := by
  rw [datetime?, date?_digits h]
  exact time?_digits h

end Digits

/-! ### Numbers -/

theorem sign_of_isDigit {c : Char} (h : c.isDigit = true) (rest : Text) : sign (c :: rest) = (false, c :: rest) := by
  unfold sign
  split
  · rename_i heq
    cases heq
    cases h
  · rename_i heq
    cases heq
    cases h
  · rfl

/-- The digits of a number, zero apart, start with a digit that is not zero. -/
theorem exists_decimal {n : Nat} (h : 0 < n) :
    ∃ c t, decimal n = c :: t ∧ c ≠ '0' ∧ c.isDigit = true ∧ ∀ d ∈ t, d.isDigit = true := by
  obtain ⟨c, t, ht, hne⟩ := head_decimal_ne h
  have hdigits : ∀ d ∈ c :: t, d.isDigit = true := fun d hd => isDigit_of_mem_decimal (ht ▸ hd)
  exact ⟨c, t, ht, hne, List.forall_mem_cons.1 hdigits⟩

section Numbers
variable (n : Nat) (rest : Text)

theorem decimal?_decimal : decimal? (decimal n ++ '\n' :: rest) = some (false, decimal n, '\n' :: rest) := by
  rcases Nat.eq_zero_or_pos n with rfl | hpos
  · rfl
  · obtain ⟨c, t, ht, hne, hc, hdigits⟩ := exists_decimal hpos
    rw [ht, List.cons_append, decimal?, sign_of_isDigit hc]
    dsimp only
    split
    · rename_i heq
      cases heq
      exact absurd rfl hne
    · rw [digits?, if_pos hc, moreDigits_run hdigits]
      rfl

theorem float?_decimal : float? (decimal n ++ '\n' :: rest) = none := by
  have hfinite : finite? (decimal n ++ '\n' :: rest) = none := by
    rw [finite?, decimal?_decimal]
    rfl
  have hspecial : special? (decimal n ++ '\n' :: rest) = none := by
    rcases Nat.eq_zero_or_pos n with rfl | hpos
    · rfl
    · obtain ⟨c, t, ht, -, hc, -⟩ := exists_decimal hpos
      rw [ht, List.cons_append, special?, sign_of_isDigit hc]
      dsimp only
      split
      · rename_i heq
        obtain ⟨rfl, -⟩ := List.cons.inj heq
        cases hc
      · rename_i heq
        obtain ⟨rfl, -⟩ := List.cons.inj heq
        cases hc
      · rfl
  rw [float?, hfinite, hspecial]
  rfl

theorem integer?_decimal (h : n < Nat.pow 2 63) :
    integer? (decimal n ++ '\n' :: rest) = some ((n : Int), '\n' :: rest) := by
  have hdecimal : integer? (decimal n ++ '\n' :: rest) =
      (decimal? (decimal n ++ '\n' :: rest)).bind fun p => (fitted? p.1 (natOfDigits 10 p.2.1)).bind fun i =>
        some (i, p.2.2) := by
    rcases Nat.eq_zero_or_pos n with rfl | hpos
    · rfl
    · -- the marks of other bases start with zero
      obtain ⟨c, t, ht, hne, -, -⟩ := exists_decimal hpos
      rw [ht, List.cons_append, integer?]
      · rfl
      all_goals
        exact fun _ heq => hne (List.cons.inj heq).1
  have hfitted : fitted? false n = some (n : Int) := by
    rw [fitted?]
    exact if_pos h
  rw [hdecimal, decimal?_decimal, Option.bind_some, decimal, natOfDigits_toDigits (by decide) (by decide), hfitted]
  rfl

end Numbers

/-! ### Strings -/

/-- What stands behind a backslash for a character. -/
inductive Escapes : Text → Char → Prop where
  | backspace : Escapes ['b'] '\x08'
  | tab : Escapes ['t'] '\t'
  | feed : Escapes ['n'] '\n'
  | formFeed : Escapes ['f'] '\x0c'
  | carriageReturn : Escapes ['r'] '\r'
  | quote : Escapes ['"'] '"'
  | backslash : Escapes ['\\'] '\\'
  | short {digits : Text} {c : Char} : digits.length = 4 → digits.all isHexDigit = true →
    natOfDigits 16 digits = c.toNat → Escapes ('u' :: digits) c
  | long {digits : Text} {c : Char} : digits.length = 8 → digits.all isHexDigit = true →
    natOfDigits 16 digits = c.toNat → Escapes ('U' :: digits) c

/-- What stands between the quotes of a basic string for a text. -/
inductive Inside : Text → Text → Prop where
  | nil : Inside [] []
  | shown {c : Char} {t u : Text} : isShown c = true → c ≠ '"' → c ≠ '\\' → Inside t u → Inside (c :: t) (c :: u)
  | escaped {e : Text} {c : Char} {t u : Text} : Escapes e c → Inside t u → Inside ('\\' :: (e ++ t)) (c :: u)

theorem charOf?_toNat (c : Char) : charOf? c.toNat = some c := by
  have hvalid : c.toNat.isValidChar := c.valid
  rw [charOf?, dif_pos hvalid]
  rfl

theorem hexChar?_append {digits : Text} {n : Nat} {c : Char} (hlength : digits.length = n)
    (hdigits : digits.all isHexDigit = true) (hvalue : natOfDigits 16 digits = c.toNat) (rest : Text) :
    hexChar? n (digits ++ rest) = some (c, rest) := by
  subst hlength
  rw [hexChar?, List.take_left, List.drop_left, if_pos ⟨rfl, hdigits⟩, hvalue, charOf?_toNat]
  rfl

theorem escape?_append {e : Text} {c : Char} (h : Escapes e c) (rest : Text) :
    escape? (e ++ rest) = some (c, rest) := by
  cases h with
  | short hlength hdigits hvalue => exact hexChar?_append hlength hdigits hvalue rest
  | long hlength hdigits hvalue => exact hexChar?_append hlength hdigits hvalue rest
  | _ => rfl

/-- What stands between the quotes is read as the text that it stands for. -/
theorem basic?_append {t u : Text} (h : Inside t u) (rest : Text) {fuel : Nat} (hfuel : t.length < fuel) :
    basic? fuel (t ++ '"' :: rest) = some (u, rest) := by
  induction h generalizing fuel with
  | nil =>
    obtain ⟨fuel, rfl⟩ := Nat.exists_eq_add_one_of_ne_zero (Nat.ne_of_gt hfuel)
    rfl
  | shown hshown hquote hbackslash _ ih =>
    obtain ⟨fuel, rfl⟩ := Nat.exists_eq_add_one_of_ne_zero (Nat.ne_zero_of_lt hfuel)
    rw [List.cons_append, basic?, if_neg hquote, if_neg hbackslash, if_pos hshown, ih (Nat.lt_of_succ_lt_succ hfuel)]
    rfl
  | @escaped e c t u he _ ih =>
    obtain ⟨fuel, rfl⟩ := Nat.exists_eq_add_one_of_ne_zero (Nat.ne_zero_of_lt hfuel)
    rw [List.length_cons, List.length_append] at hfuel
    rw [List.cons_append, List.append_assoc, basic?, if_neg (by decide), if_pos rfl, escape?_append he]
    show ((basic? fuel (t ++ '"' :: rest)).bind fun p => _) = _
    rw [ih (by omega)]
    rfl

/-- A basic string at the end of a line does not start one of several lines. -/
theorem string?_basic {t u : Text} (h : Inside t u) (rest : Text) :
    string? ('"' :: (t ++ '"' :: '\n' :: rest)) = some (u, '\n' :: rest) := by
  have hquotes : ∀ more, t ++ '"' :: '\n' :: rest ≠ '"' :: '"' :: more := by
    rintro more heq
    cases h with
    | nil => cases heq
    | shown _ hquote => exact hquote (List.cons.inj heq).1
    | escaped => cases heq
  rw [string?]
  · refine basic?_append h _ ?_
    rw [List.length_append]
    omega
  · exact hquotes

/-! ### Values -/

/-- What is written for a value at the end of a line. -/
inductive Spells : Text → Tree → Prop where
  | string {t u : Text} : Inside t u → Spells ('"' :: (t ++ ['"'])) (.string u)
  | integer {n : Nat} : n < Nat.pow 2 63 → Spells (decimal n) (.integer n)
  | yes : Spells "true".toList (.boolean true)
  | no : Spells "false".toList (.boolean false)

theorem value?_eq_scalar? {c : Char} (harray : c ≠ '[') (htable : c ≠ '\x7b') (size depth : Nat) (rest : Text) :
    value? size depth (c :: rest) = scalar? size (c :: rest) := by
  rw [value?]
  · exact fun _ _ heq => harray (List.cons.inj heq).1
  · exact fun _ _ heq => htable (List.cons.inj heq).1
  · exact fun _ _ _ heq => harray (List.cons.inj heq).1
  · exact fun _ _ _ heq => htable (List.cons.inj heq).1

/-- What is spelled starts with a character that starts no array and no table, and is no blank. -/
theorem exists_cons_of_spells {t : Text} {tree : Tree} (h : Spells t tree) :
    ∃ c more, t = c :: more ∧ isSpace c = false ∧ c ≠ '[' ∧ c ≠ '\x7b' := by
  cases h with
  | string => exact ⟨_, _, rfl, by decide, by decide, by decide⟩
  | @integer n =>
    obtain ⟨c, more, hmore, hc⟩ := exists_decimal_cons n
    have hne (d : Char) : d.isDigit = false → c ≠ d := ne_of_isDigit hc
    refine ⟨c, more, hmore, ?_, hne _ (by decide), hne _ (by decide)⟩
    simp [isSpace, hne ' ' (by decide), hne '\t' (by decide)]
  | yes => exact ⟨_, _, rfl, by decide, by decide, by decide⟩
  | no => exact ⟨_, _, rfl, by decide, by decide, by decide⟩

theorem exists_scalar?_of_spells {t : Text} {tree : Tree} (h : Spells t tree) (size : Nat) (rest : Text) :
    ∃ v, scalar? size (t ++ '\n' :: rest) = some (v, '\n' :: rest) ∧ v.tree = tree := by
  cases h with
  | string h =>
    rw [List.cons_append, List.append_assoc, List.singleton_append, scalar?, if_pos (.inl rfl), string?_basic h]
    exact ⟨_, rfl, rfl⟩
  | @integer n h =>
    have hdatetime : datetime? (decimal n ++ '\n' :: rest) = none := datetime?_digits fun _ => isDigit_of_mem_decimal
    have hfloat := float?_decimal n rest
    have hinteger := integer?_decimal n rest h
    obtain ⟨c, more, hmore, hc⟩ := exists_decimal_cons n
    have hne (d : Char) : d.isDigit = false → c ≠ d := ne_of_isDigit hc
    rw [hmore, List.cons_append] at hdatetime hfloat hinteger ⊢
    rw [scalar?, if_neg (not_or.2 ⟨hne _ (by decide), hne _ (by decide)⟩), if_neg (hne _ (by decide)),
      if_neg (hne _ (by decide)), hdatetime, hfloat, hinteger]
    exact ⟨_, rfl, rfl⟩
  | yes => exact ⟨_, rfl, rfl⟩
  | no => exact ⟨_, rfl, rfl⟩

/-- **A value is read as it is spelled.** -/
theorem exists_value?_of_spells {t : Text} {tree : Tree} (h : Spells t tree) (size depth : Nat) (rest : Text) :
    ∃ v, value? size depth (t ++ '\n' :: rest) = some (v, '\n' :: rest) ∧ v.tree = tree := by
  have hvalue : value? size depth (t ++ '\n' :: rest) = scalar? size (t ++ '\n' :: rest) := by
    obtain ⟨c, more, rfl, -, harray, htable⟩ := exists_cons_of_spells h
    exact value?_eq_scalar? harray htable size depth _
  rw [hvalue]
  exact exists_scalar?_of_spells h size rest

/-! ### Quoting -/

theorem escapes_hexadecimal {c : Char} (h : c.toNat < 128) : Escapes ('u' :: hexadecimal 4 c.toNat) c := by
  have hall : ∀ n < 128, (hexadecimal 4 n).length = 4 ∧ (hexadecimal 4 n).all isHexDigit = true ∧
      natOfDigits 16 (hexadecimal 4 n) = n := by decide
  obtain ⟨hlength, hdigits, hvalue⟩ := hall c.toNat h
  exact .short hlength hdigits hvalue

/-- What a text is quoted by stands for it. -/
theorem inside_flatMap_escape (t : Text) : Inside (t.flatMap escape) t := by
  induction t with
  | nil => exact .nil
  | cons c t ih =>
    rw [List.flatMap_cons, escape]
    split
    · rename_i h
      rcases h with rfl | rfl
      · exact .escaped .quote ih
      · exact .escaped .backslash ih
    · rename_i hplain
      rw [not_or] at hplain
      split
      · rename_i hcontrol
        refine .escaped (escapes_hexadecimal ?_) ih
        rcases hcontrol with hlt | rfl
        · exact Nat.lt_trans (Char.lt_def.1 hlt) (by decide)
        · decide
      · rename_i hcontrol
        rw [not_or, Char.not_lt] at hcontrol
        refine .shown ?_ hplain.1 hplain.2 ih
        simp [isShown, hcontrol.1, hcontrol.2]

theorem spells_quote (t : Text) : Spells (quote t) (.string t) :=
  .string (inside_flatMap_escape t)

end Flowchart.Toml
