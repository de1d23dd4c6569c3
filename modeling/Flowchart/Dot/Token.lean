import Flowchart.Dot.Document

/-!
Tokens of the DOT language. Blanks divide tokens; braces, brackets, the equals sign and the arrow stand for
themselves; an identifier is a bare word, a numeral, or a text between double quotes, and a bare word that is
a keyword is a token of its own. A token is as long as it can be.

Quoting keeps backslashes, so a quoted text is not always read back as it was: `settled` says what it is
read as.
-/

namespace Flowchart.Dot

inductive Token where
  | openBrace
  | closeBrace
  | openBracket
  | closeBracket
  | equals
  | arrow
  | keyword (word : Text)
  | id (value : Text)
deriving DecidableEq, Repr

/-! ### Scanning -/

/-- Whether a character divides tokens. -/
def isSpace (c : Char) : Bool := c == ' ' || c == '\t' || c == '\n' || c == '\r'

/-- The value of a text up to the quote that closes it, and what follows that quote. A backslash goes
together with a quote or a backslash behind it; only the one before a quote is no part of the value. -/
def quoted? : Text → Option (Text × Text)
  | [] => none
  | '"' :: rest => some ([], rest)
  | '\\' :: '"' :: rest => (quoted? rest).map fun p => ('"' :: p.1, p.2)
  | '\\' :: '\\' :: rest => (quoted? rest).map fun p => ('\\' :: '\\' :: p.1, p.2)
  | c :: rest => (quoted? rest).map fun p => (c :: p.1, p.2)

/-- The token of a bare word. -/
def Token.ofWord (word : Text) : Token := if isKeyword word then .keyword (word.map Char.toLower) else .id word

/-- The numeral without a sign that a text starts with, and what follows it. -/
def unsigned? (t : Text) : Option (Text × Text) :=
  let whole := t.takeWhile Char.isDigit
  match t.dropWhile Char.isDigit with
  | '.' :: rest =>
    let fraction := rest.takeWhile Char.isDigit
    if whole = [] ∧ fraction = [] then none
    else some (whole ++ '.' :: fraction, rest.dropWhile Char.isDigit)
  | rest => if whole = [] then none else some (whole, rest)

/-- The numeral that a text starts with, and what follows it. -/
def numeral? : Text → Option (Text × Text)
  | '-' :: rest => (unsigned? rest).map fun p => ('-' :: p.1, p.2)
  | t => unsigned? t

/-- The token that a text starts with, and what follows it. -/
def token? : Text → Option (Token × Text)
  | [] => none
  | '\x7b' :: rest => some (.openBrace, rest)
  | '\x7d' :: rest => some (.closeBrace, rest)
  | '[' :: rest => some (.openBracket, rest)
  | ']' :: rest => some (.closeBracket, rest)
  | '=' :: rest => some (.equals, rest)
  | '-' :: '>' :: rest => some (.arrow, rest)
  | '"' :: rest => (quoted? rest).map fun p => (.id p.1, p.2)
  | c :: rest =>
    if isWordStart c then some (.ofWord (c :: rest.takeWhile isWordPart), rest.dropWhile isWordPart)
    else (numeral? (c :: rest)).map fun p => (.id p.1, p.2)

theorem quoted?_length {t value rest : Text} (h : quoted? t = some (value, rest)) : rest.length < t.length := by
  fun_induction quoted? t generalizing value with
  | case1 => cases h
  | case2 r =>
    cases h
    exact Nat.lt_succ_self _
  | case3 r ih | case4 r ih =>
    obtain ⟨p, hp, hq⟩ := Option.map_eq_some_iff.1 h
    cases hq
    exact Nat.lt_trans (ih hp) (Nat.lt_add_of_pos_right (Nat.zero_lt_succ 1))
  | case5 c r _ _ _ ih =>
    obtain ⟨p, hp, hq⟩ := Option.map_eq_some_iff.1 h
    cases hq
    exact Nat.lt_trans (ih hp) (Nat.lt_succ_self _)

private theorem length_dropWhile_le (p : Char → Bool) (t : Text) : (t.dropWhile p).length ≤ t.length :=
  (List.dropWhile_suffix p).length_le

private theorem length_dropWhile_lt {p : Char → Bool} {t : Text} (h : t.takeWhile p ≠ []) :
    (t.dropWhile p).length < t.length := by
  have parts := congrArg List.length (List.takeWhile_append_dropWhile (p := p) (l := t))
  have taken := List.length_pos_iff.2 h
  rw [List.length_append] at parts
  omega

theorem unsigned?_length {t numeral rest : Text} (h : unsigned? t = some (numeral, rest)) :
    rest.length < t.length := by
  unfold unsigned? at h
  dsimp only at h
  split at h
  · rename_i behind hb
    split at h
    · cases h
    · cases h
      have whole := length_dropWhile_le Char.isDigit t
      have fraction := length_dropWhile_le Char.isDigit behind
      rw [hb, List.length_cons] at whole
      omega
  · split at h
    · cases h
    · rename_i hw
      cases h
      exact length_dropWhile_lt hw

theorem numeral?_length {t numeral rest : Text} (h : numeral? t = some (numeral, rest)) :
    rest.length < t.length := by
  unfold numeral? at h
  split at h
  · obtain ⟨p, hp, hq⟩ := Option.map_eq_some_iff.1 h
    cases hq
    exact Nat.lt_trans (unsigned?_length hp) (Nat.lt_succ_self _)
  · exact unsigned?_length h

/-- A token takes at least one character. -/
theorem token?_length {t rest : Text} {token : Token} (h : token? t = some (token, rest)) :
    rest.length < t.length := by
  unfold token? at h
  split at h
  · cases h
  all_goals try (cases h; simp only [List.length_cons]; omega)
  · obtain ⟨p, hp, hq⟩ := Option.map_eq_some_iff.1 h
    cases hq
    exact Nat.lt_trans (quoted?_length hp) (Nat.lt_succ_self _)
  · rename_i c r _ _ _ _ _ _ _
    split at h
    · cases h
      exact Nat.lt_succ_of_le (length_dropWhile_le _ _)
    · obtain ⟨p, hp, hq⟩ := Option.map_eq_some_iff.1 h
      cases hq
      exact numeral?_length hp

/-- The tokens of a text, `none` if it has a part that is no token. -/
def tokens? (t : Text) : Option (List Token) :=
  if t.dropWhile isSpace = [] then some []
  else match _read : token? (t.dropWhile isSpace) with
    | none => none
    | some (token, rest) => (tokens? rest).map (token :: ·)
termination_by t.length
decreasing_by exact Nat.lt_of_lt_of_le (token?_length _read) (length_dropWhile_le _ _)

theorem tokens?_of_spaces {t : Text} (h : t.dropWhile isSpace = []) : tokens? t = some [] := by
  rw [tokens?, if_pos h]

theorem tokens?_of_token {t rest : Text} {token : Token} (h : token? (t.dropWhile isSpace) = some (token, rest)) :
    tokens? t = (tokens? rest).map (token :: ·) := by
  rw [tokens?, if_neg fun none => by rw [none] at h; cases h]
  split <;> rename_i read <;> rw [h] at read <;> cases read
  rfl

/-! ### What is written -/

/-- What a text is read as once it is quoted: a quote takes away the backslash that is before it, if that one
does not go together with another, and a backslash that is left over at the end becomes two. -/
def settled : Text → Text
  | [] => []
  | ['\\'] => ['\\', '\\']
  | '\\' :: '\\' :: rest => '\\' :: '\\' :: settled rest
  | '\\' :: '"' :: rest => '"' :: settled rest
  | c :: rest => c :: settled rest

def Attribute.tokens (a : Attribute) : List Token := [.id (settled a.name), .equals, .id (settled a.value)]

/-- The tokens of a list of attributes. -/
def attributesTokens (attributes : List Attribute) : List Token :=
  .openBracket :: (attributes.flatMap Attribute.tokens ++ [.closeBracket])

def Statement.tokens : Statement → List Token
  | graphDefaults attributes => .keyword "graph".toList :: attributesTokens attributes
  | nodeDefaults attributes => .keyword "node".toList :: attributesTokens attributes
  | node id attributes => .id (settled id) :: attributesTokens attributes
  | edge source target attributes =>
    .id (settled source) :: .arrow :: .id (settled target) ::
      if attributes = [] then [] else attributesTokens attributes

/-- The tokens of a document with the given statements. -/
def documentTokens (statements : List Statement) : List Token :=
  .keyword "digraph".toList :: .id ['G'] :: .openBrace ::
    (statements.flatMap Statement.tokens ++ [.closeBrace])

end Flowchart.Dot
