import Flowchart.Proofs.Dot.Tokens
import Flowchart.Dot.Reader

/-! The statements of a printed document.

The tokens of a statement are read as that statement, its texts settled, as long as
no bracket follows: an edge without attributes would take the bracket for its own.
No statement starts with a bracket, so `read?_printDocument` gets all statements of a
document back in their order. -/
namespace Flowchart.Dot

theorem attributes?_tokens (attributes : List Attribute) (rest : List Token) :
    attributes? (attributes.flatMap Attribute.tokens ++ .closeBracket :: rest) =
      some (attributes.map Attribute.settled, rest) := by
  induction attributes with
  | nil => rfl
  | cons a more ih =>
    rw [List.flatMap_cons, List.append_assoc]
    show (attributes? (more.flatMap Attribute.tokens ++ .closeBracket :: rest)).map _ = _
    rw [ih]
    rfl

theorem attributesTokens_append (attributes : List Attribute) (rest : List Token) :
    attributesTokens attributes ++ rest =
      .openBracket :: (attributes.flatMap Attribute.tokens ++ .closeBracket :: rest) := by
  rw [attributesTokens, List.cons_append, List.append_assoc, List.singleton_append]

theorem optionalAttributes?_tokens (attributes : List Attribute) (rest : List Token) :
    optionalAttributes? (attributesTokens attributes ++ rest) = some (attributes.map Attribute.settled, rest) := by
  rw [attributesTokens_append]
  exact attributes?_tokens attributes rest

theorem optionalAttributes?_of_ne {rest : List Token} (h : rest.head? ≠ some .openBracket) :
    optionalAttributes? rest = some ([], rest) := by
  unfold optionalAttributes?
  split
  · exact absurd rfl h
  · rfl

/-- A statement is read as what it says, its texts settled. -/
theorem statement?_tokens (s : Statement) {rest : List Token} (hrest : rest.head? ≠ some .openBracket) :
    statement? (s.tokens ++ rest) = some (s.settled, rest) := by
  cases s with
  | graphDefaults attributes | nodeDefaults attributes =>
    rw [Statement.tokens, List.cons_append, attributesTokens_append]
    show (attributes? _).bind _ = _
    rw [attributes?_tokens]
    rfl
  | node id attributes =>
    have hattributes := optionalAttributes?_tokens attributes rest
    rw [attributesTokens_append] at hattributes
    rw [Statement.tokens, List.cons_append, attributesTokens_append]
    show (optionalAttributes? _).map _ = _
    rw [hattributes]
    rfl
  | edge source target attributes =>
    show (optionalAttributes? ((if attributes = [] then [] else attributesTokens attributes) ++ rest)).map _ = _
    split
    · rename_i hnone
      subst hnone
      rw [List.nil_append, optionalAttributes?_of_ne hrest]
      rfl
    · rw [optionalAttributes?_tokens]
      rfl

/-- No statement starts with a bracket, nor does the end of a document. -/
theorem head?_statements_ne (statements : List Statement) :
    (statements.flatMap Statement.tokens ++ [Token.closeBrace]).head? ≠ some .openBracket := by
  cases statements with
  | nil => exact fun h => by cases h
  | cons s more => cases s <;> exact fun h => by cases h

theorem statements?_tokens (statements : List Statement) :
    statements? (statements.flatMap Statement.tokens ++ [.closeBrace]) =
      some (statements.map Statement.settled) := by
  induction statements with
  | nil => exact statements?_closeBrace
  | cons s more ih =>
    have hfirst := statement?_tokens s (head?_statements_ne more)
    rw [List.flatMap_cons, List.append_assoc, statements?_of_statement hfirst, ih]
    rfl

/-- A printed document is read as its statements. -/
theorem read?_printDocument (statements : List Statement) :
    read? (printDocument statements) = some (statements.map Statement.settled) := by
  rw [read?, tokens?_printDocument]
  exact statements?_tokens statements

end Flowchart.Dot
