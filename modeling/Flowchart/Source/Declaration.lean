import Flowchart.Source.Kind
import Flowchart.Text.Blank
import Flowchart.Text.Word

/-!
Declarations, one to a line. A node is declared as `id=>kind: label` and an edge as `source->target` or
`source(condition)->target`. Names and kinds are words; no blank may stand around the arrows, but any
blanks may stand around the colon. A text that is no declaration is rejected as a whole.
-/

namespace Flowchart.Source

open Text

structure NodeDecl where
  id : Text
  kind : Kind
  label : Text
deriving DecidableEq, Repr

/-- The declaration of an edge; `condition` is `none` if nothing stands between parentheses. -/
structure EdgeDecl where
  source : Text
  target : Text
  condition : Option Text
deriving DecidableEq, Repr

/-- The longest word that a text starts with, and what follows it. -/
def word? (t : Text) : Option (Text × Text) :=
  match t.takeWhile isWord with
  | [] => none
  | c :: w => some (c :: w, t.dropWhile isWord)

/-- The label in the text behind the colon. The label is the last line of that text, trimmed: the line may
not be empty, and all that stands before it has to be blank. -/
def label? (t : Text) : Option Text :=
  let last := (t.reverse.takeWhile (· ≠ '\n')).reverse
  let lead := (t.reverse.dropWhile (· ≠ '\n')).reverse
  if last ≠ [] ∧ isAllBlank lead = true then some (trim last) else none

/-- The condition that may stand before the arrow of an edge, and what follows it. -/
def condition? : Text → Option (Option Text × Text)
  | '(' :: rest => (cut? ')' rest).map fun p => (if p.1 = [] then none else some (trim p.1), p.2)
  | rest => some (none, rest)

def NodeDecl.ofLine? (line : Text) : Option NodeDecl := do
  let (id, rest) ← word? line
  let rest ← ['=', '>'].isPrefixOf? rest
  let (kind, rest) ← word? rest
  let rest ← [':'].isPrefixOf? (trimStart rest)
  let label ← label? rest
  return ⟨id, .ofToken kind, label⟩

def EdgeDecl.ofLine? (line : Text) : Option EdgeDecl := do
  let (source, rest) ← word? line
  let (condition, rest) ← condition? rest
  let rest ← ['-', '>'].isPrefixOf? rest
  let (target, rest) ← word? rest
  if rest = [] then some ⟨source, target, condition⟩ else none

theorem word?_eq_some {t w rest : Text} :
    word? t = some (w, rest) ↔ w ≠ [] ∧ w = t.takeWhile isWord ∧ rest = t.dropWhile isWord := by
  unfold word?
  split <;> rename_i h
  · simp +contextual [h]
  · simp only [h, Option.some.injEq, Prod.mk.injEq]
    constructor
    · rintro ⟨rfl, rfl⟩
      simp
    · rintro ⟨-, rfl, rfl⟩
      simp

theorem word?_append {t w rest : Text} (h : word? t = some (w, rest)) : t = w ++ rest := by
  obtain ⟨-, rfl, rfl⟩ := word?_eq_some.1 h
  exact (List.takeWhile_append_dropWhile).symm

end Flowchart.Source
