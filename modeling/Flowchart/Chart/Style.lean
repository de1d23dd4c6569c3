import Flowchart.Source.Kind

/-!
How nodes look. Each known kind has a shape and a fill colour; a kind of any other word is a white box.
-/

namespace Flowchart

/-- The outline of a node. -/
inductive Shape where
  | box
  | oval
  | diamond
  | parallelogram
  | rectangle
  | plaintext
deriving DecidableEq, Repr

namespace Shape

def name : Shape → Text
  | box => "box".toList
  | oval => "oval".toList
  | diamond => "diamond".toList
  | parallelogram => "parallelogram".toList
  | rectangle => "rectangle".toList
  | plaintext => "plaintext".toList

/-- All shapes, in the order in which messages list them. -/
def all : List Shape := [box, oval, diamond, parallelogram, rectangle, plaintext]

def ofName? (t : Text) : Option Shape := all.find? fun s => s.name = t

theorem mem_all (s : Shape) : s ∈ all := by
  cases s <;> simp [all]

theorem name_injective {s t : Shape} (h : s.name = t.name) : s = t := by
  revert h
  cases s <;> cases t <;> decide

theorem ofName?_eq_some {t : Text} {s : Shape} : ofName? t = some s ↔ s.name = t := by
  constructor
  · intro h
    simpa using List.find?_some h
  · rintro rfl
    cases s <;> decide

end Shape

/-- The shape and the fill colour of a node. -/
structure NodeStyle where
  shape : Shape
  fill : Text
deriving DecidableEq, Repr

def NodeStyle.ofKind : Source.Kind → NodeStyle
  | .start => ⟨.oval, "lightgreen".toList⟩
  | .stop => ⟨.oval, "lightcoral".toList⟩
  | .operation => ⟨.box, "lightblue".toList⟩
  | .condition => ⟨.diamond, "lightyellow".toList⟩
  | .inputOutput => ⟨.parallelogram, "lightpink".toList⟩
  | .subroutine => ⟨.rectangle, "lightgray".toList⟩
  | .other _ => ⟨.box, "white".toList⟩

/-- The colour of a node tells its kind, if the kind is a known one. -/
theorem NodeStyle.fill_ofKind_eq_iff {j k : Source.Kind} :
    (ofKind j).fill = (ofKind k).fill ↔ j = k ∨ j.isKnown = false ∧ k.isKnown = false := by
  constructor
  · cases j <;> cases k <;> simp [ofKind, Source.Kind.isKnown]
  · rintro (rfl | ⟨hj, hk⟩)
    · rfl
    · cases j <;> cases k <;> simp_all [ofKind, Source.Kind.isKnown]

/-- No kind is drawn as bare text, which is kept for the attribution. -/
theorem NodeStyle.shape_ofKind_ne_plaintext (k : Source.Kind) : (ofKind k).shape ≠ .plaintext := by
  cases k <;> simp [ofKind]

end Flowchart
