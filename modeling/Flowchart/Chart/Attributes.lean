import Flowchart.Chart.Style

/-!
The attributes that hold for a whole chart: the direction in which it grows, the font, and the shape of a
node that sets none.
-/

namespace Flowchart

/-- The direction in which a chart grows. -/
inductive Direction where
  | down
  | right
  | up
  | left
deriving DecidableEq, Repr

namespace Direction

/-- The name of a direction: where it starts and where it leads. -/
def name : Direction → Text
  | down => "TB".toList
  | right => "LR".toList
  | up => "BT".toList
  | left => "RL".toList

/-- All directions, in the order in which messages list them. -/
def all : List Direction := [down, right, up, left]

def ofName? (t : Text) : Option Direction := all.find? fun d => d.name = t

theorem mem_all (d : Direction) : d ∈ all := by
  cases d <;> simp [all]

theorem ofName?_eq_some {t : Text} {d : Direction} : ofName? t = some d ↔ d.name = t := by
  constructor
  · intro h
    simpa using List.find?_some h
  · rintro rfl
    cases d <;> decide

end Direction

/-- The attributes of a whole chart. -/
structure Attributes where
  direction : Direction := .down
  fontName : Text := "Courier".toList
  fontSize : UInt32 := 10
  nodeShape : Shape := .box
deriving DecidableEq, Repr

end Flowchart
