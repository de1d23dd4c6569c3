import Flowchart.Chart.Attributes

/-!
Settings: the attributes that every chart gets, and how the rendering engine is run.
-/

namespace Flowchart

/-- How the rendering engine is run. -/
structure EngineSettings where
  /-- The program to run. -/
  program : Text := "dot".toList
  /-- Whether the intermediate document is removed once the image is made. -/
  cleanup : Bool := true
deriving DecidableEq, Repr

structure Settings where
  chart : Attributes := {}
  engine : EngineSettings := {}
deriving DecidableEq, Repr

end Flowchart
