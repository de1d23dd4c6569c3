import Flowchart.Shell.Pattern
import Flowchart.Shell.State

/-!
Fields. What the pieces of a word become is a row of scraps: characters, and marks between them. The row is
divided where characters that come from a value separate fields, and each field that is a pattern becomes
the paths that it fits.
-/

namespace Flowchart.Shell

open Files

inductive Scrap where
  | glyph (g : Glyph)
  /-- A character of a value that is not quoted; it may divide fields. -/
  | loose (c : Char)
  /-- The end of a field, between arguments. -/
  | boundary
  /-- A field is here even if it is empty. -/
  | hold
deriving DecidableEq, Repr

def scraps (quoted : Bool) (t : Text) : List Scrap :=
  if quoted then .hold :: t.map fun c => .glyph ⟨c, true⟩ else t.map .loose

/-- The text of scraps that are not divided. -/
def Scrap.joined (row : List Scrap) : Text :=
  row.flatMap fun
    | .glyph g => [g.char]
    | .loose c => [c]
    | .boundary => [' ']
    | .hold => []

/-- The glyphs of scraps that are not divided. -/
def Scrap.glyphs (row : List Scrap) : List Glyph :=
  row.flatMap fun
    | .glyph g => [g]
    | .loose c => [⟨c, false⟩]
    | .boundary => [⟨' ', false⟩]
    | .hold => []

/-! ### Dividing -/

/-- A field that is being put together: its glyphs, the last one first, whether there is a field, and
whether a blank has ended the field before it. -/
structure Growing where
  reversed : List Glyph := []
  started : Bool := false
  afterBlank : Bool := false

/-- Divides scraps into fields. Blanks that separate count as one and are no fields at the ends; any other
separator ends a field, even an empty one. -/
def divide (separators : Text) (f : Growing) : List Scrap → List (List Glyph)
  | [] => if f.started then [f.reversed.reverse] else []
  | .glyph g :: more => divide separators { f with reversed := g :: f.reversed, started := true } more
  | .hold :: more => divide separators { f with started := true } more
  | .boundary :: more =>
    if f.started then f.reversed.reverse :: divide separators {} more else divide separators {} more
  | .loose c :: more =>
    if !separators.contains c then
      divide separators { f with reversed := ⟨c, false⟩ :: f.reversed, started := true } more
    else if c == ' ' || c == '\t' || c == '\n' then
      if f.started then f.reversed.reverse :: divide separators { afterBlank := true } more
      else divide separators f more
    else if f.started then f.reversed.reverse :: divide separators {} more
    else if f.afterBlank then divide separators {} more
    else [] :: divide separators {} more

/-! ### Paths -/

def splitSlashes : List Glyph → List (List Glyph)
  | [] => [[]]
  | g :: rest =>
    if g.char = '/' then [] :: splitSlashes rest
    else match splitSlashes rest with
      | [] => [[g]]
      | name :: more => (g :: name) :: more

/-- The names in a directory that a pattern fits. Names that start with a dot are fitted only by patterns
that do so too. -/
def fittingNames (t : Tree) (place : Place) (pattern : List Glyph) : List Text :=
  let hidden := pattern.head?.any fun g => g.char = '.'
  let names := (if hidden then [['.'], ['.', '.']] else []) ++ t.names place
  let p := patternOf pattern
  names.filter fun name => (hidden || name.head? ≠ some '.') && fits p name

/-- The paths that patterns between slashes fit behind a start. Paths are looked up by `look`. -/
def fittingPaths (t : Tree) (full : Text → Text) (start : Text) : List (List Glyph) → List Text
  | [] => []
  | [name] =>
    if hasPattern name then
      match t.look (full (if start = [] then ['.'] else start)) with
      | .ok (place, .directory _) => (fittingNames t place name).map (start ++ ·)
      | _ => []
    else
      let path := start ++ name.map Glyph.char
      match t.look (full path) false with
      | .ok _ => [path]
      | .error _ => []
  | name :: more =>
    if hasPattern name then
      match t.look (full (if start = [] then ['.'] else start)) with
      | .ok (place, .directory _) =>
        (fittingNames t place name).flatMap fun n => fittingPaths t full (start ++ n ++ ['/']) more
      | _ => []
    else fittingPaths t full (start ++ name.map Glyph.char ++ ['/']) more

/-- The texts that a field becomes: the paths that it fits in their order, or itself. -/
def State.pathsOf (s : State) (field : List Glyph) : List Text :=
  let itself := field.map Glyph.char
  if s.has 'f' || !hasPattern field then [itself]
  else
    match fittingPaths s.tree s.path [] (splitSlashes field) with
    | [] => [itself]
    | paths => paths.mergeSort Text.precedes

/-- The texts that a row of scraps becomes. -/
def State.texts (s : State) (row : List Scrap) : List Text := (divide s.separators {} row).flatMap s.pathsOf

end Flowchart.Shell
