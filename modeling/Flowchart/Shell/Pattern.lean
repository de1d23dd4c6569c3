import Flowchart.Text.Class

/-!
Patterns of texts. A star fits any text, a question mark any character, and brackets fit one of the
characters between them. A quoted character has no such meaning.
-/

namespace Flowchart.Shell

/-- A character and whether it is quoted. -/
structure Glyph where
  char : Char
  quoted : Bool
deriving DecidableEq, Repr

/-- Whether a glyph is a character that is not quoted. -/
def Glyph.is (g : Glyph) (c : Char) : Bool := g.char = c && !g.quoted

inductive Fit where
  | char (c : Char)
  | any
  /-- Any text. -/
  | run
  /-- One character, or with `negated` any other: of a range, or of a class. -/
  | oneOf (negated : Bool) (ranges : List (Char × Char)) (classes : List Text)
deriving Repr

/-- Whether a fit for one character fits a character. -/
def Fit.holds (c : Char) : Fit → Bool
  | char d => c = d
  | any => true
  | run => false
  | oneOf negated ranges classes =>
    (ranges.any (fun r => r.1 ≤ c && c ≤ r.2) || classes.any (Text.inClass · c)) != negated

/-- The class that glyphs start with, up to a colon and a bracket. -/
def className? : List Glyph → Option (Text × List Glyph)
  | ⟨':', _⟩ :: ⟨']', _⟩ :: rest => some ([], rest)
  | g :: rest => if g.char.isAlpha then (className? rest).map fun p => (g.char :: p.1, p.2) else none
  | [] => none

/-- The inside of brackets and what follows them; the first glyph is no closing bracket. -/
def insideBrackets? : Nat → Bool → List Glyph → Option (List (Char × Char) × List Text × List Glyph)
  | 0, _, _ => none
  | fuel + 1, first, glyphs =>
    match glyphs with
    | [] => none
    | g :: rest =>
      if g.is ']' && !first then some ([], [], rest)
      else
        let single : Option (List (Char × Char) × List Text × List Glyph) :=
          match rest with
          | dash :: last :: more =>
            if dash.is '-' && !last.is ']' then
              (insideBrackets? fuel false more).map fun (ranges, found) => ((g.char, last.char) :: ranges, found)
            else (insideBrackets? fuel false rest).map fun (ranges, found) => ((g.char, g.char) :: ranges, found)
          | _ => (insideBrackets? fuel false rest).map fun (ranges, found) => ((g.char, g.char) :: ranges, found)
        match g.is '[', rest with
        | true, ⟨':', false⟩ :: more =>
          match className? more with
          | some (name, more) =>
            (insideBrackets? fuel false more).map fun (ranges, classes, rest) => (ranges, name :: classes, rest)
          | none => single
        | _, _ => single

def fitsOf : Nat → List Glyph → List Fit
  | 0, _ => []
  | _ + 1, [] => []
  | fuel + 1, g :: rest =>
    if g.is '*' then .run :: fitsOf fuel rest
    else if g.is '?' then .any :: fitsOf fuel rest
    else if g.is '[' then
      let (negated, inside) := match rest with
        | h :: more => if h.is '!' || h.is '^' then (true, more) else (false, rest)
        | [] => (false, [])
      match insideBrackets? (inside.length + 1) true inside with
      | some (ranges, classes, more) => .oneOf negated ranges classes :: fitsOf fuel more
      | none => .char '[' :: fitsOf fuel rest
    else .char g.char :: fitsOf fuel rest

def patternOf (glyphs : List Glyph) : List Fit := fitsOf (glyphs.length + 1) glyphs

def fits : List Fit → Text → Bool
  | [], t => t.isEmpty
  | .run :: ps, [] => fits ps []
  | .run :: ps, c :: t => fits ps (c :: t) || fits (.run :: ps) t
  | _ :: _, [] => false
  | p :: ps, c :: t => p.holds c && fits ps t
termination_by p t => p.length + t.length

/-- Whether a pattern is more than a text that stands for itself. -/
def hasPattern (glyphs : List Glyph) : Bool := glyphs.any fun g => g.is '*' || g.is '?' || g.is '['

/-- Drops what a pattern fits from the start of a text: as little, or as much, as there is. -/
def dropStart (longest : Bool) (p : List Fit) (t : Text) : Text :=
  let cuts := (List.range (t.length + 1)).filter fun n => fits p (t.take n)
  match if longest then cuts.getLast? else cuts.head? with
  | some n => t.drop n
  | none => t

/-- Drops what a pattern fits from the end of a text: as little, or as much, as there is. -/
def dropEnd (longest : Bool) (p : List Fit) (t : Text) : Text :=
  let cuts := (List.range (t.length + 1)).filter fun n => fits p (t.drop n)
  match if longest then cuts.head? else cuts.getLast? with
  | some n => t.take n
  | none => t

end Flowchart.Shell
