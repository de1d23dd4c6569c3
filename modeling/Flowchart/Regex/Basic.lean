import Flowchart.Text.Class

/-!
Regular expressions and what they match. A match starts as early as it can, and of those that start there it is
the longest; where groups can be matched in several ways, what stands further to the left takes as much as it can.

`ends` gives all places at which a match may end, those that are preferred first. A place is given once, since
what is preferred there does not depend on how the rest goes on; only an expression that refers back to its own
groups has to keep them apart.
-/

namespace Flowchart

/-- A regular expression over octets. -/
inductive Regex where
  | empty
  /-- One character in some ranges. -/
  | one (ranges : List (Char × Char))
  | seq (a b : Regex)
  | either (a b : Regex)
  /-- An expression again and again, at least and at most so many times. -/
  | again (a : Regex) (least : Nat) (most : Option Nat)
  | group (n : Nat) (a : Regex)
  /-- What a group has matched, where letters may be taken for each other in both cases. -/
  | same (n : Nat) (fold : Bool)
  | lineStart
  | lineEnd
  | textStart
  | textEnd
  /-- The start or the end of a word. -/
  | wordStart
  | wordEnd
  | wordEdge
  | noWordEdge
deriving Repr, Inhabited

namespace Regex

/-- A part of a text: where it starts and where it stops. -/
structure Span where
  start : Nat
  stop : Nat
deriving DecidableEq, Repr

/-- How far a match has got: the place, and what the groups have matched, the last first. -/
structure Point where
  place : Nat
  groups : List (Nat × Span) := []
deriving Repr

/-- A text in which matches are looked for. -/
structure Subject where
  chars : Array Char
  /-- Whether the text starts with a line, and does not go on one. -/
  startsLine : Bool := true
  /-- Whether a line starts behind every line feed. -/
  manyLines : Bool := false

def Subject.ofText (t : Text) : Subject := { chars := t.toArray }

def Subject.slice (s : Subject) (p : Span) : Text := (s.chars.extract p.start p.stop).toList

/-- Whether a character is a part of a word. -/
def isWordChar (c : Char) : Bool := c.isAlphanum || c == '_'

/-- Whether the character at a place is a part of a word. -/
def Subject.isWordAt (s : Subject) (place : Nat) : Bool := (s.chars[place]?.map isWordChar).getD false

/-- Whether the character before a place is a part of a word. -/
def Subject.isWordBefore (s : Subject) (place : Nat) : Bool := place ≠ 0 && s.isWordAt (place - 1)

/-- Whether a character is in some ranges. -/
def inRanges (ranges : List (Char × Char)) (c : Char) : Bool := ranges.any fun (a, b) => a ≤ c && c ≤ b

/-- Keeps one point for each place, the first one. -/
def distinctPoints (size : Nat) (ps : List Point) : List Point :=
  match ps with
  | [] | [_] => ps
  | ps =>
    let (kept, _) := ps.foldl (fun (kept, seen) p =>
      if seen.getD p.place true then (kept, seen) else (p :: kept, seen.setIfInBounds p.place true))
      (([] : List Point), Array.replicate (size + 1) false)
    kept.reverse

/-- The points behind so many characters of a run in some ranges, the furthest first. -/
def runOf (s : Subject) (ranges : List (Char × Char)) (p : Point) : Nat → Nat → List Point → List Point
  | 0, _, found => found
  | fuel + 1, place, found =>
    match s.chars[place]? with
    | some c => if inRanges ranges c then runOf s ranges p fuel (place + 1) ({ p with place := place + 1 } :: found) else found
    | none => found

/-- The points that are reached by taking a step again and again. Gives also which points have been seen, by
how often a step was taken before and by place. -/
def closure (keep : Bool) (step : Point → List Point) (least : Nat) (most : Option Nat) :
    Nat → Nat → List (Nat × Nat) → Point → List Point × List (Nat × Nat)
  | 0, _, seen, _ => ([], seen)
  | fuel + 1, count, seen, p =>
    let key := (if most.isNone then min count least else count, p.place)
    if keep = false ∧ seen.contains key then ([], seen)
    else
      let more := (most.map fun m => decide (count < m)).getD true
      let (further, seen) := if more then
          (step p).foldl (fun (found, seen) q =>
            if q.place = p.place ∧ least ≤ count then (found, seen)
            else
              let (ends, seen) := closure keep step least most fuel (count + 1) seen q
              (found ++ ends, seen)) (([] : List Point), key :: seen)
        else ([], key :: seen)
      (further ++ if least ≤ count then [p] else [], seen)

/-- Whether two texts are the same, where letters may be taken for each other in both cases. -/
def agree (fold : Bool) (a b : Text) : Bool := if fold then a.map Char.toLower = b.map Char.toLower else a = b

/-- The points at which a match may end that starts at a point. With `keep` points at the same place are kept
apart. -/
def ends (keep : Bool) (s : Subject) : Regex → Point → List Point
  | empty, p => [p]
  | one ranges, p =>
    match s.chars[p.place]? with
    | some c => if inRanges ranges c then [{ p with place := p.place + 1 }] else []
    | none => []
  | seq a b, p =>
    match ends keep s a p with
    | [] => []
    | [q] => ends keep s b q
    | qs =>
      let found := qs.flatMap (ends keep s b)
      if keep then found else distinctPoints s.chars.size found
  | either a b, p =>
    let found := ends keep s a p ++ ends keep s b p
    if keep then found else distinctPoints s.chars.size found
  | again a least most, p =>
    match a with
    | one ranges =>
      let run := runOf s ranges p ((most.map fun m => min m s.chars.size).getD s.chars.size) p.place [p]
      run.filter fun q => p.place + least ≤ q.place
    | a => (closure keep (ends keep s a) least most (s.chars.size + least + 2) 0 [] p).1
  | group n a, p =>
    (ends keep s a p).map fun q => { q with groups := (n, ⟨p.place, q.place⟩) :: q.groups }
  | same n fold, p =>
    match p.groups.lookup n with
    | none => []
    | some span =>
      let t := s.slice span
      let next := p.place + t.length
      if next ≤ s.chars.size ∧ agree fold t (s.slice ⟨p.place, next⟩) = true then [{ p with place := next }] else []
  | lineStart, p =>
    if (p.place = 0 ∧ s.startsLine = true) ∨ (s.manyLines = true ∧ p.place ≠ 0 ∧ s.chars[p.place - 1]? = some '\n') then [p]
    else []
  | lineEnd, p =>
    if p.place = s.chars.size ∨ (s.manyLines = true ∧ s.chars[p.place]? = some '\n') then [p] else []
  | textStart, p => if p.place = 0 then [p] else []
  | textEnd, p => if p.place = s.chars.size then [p] else []
  | wordStart, p => if s.isWordAt p.place && !s.isWordBefore p.place then [p] else []
  | wordEnd, p => if s.isWordBefore p.place && !s.isWordAt p.place then [p] else []
  | wordEdge, p => if s.isWordBefore p.place != s.isWordAt p.place then [p] else []
  | noWordEdge, p => if s.isWordBefore p.place == s.isWordAt p.place then [p] else []

/-- Whether an expression refers back to a group. -/
def refersBack : Regex → Bool
  | seq a b | either a b => a.refersBack || b.refersBack
  | again a _ _ | group _ a => a.refersBack
  | same _ _ => true
  | _ => false

/-- The characters that a match may start with, if every match has one. -/
def starts? : Regex → Option (List (Char × Char))
  | one ranges => some ranges
  | seq a b =>
    match a with
    | lineStart | wordStart | wordEdge | textStart | empty => b.starts?
    | a => a.starts?
  | either a b =>
    match a.starts?, b.starts? with
    | some x, some y => some (x ++ y)
    | _, _ => none
  | again a least _ => if least = 0 then none else a.starts?
  | group _ a => a.starts?
  | _ => none

/-- A match: what it covers, and what its groups cover. -/
structure Match extends Span where
  groups : List (Nat × Span)
deriving Repr

/-- The longest match that starts at a place. -/
def matchAt? (r : Regex) (s : Subject) (start : Nat) : Option Match :=
  let points := ends r.refersBack s r { place := start }
  let best := points.foldl (fun (best : Option Point) p =>
    match best with
    | none => some p
    | some b => if b.place < p.place then some p else best) none
  best.map fun p => ⟨⟨start, p.place⟩, p.groups⟩

/-- The first match that starts at one of so many places from a place on. -/
def findFrom? (r : Regex) (s : Subject) (first : Option (List (Char × Char))) : Nat → Nat → Option Match
  | 0, _ => none
  | fuel + 1, start =>
    let possible := match first with
      | none => true
      | some ranges => (s.chars[start]?.map (inRanges ranges)).getD false
    match if possible then r.matchAt? s start else none with
    | some m => some m
    | none => findFrom? r s first fuel (start + 1)

/-- The first match from a place on. -/
def find? (r : Regex) (s : Subject) (start : Nat := 0) : Option Match :=
  r.findFrom? s r.starts? (s.chars.size + 1 - start) start

/-- Whether an expression matches somewhere in a text. -/
def matchesIn (r : Regex) (t : Text) : Bool := (r.find? (.ofText t)).isSome

/-- Whether an expression matches a whole text. -/
def matchesAll (r : Regex) (t : Text) : Bool :=
  let s := Subject.ofText t
  (ends r.refersBack s r { place := 0 }).any fun p => p.place = s.chars.size

/-- All matches in a text that do not overlap. An empty match right behind another match does not count. -/
def findAll (r : Regex) (s : Subject) : Nat → Nat → Option Nat → List Match
  | 0, _, _ => []
  | fuel + 1, start, last =>
    if s.chars.size < start then []
    else match r.find? s start with
      | none => []
      | some m =>
        if m.start = m.stop then
          let rest := findAll r s fuel (m.stop + 1) (some m.stop)
          if last = some m.start then rest else m :: rest
        else m :: findAll r s fuel m.stop (some m.stop)

def allMatches (r : Regex) (s : Subject) : List Match := findAll r s (s.chars.size + 2) 0 none

def Match.groupSpan? (m : Match) (n : Nat) : Option Span := if n = 0 then some m.toSpan else m.groups.lookup n

/-- The text that a group has matched; nothing if it has not. -/
def Match.groupText (m : Match) (s : Subject) (n : Nat) : Text := ((m.groupSpan? n).map s.slice).getD []

end Regex

end Flowchart
