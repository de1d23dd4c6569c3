import Flowchart.Source.Line
import Flowchart.Text.Blank

/-!
The two sections of a source text. Node declarations come first, edge declarations after the first blank
line. Blanks around the whole text do not count, and a blank line may end in a carriage return and a line
feed. Without a blank line there are no edge declarations.
-/

namespace Flowchart.Source

/-- Which section a line belongs to. -/
inductive Section where
  | node
  | edge
deriving DecidableEq, Repr

def Section.name : Section → Text
  | .node => "node".toList
  | .edge => "edge".toList

/-- The place where a text is divided: what stands before the blank line, how many bytes the line feeds
take that make it, and what stands after it. -/
structure Break where
  before : Text
  gap : Nat
  after : Text
deriving DecidableEq, Repr

/-- A blank line at the start of a text: the bytes of the line feeds that make it, with the carriage return
that may stand between them, and the text behind it. -/
def breakHere? : Text → Option (Nat × Text)
  | '\n' :: '\n' :: after => some (2, after)
  | '\n' :: '\r' :: '\n' :: after => some (3, after)
  | _ => none

/-- Finds the first blank line of a text. -/
def findBreak? : Text → Option Break
  | [] => none
  | c :: rest =>
    match breakHere? (c :: rest) with
    | some (gap, after) => some ⟨[], gap, after⟩
    | none => (findBreak? rest).map fun b => { b with before := c :: b.before }

/-- The lines of a source text by section; `edgeLines?` is `none` if the text has no blank line. -/
structure Sections where
  nodeLines : List Line
  edgeLines? : Option (List Line)
deriving DecidableEq, Repr

namespace Sections

def hasEdges (s : Sections) : Bool := s.edgeLines?.isSome

def edgeLines (s : Sections) : List Line := s.edgeLines?.getD []

end Sections

/-- Divides a source text at its first blank line. -/
def sections (source : Text) : Sections :=
  let leading := Text.byteSize (source.takeWhile Text.isBlank)
  let body := Text.trim source
  match findBreak? body with
  | some b =>
    { nodeLines := Text.linesFrom leading b.before
      edgeLines? := some (Text.linesFrom (leading + Text.byteSize b.before + b.gap) b.after) }
  | none => { nodeLines := Text.linesFrom leading body, edgeLines? := none }

theorem breakHere?_eq_some {t after : Text} {gap : Nat} (h : breakHere? t = some (gap, after)) :
    ∃ feeds : Text, t = feeds ++ after ∧ (feeds = ['\n', '\n'] ∨ feeds = ['\n', '\r', '\n']) ∧
      gap = Text.byteSize feeds := by
  unfold breakHere? at h
  split at h
  · cases h
    exact ⟨['\n', '\n'], rfl, .inl rfl, rfl⟩
  · cases h
    exact ⟨['\n', '\r', '\n'], rfl, .inr rfl, rfl⟩
  · cases h

/-- Nothing but the line feeds of the blank line is lost where a text is divided. -/
theorem findBreak?_eq_some {t : Text} {b : Break} (h : findBreak? t = some b) :
    ∃ feeds : Text, t = b.before ++ feeds ++ b.after ∧
      (feeds = ['\n', '\n'] ∨ feeds = ['\n', '\r', '\n']) ∧ b.gap = Text.byteSize feeds := by
  induction t generalizing b with
  | nil => simp [findBreak?] at h
  | cons c rest ih =>
    rw [findBreak?] at h
    split at h
    · rename_i gap after hb
      cases h
      simpa using breakHere?_eq_some hb
    · obtain ⟨b', hb', rfl⟩ := Option.map_eq_some_iff.1 h
      obtain ⟨feeds, rfl, hfeeds, hgap⟩ := ih hb'
      exact ⟨feeds, by simp, hfeeds, hgap⟩

end Flowchart.Source
