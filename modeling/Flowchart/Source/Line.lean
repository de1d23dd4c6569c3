import Flowchart.Text.Basic

/-!
Lines of a source text. `linesFrom` cuts a text behind every line feed and gives each line without its
terminator, together with the byte offset at which it starts. A text that ends in a terminator has no
further, empty line.
-/

namespace Flowchart

/-- A range of byte offsets, `stop` not included. -/
structure Span where
  start : Nat
  stop : Nat
deriving DecidableEq, Repr

/-- A line without its terminator, and the byte offset of its first character. -/
structure Line where
  text : Text
  start : Nat
deriving DecidableEq, Repr

namespace Line

/-- The byte offset behind the last character of a line. -/
def stop (line : Line) : Nat := line.start + Text.byteSize line.text

def span (line : Line) : Span := ⟨line.start, line.stop⟩

end Line

namespace Text

/-- Cuts a text behind every line feed; no piece is empty and nothing is lost. -/
def pieces : Text → List Text
  | [] => []
  | c :: rest =>
    if c = '\n' then [c] :: pieces rest
    else match pieces rest with
      | [] => [[c]]
      | piece :: more => (c :: piece) :: more

/-- Takes a line feed, and a carriage return before it, off the end of a piece. -/
def dropTerminator (piece : Text) : Text := dropLastIf '\r' (dropLastIf '\n' piece)

/-- Gives the pieces of a text their byte offsets, the first one starting at `start`. -/
def locate (start : Nat) : List Text → List Line
  | [] => []
  | piece :: more => ⟨dropTerminator piece, start⟩ :: locate (start + byteSize piece) more

def linesFrom (start : Nat) (t : Text) : List Line := locate start (pieces t)

@[simp] theorem pieces_nil : pieces [] = [] := rfl

theorem pieces_flatten (t : Text) : (pieces t).flatten = t := by
  induction t with
  | nil => rfl
  | cons c rest ih =>
    rw [pieces]
    split
    · simp [ih]
    · split <;> rename_i h <;> rw [h] at ih <;> simp [← ih]

theorem ne_nil_of_mem_pieces {t piece : Text} (h : piece ∈ pieces t) : piece ≠ [] := by
  induction t generalizing piece with
  | nil => simp at h
  | cons c rest ih =>
    rw [pieces] at h
    split at h
    · rcases List.mem_cons.1 h with rfl | h
      · simp
      · exact ih h
    · split at h <;> rename_i hp
      · simp only [List.mem_singleton] at h
        simp [h]
      · rcases List.mem_cons.1 h with rfl | h
        · simp
        · exact ih (hp ▸ List.mem_cons_of_mem _ h)

@[simp] theorem linesFrom_nil (start : Nat) : linesFrom start [] = [] := rfl

end Text

end Flowchart
