import Flowchart.Text.Basic

/-!
The language of shell scripts. A word is a sequence of pieces that are replaced before the word is used;
a command is made of words, of redirections and of other commands.
-/

namespace Flowchart.Shell

/-- What is done with the value of a parameter. Where `orEmpty` occurs, an empty value is treated as none. -/
inductive Use where
  | value
  | length
  /-- Another word stands in for a value that is missing. -/
  | default (orEmpty : Bool)
  /-- Another word becomes the value if it is missing. -/
  | assign (orEmpty : Bool)
  /-- A missing value ends the script. -/
  | demand (orEmpty : Bool)
  /-- Another word stands in for a value that is there. -/
  | replace (orEmpty : Bool)
  /-- What a pattern fits is dropped from the start of the value. -/
  | dropStart (longest : Bool)
  /-- What a pattern fits is dropped from the end of the value. -/
  | dropEnd (longest : Bool)
  /-- Nothing that the shell knows. -/
  | malformed
deriving DecidableEq, Repr

/-- A part of a word. What stands between quotes is neither divided nor taken for a pattern. -/
inductive Piece where
  /-- Characters that stand for themselves. -/
  | plain (t : Text) (quoted : Bool)
  | parameter (name : Text) (use : Use) (argument : List Piece) (quoted : Bool)
  /-- The output of a script that starts on the given line. -/
  | output (line : Nat) (script : Text) (quoted : Bool)
  | arithmetic (expression : List Piece) (quoted : Bool)
deriving Repr

/-- A word before its pieces are replaced. -/
abbrev Word := List Piece

inductive Route where
  | read
  /-- To be written; a file that is there may be guarded. -/
  | write
  /-- To be written whatever is there. -/
  | overwrite
  | append
  /-- To be read and written at the start of what is there. -/
  | update
  /-- To where another descriptor leads. -/
  | copy
  /-- From a text in the script. -/
  | text
deriving DecidableEq, Repr

structure Redirect where
  descriptor : Nat
  route : Route
  target : Word
deriving Repr

inductive Command where
  /-- Words, with assignments before them. -/
  | simple (line : Nat) (assignments : List (Text × Word)) (words : List Word) (redirects : List Redirect)
  /-- The output of each command is the input of the next one. -/
  | pipeline (commands : List Command)
  | invert (c : Command)
  /-- The second command runs if the first one succeeds. -/
  | both (c d : Command)
  /-- The second command runs if the first one fails. -/
  | either (c d : Command)
  | sequence (commands : List Command)
  | background (c : Command)
  /-- A command whose changes to the shell are lost. -/
  | apart (line : Nat) (c : Command)
  | choice (condition c : Command) (otherwise : Option Command)
  /-- A loop that goes on as long as its condition succeeds, or fails if `untilDone`. -/
  | loop (untilDone : Bool) (condition c : Command)
  /-- A loop over words, or over the arguments of the script. -/
  | each (line : Nat) (name : Text) (words : Option (List Word)) (c : Command)
  | select (line : Nat) (word : Word) (arms : List (List Word × Command))
  | redirected (line : Nat) (c : Command) (redirects : List Redirect)
  | define (name : Text) (c : Command)

def Command.nothing : Command := .sequence []

end Flowchart.Shell
