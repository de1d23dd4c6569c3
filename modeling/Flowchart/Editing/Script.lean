import Flowchart.Regex.Reader

/-!
Scripts that edit a stream of lines. A script is a row of commands, each for the lines that its addresses
select; a command works on the line that has been read last and on one that is held back.
-/

namespace Flowchart.Editing

inductive Address where
  | line (n : Nat)
  /-- Every line from a first one on, in steps. -/
  | every (first step : Nat)
  | last
  /-- A line that an expression matches; without one the expression that was used last. -/
  | matching (r : Option Regex) (manyLines : Bool)
  /-- Before the first line. -/
  | before

inductive Stop where
  | at (a : Address)
  /-- So many lines further on. -/
  | behind (n : Nat)
  /-- At the next line that a number divides. -/
  | multiple (n : Nat)

/-- A part of what is put in the place of a match. -/
inductive Part where
  | text (t : Text)
  /-- What a group has matched; the whole match has the number 0. -/
  | group (n : Nat)
  /-- What follows is written in upper or lower case, or the next character is. -/
  | upper
  | lower
  | upperNext
  | lowerNext
  | asIs
deriving Repr

structure Substitution where
  regex : Option Regex
  parts : List Part
  /-- The first match that is replaced. -/
  first : Nat := 1
  /-- Whether all matches behind it are replaced too. -/
  all : Bool := false
  prints : Bool := false
  manyLines : Bool := false
  file : Option Text := none

inductive Action where
  /-- The start of a block, with the place behind its end. -/
  | block (stop : Nat)
  | stop
  | number
  | append (t : Text)
  | insert (t : Text)
  | change (t : Text)
  | label (name : Text)
  | jump (name : Text)
  | jumpIf (name : Text) (replaced : Bool)
  | delete
  | deleteFirst
  | hold
  | holdAppend
  | fetch
  | fetchAppend
  | exchange
  | list (width : Option Nat)
  | next
  | nextAppend
  | print
  | printFirst
  | quit (status : Nat) (silently : Bool)
  | read (path : Text)
  | readLine (path : Text)
  | substitute (s : Substitution)
  | translate (pairs : List (Char × Char))
  | write (path : Text)
  | writeFirst (path : Text)
  | name
  | empty

structure Command where
  start : Option Address
  stop : Option Stop
  turned : Bool
  action : Action

abbrev Script := Array Command

/-- The files that a script writes to. -/
def Script.targets (s : Script) : List Text :=
  s.toList.filterMap fun c =>
    match c.action with
    | .write path | .writeFirst path => some path
    | .substitute s => s.file
    | _ => none

def Script.place? (s : Script) (name : Text) : Option Nat :=
  if name = [] then some s.size
  else s.findIdx? fun c => match c.action with
    | .label l => l = name
    | _ => false

end Flowchart.Editing
