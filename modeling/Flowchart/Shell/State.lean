import Flowchart.Process.Basic
import Flowchart.Shell.Command
import Flowchart.Engine.Launch

/-!
The state of a shell: what it shares with other processes, its variables, functions and options, and how it
goes on. A command that leaves the usual course, as the end of the script does, says so in the state; what
would run behind it is passed over.
-/

namespace Flowchart.Shell

open Files

/-- How a shell leaves the usual course. -/
inductive Jump where
  /-- The shell ends. -/
  | quit (exit : Exit)
  /-- The shell ends because a command has failed. -/
  | failure
  /-- Loops are left, so many of them. -/
  | leave (loops : Nat)
  /-- Loops but for the last one are left, and that one goes on. -/
  | again (loops : Nat)
  /-- A function or a file of commands is left. -/
  | giveBack
deriving DecidableEq, Repr

/-- A variable. Its value is missing if only its marks are known. -/
structure Variable where
  name : Text
  value : Option Text
  exported : Bool := false
  fixed : Bool := false
deriving DecidableEq, Repr

structure State extends Process where
  /-- The name that messages start with. -/
  name : Text
  arguments : List Text
  bindings : List Variable
  functions : List (Text × Command) := []
  /-- Texts that stand in for the names of commands. -/
  aliases : List (Text × Text) := []
  /-- The status of the last command. -/
  status : Nat := 0
  /-- The letters of the options that are set. -/
  options : Text := []
  /-- Scripts for signals; signal 0 is the end of the shell. -/
  traps : List (Nat × Text) := []
  jump : Option Jump := none
  /-- The line of the command that runs. -/
  line : Nat := 0
  /-- The line up to which the script has been read. -/
  reached : Nat := 0
  /-- The built-in command that runs. -/
  builtin : Option Text := none
  /-- The number of the process. -/
  process : Nat
  /-- Whether this shell is a part of another one. -/
  inner : Bool := false
  /-- The number of loops around. -/
  loops : Nat := 0
  /-- The number of functions around. -/
  calls : Nat := 0
  /-- What variables were before they were made local to the function that runs. -/
  hidden : List (Text × Option Variable) := []
  /-- Whether the status of commands is looked at, so that failure does not end the shell. -/
  watched : Bool := false
  /-- The number and the status of processes in the background, the last one first. -/
  background : List (Nat × Nat) := []
  /-- The status of the last script whose output was taken, if there was one. -/
  taken : Option Nat := none
  /-- The place of the next letter among options that are read one by one. -/
  position : Nat := 1

namespace State

/-- Changes the process of a shell. -/
def withProcess (s : State) (p : Process) : State := { s with toProcess := p }

/-- Whether the shell goes on in the usual way. -/
def runs (s : State) : Bool := s.jump.isNone

def ended (s : State) (status : Nat) : State := { s with status := status }

def quit (s : State) (exit : Exit) : State := { s with jump := some (.quit exit) }

def quitWith (s : State) (status : Nat) : State := (s.ended status).quit (.code status)

def has (s : State) (option : Char) : Bool := s.options.contains option

/-! ### Messages -/

/-- Writes a text to the standard output. -/
def say (s : State) (t : Text) : State := s.withProcess (s.write 1 t)

/-- Says what is wrong, behind the name of the shell, the line, and the built-in command that runs. -/
def complain (s : State) (message : Text) : State :=
  let builtin := (s.builtin.map (· ++ ": ".toList)).getD []
  s.withProcess (s.write 2
    (s.name ++ ": ".toList ++ Text.decimal s.line ++ ": ".toList ++ builtin ++ message ++ ['\n']))

/-- Writes a text to the standard output and ends with a status, or fails if it is closed. -/
def put (s : State) (t : Text) (status : Nat) : State :=
  if t ≠ [] ∧ (s.stream? 1).isNone then
    (s.complain (s.builtin.getD [] ++ ": I/O error".toList)).ended 1
  else (s.say t).ended status

def fail (s : State) (message : Text) : State := (s.complain message).ended 2

/-- Says what is wrong and ends the shell. -/
def fatal (s : State) (message : Text) : State := { s.fail message with jump := some .failure }

/-! ### Variables -/

def named? (s : State) (name : Text) : Option Variable := s.bindings.find? fun v => v.name = name

def value? (s : State) (name : Text) : Option Text :=
  if name = "LINENO".toList then some (Text.decimal s.line) else (s.named? name).bind Variable.value

/-- Puts a variable in the place of the one of its name, or at the end. -/
def putVariable (s : State) (v : Variable) : State :=
  { s with bindings :=
      if (s.named? v.name).isSome then s.bindings.map fun w => if w.name = v.name then v else w
      else s.bindings ++ [v] }

/-- Gives a variable a value. A fixed variable cannot get one, which ends the shell. -/
def assign (s : State) (name value : Text) : State :=
  let v := (s.named? name).getD ⟨name, none, false, false⟩
  if v.fixed then s.fatal (name ++ ": is read only".toList)
  else
    let s := if name = "OPTIND".toList then { s with position := 1 } else s
    s.putVariable { v with value := some value, exported := v.exported || s.has 'a' }

def forget (s : State) (name : Text) : State := { s with bindings := s.bindings.filter fun v => v.name ≠ name }

/-- The variables that processes get. -/
def environment (s : State) : List (Text × Text) :=
  s.bindings.filterMap fun v => if v.exported then v.value.map fun t => (v.name, t) else none

def parameter? (s : State) (name : Text) : Option Text :=
  match name with
  | ['#'] => some (Text.decimal s.arguments.length)
  | ['?'] => some (Text.decimal s.status)
  | ['$'] => some (Text.decimal s.process)
  | ['-'] => some s.options
  | ['!'] => s.background.head?.map fun b => Text.decimal b.1
  | ['0'] => some s.name
  | name =>
    if name.all Char.isDigit then s.arguments[Text.natOfDigits 10 name - 1]? else s.value? name

/-- The characters that divide fields. -/
def separators (s : State) : Text := (s.value? "IFS".toList).getD [' ', '\t', '\n']

/-! ### Words for faults -/

/-- What a shell says of a file that it cannot open. -/
def openMessage : Fault → Text
  | .notFound | .notDirectory => "No such file".toList
  | fault => fault.name

/-- What a shell says of a file that it cannot make. -/
def createMessage : Fault → Text
  | .notFound | .notDirectory => "Directory nonexistent".toList
  | fault => fault.name

/-- What a shell says of a program that it cannot start. -/
def startMessage : Fault → Text
  | .notFound | .notDirectory => "not found".toList
  | fault => fault.name

end State

end Flowchart.Shell
