import Flowchart.Shell.Arithmetic
import Flowchart.Shell.Field
import Flowchart.Shell.Script

/-!
What words become. A parameter gives its value, a script its output and an expression its number. What is
replaced may change the shell: a script runs on the same files, and a parameter may get a value or end the
shell. How a command is run is a parameter of everything here.
-/

namespace Flowchart.Shell

abbrev Runner := Command → State → State

/-- Runs the lines of a script one after the other, each as soon as it has been read; a line that cannot be
read ends the shell. -/
def State.runLines (run : Runner) : Nat → Input → State → State
  | 0, _, s => s
  | fuel + 1, i, s =>
    if !s.runs then s
    else match { i with aliases := s.aliases }.nextLine? with
      | none => s
      | some (.error fault) => { s with line := fault.line }.fatal ("Syntax error: ".toList ++ fault.reason)
      | some (.ok (c, i)) => State.runLines run fuel i (run c { s with reached := i.reached })

/-- Runs a script whose first line has a number. -/
def State.runScript (run : Runner) (line : Nat) (t : Text) (s : State) : State :=
  s.runLines run (t.length + 1) (Input.ofScript s.aliases line t)

/-- A shell that is a part of this one: it has no traps of its own. -/
def State.part (s : State) : State :=
  { s with inner := true, traps := s.traps.filter fun t => t.2 = [], background := [] }

/-- Runs the script for the end of the shell. It sees the status, and changes it only if it ends the shell
itself. -/
def State.concluded (run : Runner) (s : State) : State :=
  match s.jump, s.traps.lookup 0 with
  | some (.quit (.signal ..)), _ | _, none | _, some [] => s
  | jump, some script =>
    let status := match jump with
      | some (.quit (.code n)) => n
      | _ => s.status
    let after := State.runScript run 1 script
      { s with jump := none, status := status, builtin := none, traps := s.traps.filter fun t => t.1 ≠ 0 }
    match after.jump with
    | some (.quit _) | some .failure => after
    | _ => after.quitWith status

/-- How a shell that is done has ended. -/
def State.exit (s : State) : Exit :=
  match s.jump with
  | some (.quit exit) => exit
  | _ => .code s.status

/-- The status that tells how a process has ended. -/
def statusOf : Exit → Nat
  | .code n => n
  | .signal n _ => 128 + n

/-- Runs a part of the shell and takes over what it has changed of the world. -/
def State.runPart (run : Runner) (s : State) (body : State → State) : State × Exit :=
  let part := (body s.part).concluded run
  ({ s with world := part.world }, part.exit)

/-- The output of a script, without the line feeds at its end. -/
def State.outputOf (run : Runner) (s : State) (line : Nat) (script : Text) : Text × State :=
  let (w, n) := s.world.addStream .store
  let inside := { s with world := w }
  let (after, exit) := State.runPart run inside fun part =>
    let part := { part with toProcess := part.attach 1 n, watched := false }
    match commandsOf s.aliases line script with
    | .ok c => run c part
    | .error fault => { part with line := fault.line }.fatal ("Syntax error: ".toList ++ fault.reason)
  let out := (after.world.written n).filter (· ≠ 0)
  let t := ((Text.ofOctets out).reverse.dropWhile (· = '\n')).reverse
  (t, { after with taken := some (statusOf exit) })

/-- The arguments of the shell as scraps. -/
def State.argumentScraps (s : State) (together quoted : Bool) : List Scrap :=
  if quoted ∧ together then
    scraps true ((s.separators.take 1).intercalate s.arguments)
  else [Scrap.boundary].intercalate (s.arguments.map (scraps quoted))

/-- Whether a parameter stands for all arguments. -/
def isArguments (name : Text) : Bool := name = ['@'] || name = ['*']

/-- The value of a parameter as scraps, if there is one, and whether it is empty. -/
def State.valueScraps (s : State) (name : Text) (quoted : Bool) : Option (List Scrap × Text) :=
  if isArguments name then
    if s.arguments = [] then none
    else some (s.argumentScraps (name = ['*']) quoted, [' '].intercalate s.arguments)
  else (s.parameter? name).map fun t => (scraps quoted t, t)

/-- The directory that belongs to a name; the empty name stands for the one who runs the shell. -/
def State.home? (s : State) (name : Text) : Option Text :=
  if name = [] then s.value? "HOME".toList
  else if name = "root".toList then some "/root".toList
  else none

/-- The start of a text that is a tilde and a name, with what follows it; with `colons` a colon ends the
name too. -/
def State.tilde? (s : State) (colons isLast : Bool) (t : Text) : Option (Text × Text) :=
  match t with
  | '~' :: rest =>
    let name := rest.takeWhile fun c => c ≠ '/' && !(colons && c = ':')
    let behind := rest.drop name.length
    if behind = [] ∧ !isLast then none else (s.home? name).map (·, behind)
  | _ => none

/-- The pieces for the characters of a value with directories in the place of tildes behind colons. -/
def State.afterColons (s : State) (isLast : Bool) : Nat → Text → Word
  | 0, t => [.plain t false]
  | fuel + 1, t =>
    let part := t.takeWhile (· ≠ ':')
    let rest := t.drop part.length
    let shown := match s.tilde? true (isLast || rest ≠ []) part with
      | some (home, behind) => [Piece.plain home true, .plain behind false]
      | none => [.plain part false]
    match rest with
    | [] => shown
    | _ :: more => shown ++ Piece.plain [':'] false :: s.afterColons isLast fuel more

/-- Puts directories in the place of tildes behind colons in the pieces of a value. -/
def State.homedRest (s : State) : Word → Word
  | [] => []
  | .plain t false :: more =>
    let part := t.takeWhile (· ≠ ':')
    match t.drop part.length with
    | _ :: rest => .plain (part ++ [':']) false :: s.afterColons more.isEmpty (rest.length + 1) rest ++ s.homedRest more
    | [] => .plain t false :: s.homedRest more
  | p :: more => p :: s.homedRest more

/-- Puts directories in the place of tildes in a value: at its start and behind colons. -/
def State.homedValue (s : State) : Word → Word
  | .plain t false :: more => s.afterColons more.isEmpty (t.length + 1) t ++ s.homedRest more
  | w => s.homedRest w

/-- Characters that are written in a word and not quoted, as scraps. -/
def plainScraps (loosely : Bool) (t : Text) : List Scrap :=
  if loosely then t.map .loose else t.map fun c => .glyph ⟨c, false⟩

/-- What a piece at the start of a word becomes if it starts with a tilde for a directory. -/
def State.homeScraps? (s : State) (loosely isLast : Bool) : Piece → Option (List Scrap)
  | .plain t false => (s.tilde? false isLast t).map fun (home, behind) => scraps true home ++ plainScraps loosely behind
  | _ => none

mutual

/-- What a word becomes. Inside what stands in for a value, `loosely` written characters may divide fields
as those of a value do. With `homes` a tilde at the start stands for a directory. -/
def expandWord (run : Runner) (loosely homes : Bool) (s : State) : List Piece → List Scrap × State
  | [] => ([], s)
  | p :: more =>
    let (row, s) :=
      match if homes then s.homeScraps? loosely more.isEmpty p else none with
      | some row => (row, s)
      | none => expandPiece run loosely s p
    if s.runs then
      let (rest, s) := expandWord run loosely false s more
      (row ++ rest, s)
    else ([], s)

def expandPiece (run : Runner) (loosely : Bool) (s : State) : Piece → List Scrap × State
  | .plain t quoted =>
    if quoted then (scraps true t, s) else (plainScraps loosely t, s)
  | .output line script quoted =>
    let (t, s) := s.outputOf run line script
    (scraps quoted t, s)
  | .arithmetic expression quoted =>
    let (row, s) := expandWord run false false s expression
    if !s.runs then ([], s)
    else
      let t := Scrap.joined row
      match Arithmetic.evaluate (fun name => (s.value? name).getD []) t with
      | .error (.expression reason) =>
        ([], s.fatal ("arithmetic expression: ".toList ++ reason.toList ++ ": ".toList ++ inQuotes t))
      | .error (.illegal value) => ([], s.fatal ("Illegal number: ".toList ++ value))
      | .ok (n, assigned) =>
        let digits (n : Int) : Text := (if n < 0 then ['-'] else []) ++ Text.decimal n.natAbs
        let s := assigned.reverse.foldl (fun s (name, n) => if s.runs then s.assign name (digits n) else s) s
        (scraps quoted (digits n), s)
  | .parameter name use argument quoted =>
    let found := s.valueScraps name quoted
    let missing (orEmpty : Bool) : Bool := match found with
      | none => true
      | some (_, t) => orEmpty && t = []
    let unset : List Scrap × State :=
      if s.has 'u' && found.isNone && !isArguments name then
        ([], s.fatal (name ++ ": parameter not set".toList))
      else (if quoted ∧ name ≠ ['@'] then [.hold] else [], s)
    let value : List Scrap × State := match found with
      | some (row, _) => (row, s)
      | none => unset
    let standIn : List Scrap × State :=
      let (row, s) := expandWord run (!quoted) true s argument
      (if quoted ∧ argument.isEmpty then .hold :: row else row, s)
    match use with
    | .value => value
    | .length =>
      match found with
      | some (_, t) => (scraps quoted (Text.decimal t.length), s)
      | none => if s.has 'u' && !isArguments name then unset else (scraps quoted ['0'], s)
    | .default orEmpty => if missing orEmpty then standIn else value
    | .replace orEmpty =>
      if missing orEmpty then (if quoted ∧ name ≠ ['@'] then [.hold] else [], s) else standIn
    | .assign orEmpty =>
      if missing orEmpty then
        let (row, s) := expandWord run false true s argument
        if !s.runs then ([], s)
        else if isName name then
          let t := Scrap.joined row
          (scraps quoted t, s.assign name t)
        else ([], s.fatal (name ++ ": bad variable name".toList))
      else value
    | .demand orEmpty =>
      if missing orEmpty then
        let (row, s) := expandWord run false true s argument
        if !s.runs then ([], s)
        else
          let t := Scrap.joined row
          let message := if argument.isEmpty then
            "parameter not set".toList ++ (if orEmpty then " or null".toList else []) else t
          ([], s.fatal (name ++ ": ".toList ++ message))
      else value
    | .dropStart longest =>
      let (row, s) := expandWord run false true s argument
      match found with
      | some (_, t) => (scraps quoted (dropStart longest (patternOf (Scrap.glyphs row)) t), s)
      | none => unset
    | .dropEnd longest =>
      let (row, s) := expandWord run false true s argument
      match found with
      | some (_, t) => (scraps quoted (dropEnd longest (patternOf (Scrap.glyphs row)) t), s)
      | none => unset
    | .malformed => ([], s.fatal "Bad substitution".toList)

end

def expandWords (run : Runner) (s : State) : List Word → List Text × State
  | [] => ([], s)
  | w :: more =>
    let (row, s) := expandWord run false true s w
    if s.runs then
      let texts := s.texts row
      let (rest, s) := expandWords run s more
      (texts ++ rest, s)
    else ([], s)

/-- The text that a word becomes where it is not divided. -/
def expandText (run : Runner) (s : State) (w : Word) : Text × State :=
  let (row, s) := expandWord run false true s w
  (Scrap.joined row, s)

/-- The text that a word becomes that is the value of an assignment. -/
def expandValue (run : Runner) (s : State) (w : Word) : Text × State :=
  let (row, s) := expandWord run false false s (s.homedValue w)
  (Scrap.joined row, s)

/-- The texts that words become where assignments among them are not divided. -/
def expandDeclarations (run : Runner) (s : State) : List Word → List Text × State
  | [] => ([], s)
  | w :: more =>
    match assignment? w with
    | some (name, value) =>
      let (t, s) := expandValue run s value
      if s.runs then
        let (rest, s) := expandDeclarations run s more
        ((name ++ '=' :: t) :: rest, s)
      else ([], s)
    | none =>
      let (row, s) := expandWord run false true s w
      if s.runs then
        let texts := s.texts row
        let (rest, s) := expandDeclarations run s more
        (texts ++ rest, s)
      else ([], s)

/-- The pattern that a word becomes. -/
def expandPattern (run : Runner) (s : State) (w : Word) : List Fit × State :=
  let (row, s) := expandWord run false true s w
  (patternOf (Scrap.glyphs row), s)

end Flowchart.Shell
