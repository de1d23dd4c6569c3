import Flowchart.Editing.Script

/-!
Running scripts that edit. Each line is read, worked on by the commands that select it, and written at the end of
its turn. What is written goes to outputs by name; nothing else is changed, so that a run is a function of the
lines and of the files that the script reads.
-/

namespace Flowchart.Editing

/-- A line of the input: whether a line feed ends it, and the number of the file that it comes from. -/
structure InputLine where
  text : Text
  ended : Bool
  file : Nat

inductive Output where
  /-- The usual output, while a file is being read. -/
  | main (file : Nat)
  | file (path : Text)
deriving DecidableEq, Repr

/-- What is written at the end of a turn. -/
inductive Queued where
  | text (t : Text)
  | file (path : Text)
  | line (path : Text)

inductive Activity where
  | idle
  /-- Up to a line of a number. -/
  | upTo (n : Nat)
  /-- Up to a line that the end of the range selects. -/
  | upToMatch
deriving DecidableEq, Repr

/-- What does not change during a run. -/
structure Setting where
  script : Script
  /-- Whether lines are written only when a command says so. -/
  quiet : Bool
  /-- Whether each file has lines and a last line of its own. -/
  separate : Bool
  /-- What ends a line. -/
  mark : Char
  /-- How wide lines are that are listed. -/
  width : Nat
  names : Array Text
  contents : Text → Option Text

structure State where
  current : Text := []
  ended : Bool := true
  held : Text := []
  line : Nat := 0
  file : Nat := 0
  waiting : List InputLine
  queue : List Queued := []
  replaced : Bool := false
  activity : Array Activity
  lastRegex : Option Regex := none
  /-- What has been written, the last part first. -/
  written : List (Output × Text) := []
  /-- The outputs whose last line lacks its end. -/
  unfinished : List Output := []
  /-- The lines that are left of files that are read line by line. -/
  readers : List (Text × List Text) := []
  /-- The status, when the run is over. -/
  status : Option Nat := none
  /-- Whether an expression was needed that had not been used. -/
  lacksRegex : Bool := false

namespace State

def main (s : State) (c : Setting) : Output := .main (if c.separate then s.file else 0)

def output (s : State) (c : Setting) (path : Text) : Output :=
  if path = "/dev/stdout".toList then s.main c else .file path

/-- Writes a text; with `ended` a mark behind it. A line without an end gets one when more follows. -/
def write (s : State) (c : Setting) (o : Output) (t : Text) (ended : Bool) : State :=
  let before := if s.unfinished.contains o then [c.mark] else []
  { s with
    written := (o, before ++ t ++ if ended then [c.mark] else []) :: s.written
    unfinished := if ended then s.unfinished.filter (· ≠ o) else o :: s.unfinished.filter (· ≠ o) }

/-- Writes a text that brings the end of its line along. -/
def writeText (s : State) (c : Setting) (o : Output) (t : Text) : State :=
  if t = [] then s
  else
    let s := s.write c o t true
    { s with written := match s.written with
        | (o, t) :: more => (o, t.dropLast) :: more
        | [] => [] }

def print (s : State) (c : Setting) (o : Output) : State := s.write c o s.current s.ended

/-- Writes what has been put off to the end of the turn. -/
def flush (s : State) (c : Setting) : State :=
  let s' := s.queue.reverse.foldl (fun s q =>
    match q with
    | .text t => s.writeText c (s.main c) t
    | .file path => ((c.contents path).map (s.writeText c (s.main c))).getD s
    | .line path =>
      let left := (s.readers.lookup path).getD (match c.contents path with
        | some t => if t = [] then [] else Text.splitAt c.mark (if t.getLast? = some c.mark then t.dropLast else t)
        | none => [])
      match left with
      | [] => s
      | t :: more =>
        { s.write c (s.main c) t true with readers := (path, more) :: s.readers.filter fun r => r.1 ≠ path }) s
  { s' with queue := [] }

/-- Whether the current line is the last one. -/
def isLast (s : State) (c : Setting) : Bool :=
  match s.waiting with
  | [] => true
  | next :: _ => c.separate && next.file ≠ s.file

/-- Takes the next line; with `behind` it is put behind the current one. -/
def advance (s : State) (c : Setting) (behind : Bool) : State :=
  match s.waiting with
  | [] => s
  | next :: waiting =>
    { s with
      current := if behind then s.current ++ c.mark :: next.text else next.text
      ended := next.ended
      line := if c.separate ∧ next.file ≠ s.file then 1 else s.line + 1
      file := next.file
      waiting }

def quit (s : State) (status : Nat) : State := { s with status := some status }

/-! ### Selecting lines -/

/-- Whether an expression matches the current line; notes it as the one that was used last. -/
def matchesLine (s : State) (r : Option Regex) (manyLines : Bool) : Bool × State :=
  match r <|> s.lastRegex with
  | none => (false, { s with lacksRegex := true, status := some 1 })
  | some r => ((r.find? { Regex.Subject.ofText s.current with manyLines }).isSome, { s with lastRegex := some r })

/-- Whether an address selects the current line. -/
def isAt (s : State) (c : Setting) : Address → Bool × State
  | .line n => (s.line = n, s)
  | .every first step => (first ≤ s.line && (s.line - first) % step = 0, s)
  | .last => (s.isLast c, s)
  | .matching r manyLines => s.matchesLine r manyLines
  | .before => (false, s)

/-- Whether a command selects the current line, apart from being turned around. -/
def selects (s : State) (c : Setting) (place : Nat) (command : Command) : Bool × State :=
  match command.start with
  | none => (true, s)
  | some start =>
    let setActivity (s : State) (a : Activity) : State := { s with activity := s.activity.setIfInBounds place a }
    match command.stop, s.activity.getD place .idle with
    | none, _ => s.isAt c start
    | some _, .upTo n => (s.line ≤ n, if n ≤ s.line then setActivity s .idle else s)
    | some stop, .upToMatch =>
      let (found, s) := match stop with
        | .at a => s.isAt c a
        | _ => (true, s)
      (true, if found then setActivity s .idle else s)
    | some stop, .idle =>
      let (found, s) := s.isAt c start
      if !found then (false, s)
      else
        let untilLine (n : Nat) : State := if n ≤ s.line then s else setActivity s (.upTo n)
        match stop with
        | .at (.line n) => (true, untilLine n)
        | .at .last => (true, if s.isLast c then s else setActivity s .upToMatch)
        | .at _ => (true, setActivity s .upToMatch)
        | .behind n => (true, untilLine (s.line + n))
        | .multiple n => (true, if n = 0 then s else untilLine ((s.line + n - 1) / n * n))

/-! ### Substituting -/

/-- A text that grows, and how what is added is written. -/
structure Growing where
  reversed : Text := []
  upper : Option Bool := none
  upperNext : Option Bool := none

def Growing.add (g : Growing) (t : Text) : Growing :=
  let cased (upper : Option Bool) (c : Char) : Char := match upper with
    | some true => c.toUpper
    | some false => c.toLower
    | none => c
  match t with
  | [] => g
  | c :: rest =>
    let first := cased (g.upperNext <|> g.upper) c
    { g with reversed := (rest.map (cased g.upper)).reverse ++ first :: g.reversed, upperNext := none }

/-- Adds what is put in the place of a match. -/
def Growing.replace (g : Growing) (s : Regex.Subject) (m : Regex.Match) (parts : List Part) : Growing :=
  let g := parts.foldl (fun (g : Growing) part =>
    match part with
    | .text t => g.add t
    | .group n => g.add (m.groupText s n)
    | .upper => { g with upper := some true }
    | .lower => { g with upper := some false }
    | .upperNext => { g with upperNext := some true }
    | .lowerNext => { g with upperNext := some false }
    | .asIs => { g with upper := none, upperNext := none }) g
  { g with upper := none, upperNext := none }

/-- Substitutes in the current line. -/
def substitute (s : State) (c : Setting) (y : Substitution) : State :=
  match y.regex <|> s.lastRegex with
  | none => { s with lacksRegex := true, status := some 1 }
  | some r =>
    let s := { s with lastRegex := some r }
    let subject := { Regex.Subject.ofText s.current with manyLines := y.manyLines }
    let found := if y.all ∨ 1 < y.first then r.allMatches subject else (r.find? subject).toList
    let chosen := if y.all then found.drop (y.first - 1) else (found.drop (y.first - 1)).take 1
    if chosen.isEmpty then s
    else
      let (g, place) := chosen.foldl (fun (g, place) m =>
        ((g.add (subject.slice ⟨place, m.start⟩)).replace subject m y.parts, m.stop)) (({} : Growing), 0)
      let g := g.add (subject.slice ⟨place, subject.chars.size⟩)
      let s := { s with current := g.reversed.reverse, replaced := true }
      let s := if y.prints then s.print c (s.main c) else s
      match y.file with
      | some path => s.print c (s.output c path)
      | none => s

/-! ### Listing -/

def listedChar (c : Char) : Text :=
  let letters := [('\x07', 'a'), ('\x08', 'b'), ('\x0c', 'f'), ('\n', 'n'), ('\r', 'r'), ('\t', 't'), ('\x0b', 'v'), ('\\', '\\')]
  match letters.lookup c with
  | some l => ['\\', l]
  | none =>
    if ' ' ≤ c ∧ c ≤ '~' then [c]
    else
      let digits := Nat.toDigits 8 c.toNat
      '\\' :: List.replicate (3 - digits.length) '0' ++ digits

/-- A text as it is listed, in lines of a width. -/
def listed (width : Nat) (t : Text) : Text :=
  let (out, _) := t.foldl (fun (out, column) c =>
    let shown := listedChar c
    if 1 < width ∧ width - 1 < column + shown.length then
      (shown.reverse ++ '\n' :: '\\' :: out, shown.length)
    else (shown.reverse ++ out, column + shown.length)) (([] : Text), 0)
  out.reverse ++ ['$']

/-! ### Turns -/

/-- How a turn goes on behind a command. -/
inductive Flow where
  | to (place : Nat)
  /-- The turn is over; the line is written unless it is not to be. -/
  | over (prints : Bool)
  /-- The turn starts again with what is left of the line. -/
  | again

def perform (s : State) (c : Setting) (place : Nat) : Action → State × Flow
  | .block _ | .stop | .label _ => (s, .to (place + 1))
  | .number => (s.write c (s.main c) (Text.decimal s.line) true, .to (place + 1))
  | .append t => ({ s with queue := .text t :: s.queue }, .to (place + 1))
  | .insert t => (s.writeText c (s.main c) t, .to (place + 1))
  | .change t =>
    let idle := s.activity.getD place .idle = .idle
    (if idle then s.writeText c (s.main c) t else s, .over false)
  | .jump name => (s, .to ((c.script.place? name).getD c.script.size))
  | .jumpIf name replaced =>
    if s.replaced = replaced then ({ s with replaced := false }, .to ((c.script.place? name).getD c.script.size))
    else ({ s with replaced := false }, .to (place + 1))
  | .delete => (s, .over false)
  | .deleteFirst =>
    match Text.cut? c.mark s.current with
    | some (_, rest) => ({ s with current := rest }, .again)
    | none => (s, .over false)
  | .hold => ({ s with held := s.current }, .to (place + 1))
  | .holdAppend => ({ s with held := s.held ++ c.mark :: s.current }, .to (place + 1))
  | .fetch => ({ s with current := s.held }, .to (place + 1))
  | .fetchAppend => ({ s with current := s.current ++ c.mark :: s.held }, .to (place + 1))
  | .exchange => ({ s with current := s.held, held := s.current }, .to (place + 1))
  | .list width => (s.write c (s.main c) (listed (width.getD c.width) s.current) true, .to (place + 1))
  | .next =>
    if s.waiting.isEmpty then (s.quit 0, .over true)
    else
      let s := if c.quiet then s else s.print c (s.main c)
      ((s.flush c).advance c false, .to (place + 1))
  | .nextAppend =>
    if s.waiting.isEmpty then (s.quit 0, .over true) else ((s.flush c).advance c true, .to (place + 1))
  | .print => (s.print c (s.main c), .to (place + 1))
  | .printFirst => (s.write c (s.main c) (s.current.takeWhile (· ≠ c.mark)) true, .to (place + 1))
  | .quit status silently => (s.quit status, .over !silently)
  | .read path => ({ s with queue := .file path :: s.queue }, .to (place + 1))
  | .readLine path => ({ s with queue := .line path :: s.queue }, .to (place + 1))
  | .substitute y => (s.substitute c y, .to (place + 1))
  | .translate pairs => ({ s with current := s.current.map fun x => (pairs.lookup x).getD x }, .to (place + 1))
  | .write path => (s.print c (s.output c path), .to (place + 1))
  | .writeFirst path => (s.write c (s.output c path) (s.current.takeWhile (· ≠ c.mark)) true, .to (place + 1))
  | .name => (s.write c (s.main c) (c.names.getD s.file []) true, .to (place + 1))
  | .empty => ({ s with current := [] }, .to (place + 1))

/-- Runs the commands from a place on, and turn after turn. -/
def run (c : Setting) : Nat → Nat → State → State
  | 0, _, s => s
  | fuel + 1, place, s =>
    let turn (s : State) (prints : Bool) : State :=
      let s := if prints ∧ !c.quiet ∧ !s.lacksRegex then s.print c (s.main c) else s
      let s := s.flush c
      if s.status.isSome ∨ s.waiting.isEmpty then s else run c fuel 0 (s.advance c false)
    match c.script[place]? with
    | none => turn s true
    | some command =>
      let (selected, s) := s.selects c place command
      if s.lacksRegex then s
      else if selected = command.turned then
        match command.action with
        | .block stop => run c fuel stop s
        | _ => run c fuel (place + 1) s
      else
        let (s, flow) := s.perform c place command.action
        match flow with
        | .to place => if s.lacksRegex then s else run c fuel place s
        | .over prints => turn s prints
        | .again => run c fuel 0 (s.flush c)

end State

/-- How many commands a run carries out at most. -/
def maxSteps : Nat := 4000000

def Setting.start (c : Setting) (lines : List InputLine) : State :=
  let activity := c.script.map fun command => match command.start with
    | some .before => Activity.upToMatch
    | _ => .idle
  let s : State := { waiting := lines, activity }
  if lines.isEmpty then s
  else
    let first := s.advance c false
    State.run c maxSteps 0 { first with line := 1 }

end Flowchart.Editing
