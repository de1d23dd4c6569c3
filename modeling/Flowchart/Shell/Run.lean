import Flowchart.Shell.Builtin
import Flowchart.Tool.Table

/-!
Running commands. Each kind of command is run by way of a runner for the commands in it; `run` ties the
knot with a bound on how deep commands may stand in each other, and turns of loops are bounded too.
-/

namespace Flowchart.Shell

open Files Tool

/-! ### Signals -/

/-- What is said of a process that a signal has ended. -/
def signalTold : List (Nat × Text) :=
  [(1, "Hangup".toList), (3, "Quit".toList), (4, "Illegal instruction".toList), (5, "Trace/breakpoint trap".toList),
   (6, "Aborted".toList), (7, "Bus error".toList), (8, "Floating point exception".toList), (9, "Killed".toList),
   (10, "User defined signal 1".toList), (11, "Segmentation fault".toList), (12, "User defined signal 2".toList),
   (14, "Alarm clock".toList), (15, "Terminated".toList), (16, "Stack fault".toList),
   (24, "CPU time limit exceeded".toList), (25, "File size limit exceeded".toList),
   (26, "Virtual timer expired".toList), (27, "Profiling timer expired".toList), (29, "I/O possible".toList),
   (30, "Power failure".toList), (31, "Bad system call".toList)]

/-- Whether a signal does nothing to a process that does not ask for it. -/
def isHarmless (signal : Nat) : Bool := [17, 18, 19, 20, 21, 22, 23, 28].contains signal

/-- Takes the status from the way a process ended, and tells of a signal that ended it. -/
def State.after (s : State) (exit : Exit) : State :=
  match exit with
  | .code n => s.ended n
  | .signal n _ =>
    let s := s.ended (128 + n)
    match signalTold.lookup n with
    | some t => s.withProcess (s.write 2 (t ++ ['\n']))
    | none => s

/-- Deals with the signals that have been sent to the shell: a script runs for those that have one, and
the others end the shell. -/
def State.takeSignals (run : Runner) (s : State) : State :=
  if s.inner ∨ s.world.signals.isEmpty then s
  else
    let (w, signals) := s.world.takeSignals s.process
    signals.foldl (fun s signal =>
      if !s.runs && s.jump != some .giveBack then s
      else match s.traps.lookup signal with
        | some script =>
          if signal = 9 then s.quit (.signal 9 false)
          else if script = [] then s
          else
            let status := s.status
            let after := State.runScript run 1 script { s with jump := none, builtin := none }
            if after.runs then { after with status := status, jump := s.jump, builtin := s.builtin } else after
        | none => if isHarmless signal then s else s.quit (.signal signal false)) { s with world := w }

/-! ### Redirections -/

/-- Applies redirections one after the other; one that fails is told. -/
def redirect (run : Runner) (s : State) : List Redirect → State × Bool
  | [] => (s, true)
  | r :: more =>
    let opened (s : State) (path : Text) (message : Fault → Text) (verb : String)
        (result : Except Fault (Process × Nat)) : State × Bool :=
      match result with
      | .ok (p, n) => redirect run (s.withProcess (p.attach r.descriptor n)) more
      | .error fault =>
        (s.fail ("cannot ".toList ++ verb.toList ++ ' ' :: path ++ ": ".toList ++ message fault), false)
    let (target, s) := expandText run s r.target
    if !s.runs then (s, false)
    else
      match r.route with
      | .read => opened s target State.openMessage "open" (s.openToRead target)
      | .write =>
        if s.has 'C' ∧ s.tree.isFile (s.path target) then
          (s.fail ("cannot create ".toList ++ target ++ told .alreadyThere), false)
        else opened s target State.createMessage "create" (s.openToWrite target false false)
      | .overwrite => opened s target State.createMessage "create" (s.openToWrite target false false)
      | .append => opened s target State.createMessage "create" (s.openToWrite target true true)
      | .update => opened s target State.createMessage "create" (s.openToWrite target true false)
      | .text =>
        let (w, n) := s.world.addStream (.source (Text.octets target) .whole)
        redirect run (s.withProcess ({ s.toProcess with world := w }.attach r.descriptor n)) more
      | .copy =>
        if target = ['-'] then redirect run (s.withProcess (s.close r.descriptor)) more
        else match (natural? target).filter fun _ => target.length = 1 with
          | none => ({ s with line := s.reached }.fatal "Syntax error: Bad fd number".toList, false)
          | some n =>
            match s.stream? n with
            | some stream => redirect run (s.withProcess (s.attach r.descriptor stream)) more
            | none => (s.fail (Text.decimal n ++ ": Bad file descriptor".toList), false)

/-- Runs something with redirections, which are taken back behind it. -/
def redirected (run : Runner) (s : State) (rs : List Redirect) (body : State → State) : State :=
  let before := s.descriptors
  let (s, fine) := redirect run s rs
  let s := if fine then body s else s
  { s with descriptors := before }

/-! ### Programs -/

/-- What is started for a path: the tool or starter, the name it is called by, and its arguments. -/
structure Started where
  program : Text
  name : Text
  arguments : List Text

/-- The interpreter that the first line of a script names, and the argument behind it. -/
def interpreter? (content : Bytes) : Option (Text × Option Text) :=
  match Text.ofOctets (content.takeWhile (· ≠ 10)) with
  | '#' :: '!' :: line =>
    let isSpace := fun c : Char => c == ' ' || c == '\t'
    let line := (line.dropWhile isSpace).reverse.dropWhile isSpace |>.reverse
    let name := line.takeWhile (!isSpace ·)
    let argument := (line.drop name.length).dropWhile isSpace
    some (name, if argument = [] then none else some argument)
  | _ => none

/-- Finds what a path starts. A script starts its interpreter, with the path of the script among its
arguments. -/
def resolve (p : Process) : Nat → Text → Text → List Text → Except Fault Started
  | 0, _, _, _ => .error .tooManyLinks
  | fuel + 1, path, name, arguments =>
    match p.look path with
    | .error fault => .error fault
    | .ok (_, .file n) =>
      let f := p.tree.fileNumbered n
      if !f.isExecutable then .error .denied
      else match ofContent? f.content, interpreter? f.content with
        | some program, _ => .ok ⟨program, name, arguments⟩
        | none, some (interpreter, argument) =>
          if interpreter = [] then .error .notExecutable
          else resolve p fuel interpreter interpreter (argument.toList ++ path :: arguments)
        | none, none => .error .notExecutable
    | .ok _ => .error .denied

/-- The paths at which a program is looked for: in each directory of a list, or where a slash says. -/
def candidates (directories name : Text) : List Text :=
  if '/' ∈ name then [name]
  else (Text.splitAt ':' directories).map fun d => if d = [] then name else inDirectory d name

/-- Whether bytes may be a script: no line feed follows a zero. -/
def mayBeScript (content : Bytes) : Bool := !(content.takeWhile (· ≠ 10)).contains 0

/-- The state of a shell that starts: variables come from the environment. -/
def State.fresh (p : Process) (process : Nat) (name : Text) (arguments : List Text)
    (environment : List (Text × Text)) : State :=
  let given := environment.filterMap fun (name, t) => if isName name then some ⟨name, some t, true, false⟩ else none
  { toProcess := p, name := name, arguments := arguments, process := process
    bindings := given ++ [⟨"IFS".toList, some [' ', '\t', '\n'], false, false⟩,
      ⟨"OPTIND".toList, some ['1'], false, false⟩, ⟨"PS4".toList, some ['+', ' '], false, false⟩] }

/-- Reads the arguments of a shell that starts: options, and whether a script is an argument itself. -/
def startOptions (s : State) : Nat → List Text → State × Bool × List Text
  | 0, arguments => (s, false, arguments)
  | fuel + 1, arguments =>
    match arguments with
    | ['-', '-'] :: more => (s, false, more)
    | ['-'] :: more => (s, false, more)
    | ['-', 'o'] :: name :: more =>
      match optionNames.find? fun o => o.1.toList = name with
      | some (_, c) => startOptions (s.setOption true c) fuel more
      | none => (s.fatal ("Illegal option -o ".toList ++ name), false, more)
    | ('-' :: letters) :: more =>
      match letters.find? fun c => !(optionLetters ++ ['c', 'l']).contains c with
      | some c => (s.fatal ("Illegal option -".toList ++ [c]), false, more)
      | none =>
        let s := letters.foldl (fun s c => s.setOption true c) s
        let (s, script, rest) := startOptions s fuel more
        (s, script || letters.contains 'c', rest)
    | arguments => (s, false, arguments)

/-- Runs a shell that starts with arguments: on a script in a file, in an argument, or in the standard
input. -/
def runShell (run : Runner) (p : Process) (process : Nat) (name : Text) (arguments : List Text)
    (environment : List (Text × Text)) : Exit × Process :=
  let (s, isText, arguments) := startOptions (State.fresh p process name [] environment) (arguments.length + 1) arguments
  let perform (s : State) (script : Text) : State := s.runScript run 1 (script.filter (· ≠ '\x00'))
  let fromInput (s : State) : State :=
    let (p, t) := s.readAll 0
    perform (s.withProcess p) t
  let s :=
    if !s.runs then s
    else match isText, arguments with
      | true, [] => s.fatal "-c requires an argument".toList
      | true, script :: more => perform { s with name := more.head?.getD name, arguments := more.tail } script
      | false, path :: more =>
        if s.has 's' then fromInput { s with arguments := path :: more }
        else
          match s.read path with
          | .error .isDirectory => s.ended 0
          | .error fault => s.fatal ("cannot open ".toList ++ path ++ ": ".toList ++ State.openMessage fault)
          | .ok (p, content) => perform { s.withProcess p with name := path, arguments := more } content
      | false, [] => fromInput s
  let s := s.concluded run
  (s.exit, s.toProcess)

/-- Tries what is found at some paths in turn, as processes do that start a program by name: a file that is
no program is run as a script. -/
def startFirst (start : Text → List Text → Except Fault (Exit × Process)) (arguments : List Text) :
    Bool → List Text → Except Fault (Exit × Process)
  | denied, [] => .error (if denied then .denied else .notFound)
  | denied, path :: more =>
    match start path (path :: arguments) with
    | .error .notFound | .error .notDirectory => startFirst start arguments denied more
    | .error .denied => startFirst start arguments true more
    | result => result

/-- Starts the program at a path and waits for it. A process that writes where nobody reads is ended by a
signal. -/
def startAt (run : Runner) (p : Process) (path name : Text) (arguments : List Text)
    (environment : List (Text × Text)) : Nat → Except Fault (Exit × Process)
  | 0 => .error .tooManyLinks
  | fuel + 1 => do
    let started ← resolve p 5 path name arguments
    let (w, process) := p.world.start
    let inside := { p with world := w }
    let startOther : Starter := fun p name arguments environment =>
      let directories := (environment.lookup "PATH".toList).getD "/bin:/usr/bin".toList
      let start (path : Text) (words : List Text) : Except Fault (Exit × Process) :=
        match startAt run p path name words.tail environment fuel with
        | .error .notExecutable => startAt run p "/bin/sh".toList "/bin/sh".toList words environment fuel
        | result => result
      if name = [] then .error .notFound
      else startFirst start arguments false (candidates directories name)
    let (exit, after) ←
      match (tools.find? fun t => t.1.toList = started.program).map Prod.snd with
      | some tool => Except.ok (tool ⟨started.name, started.arguments, environment, startOther⟩ inside)
      | none =>
        if started.program = "sh".toList ∨ started.program = "dash".toList then
          .ok (runShell run inside process started.name started.arguments environment)
        else .error .notExecutable
    let exit := if after.world.burst then .signal 13 false else exit
    return (exit, { p with world := { after.world.finish process with burst := false } })

/-- How deep programs may start programs that do nothing else. -/
def maxStarts : Nat := 64

/-- Starts the program at a path; a file that is no program is run as a script. -/
def startOrRead (run : Runner) (s : State) (path name : Text) (arguments : List Text) :
    Except Fault (Exit × Process) :=
  match startAt run s.toProcess path name arguments s.environment maxStarts with
  | .error .notExecutable =>
    match s.tree.read (s.path path) with
    | .ok content =>
      if mayBeScript content then
        startAt run s.toProcess "/bin/sh".toList "/bin/sh".toList (path :: arguments) s.environment maxStarts
      else .error .notExecutable
    | .error _ => .error .notExecutable
  | result => result

/-- Whether a path leads to a file that may be started. -/
def State.isProgram (s : State) (path : Text) : Bool :=
  match s.look path with
  | .ok (_, .file n) => (s.tree.fileNumbered n).isExecutable
  | _ => false

/-- Where a program is found by name: its path, or what stands in the way. -/
def State.find (s : State) (name : Text) : Except Fault Text :=
  let check (found : Except Fault Text) (path : Text) : Except Fault Text :=
    match found with
    | .ok path => .ok path
    | .error fault =>
      match s.look path with
      | .ok _ => if s.isProgram path then .ok path else .error .denied
      | .error .notFound | .error .notDirectory => .error fault
      | .error fault => .error fault
  if '/' ∈ name then .ok name
  else (candidates ((s.value? "PATH".toList).getD []) name).foldl check (.error .notFound)

/-- The status for a program that cannot be started. -/
def startStatus : Fault → Nat
  | .notFound | .notDirectory | .nameTooLong | .tooManyLinks => 127
  | _ => 126

/-- Runs a program in place of the shell, or as a part of it. -/
def runProgram (run : Runner) (replaces : Bool) (s : State) (name : Text) (arguments : List Text) : State :=
  let refuse (fault : Fault) (status : Nat) : State :=
    let s := s.complain (name ++ ": ".toList ++ State.startMessage fault)
    if replaces then { s.ended status with traps := [], jump := some (.quit (.code status)) } else s.ended status
  match s.find name with
  | .error fault => refuse fault (if replaces then startStatus fault else 127)
  | .ok path =>
    match startOrRead run s path name arguments with
    | .error fault => refuse fault (startStatus fault)
    | .ok (exit, p) =>
      let s := s.withProcess p
      if replaces then { s.ended (statusOf exit) with traps := [], jump := some (.quit exit) }
      else s.after exit

/-! ### Simple commands -/

/-- What a word for a command means. -/
inductive Meaning where
  | special
  | function (c : Command)
  | builtin
  | program
deriving Inhabited

def State.meaning (s : State) (name : Text) : Meaning :=
  if specialNames.contains name then .special
  else match s.functions.lookup name with
    | some c => .function c
    | none => if isBuiltin name then .builtin else .program

/-- Assigns the values of words to variables; gives the assignments as they are told. -/
def assignAll (run : Runner) (s : State) : List (Text × Word) → List Text × State
  | [] => ([], s)
  | (name, w) :: more =>
    let (t, s) := expandValue run s w
    let s := if s.runs then s.assign name t else s
    if s.runs then
      let (rest, s) := assignAll run s more
      ((name ++ '=' :: t) :: rest, s)
    else ([], s)

/-- Runs something with assignments that are taken back behind it; processes get the variables. -/
def withAssignments (run : Runner) (s : State) (assignments : List (Text × Word))
    (body : List Text → State → State) : State :=
  if assignments = [] then body [] s
  else
    let before := s.bindings
    let (told, s) := assignAll run s assignments
    if !s.runs then s
    else
      let names := assignments.map Prod.fst
      let marked := s.bindings.map fun v => if names.contains v.name then { v with exported := true } else v
      let s := body told { s with bindings := marked }
      names.foldl (fun s name =>
        match before.find? fun v => v.name = name with
        | some v => s.putVariable v
        | none => s.forget name) s

/-- Runs a function with arguments. -/
def callFunction (run : Runner) (s : State) (c : Command) (arguments : List Text) : State :=
  let inside := { s with arguments := arguments, calls := s.calls + 1, hidden := [], loops := 0 }
  let after := run c inside
  let jump := if after.jump = some .giveBack then none else after.jump
  let restored := after.hidden.foldl (fun s (name, v) =>
    match v with
    | some v => s.putVariable v
    | none => s.forget name) after
  { restored with arguments := s.arguments, calls := s.calls, hidden := s.hidden, loops := s.loops, jump := jump }

def tellMeanings (brief : Bool) (s : State) (names : List Text) : State :=
  names.foldl (fun s name =>
    let say (s : State) (short long : Text) : State := s.say ((if brief then short else name ++ long) ++ ['\n'])
    if reserved.contains name then say s name " is a shell keyword".toList
    else if let some t := s.aliases.lookup name then
      if brief then s.say ("alias ".toList ++ aliasRow (name, t)) else say s name (" is an alias for ".toList ++ t)
    else match s.meaning name with
      | .special => say s name " is a special shell builtin".toList
      | .function _ => say s name " is a shell function".toList
      | .builtin => say s name " is a shell builtin".toList
      | .program =>
        match s.find name with
        | .ok path =>
          if s.isProgram path then say s path (" is ".toList ++ path)
          else (if brief then s else s.say (name ++ ": not found\n".toList)).ended 127
        | .error _ => (if brief then s else s.say (name ++ ": not found\n".toList)).ended 127) (s.ended 0)

def runFile (run : Runner) (s : State) (path : Text) : State :=
  let full := if '/' ∈ path then some path
    else (candidates ((s.value? "PATH".toList).getD []) path).find? fun path => s.tree.isFile (s.path path)
  match full with
  | none => s.fatal (path ++ ": not found".toList)
  | some full =>
    match s.read full with
    | .error .isDirectory => s.ended 0
    | .error fault => s.fatal ("cannot open ".toList ++ full ++ ": ".toList ++ State.openMessage fault)
    | .ok (p, content) =>
      let before := s.builtin
      let s := { s.withProcess p with builtin := some full, status := 0 }
      let after := s.runScript run 1 content
      { after with builtin := before, jump := if after.jump = some .giveBack then none else after.jump }

mutual

/-- Runs a built-in command by name. -/
def runBuiltin (run : Runner) (fuel : Nat) (s : State) (name : Text) (arguments : List Text) : State :=
  match fuel with
  | 0 => s.fatal "too deep".toList
  | fuel + 1 =>
    let before := s.builtin
    let s := { s with builtin := some name }
    let after := match String.ofList name with
      | "." =>
        match arguments with
        | [] => s.ended 0
        | path :: _ => runFile run s path
      | "eval" =>
        if arguments = [] then s.ended 0
        else
          let t := [' '].intercalate arguments
          if (Input.ofScript s.aliases 1 t).nextLine?.isNone then s.ended 0 else s.runScript run 1 t
      | "exec" =>
        match if arguments.head? = some ['-', '-'] then arguments.tail else arguments with
        | [] => s.ended 0
        | name :: arguments => runProgram run true s name arguments
      | "type" => tellMeanings false s arguments
      | "command" =>
        match arguments with
        | ['-', 'v'] :: names => tellMeanings true s (names.take 1)
        | ['-', 'V'] :: names => tellMeanings false s (names.take 1)
        | ['-', 'p'] :: name :: more => runNamed run fuel { s with builtin := before } name more
        | [] => s.ended 0
        | name :: more => runNamed run fuel { s with builtin := before } name more
      | other =>
        match builtins.lookup other with
        | some builtin => builtin run arguments s
        | none => s
    { after with
      builtin := before
      jump := if after.jump = some .failure ∧ !specialNames.contains name then none else after.jump }

/-- Runs a built-in command or a program by name, but no function. -/
def runNamed (run : Runner) (fuel : Nat) (s : State) (name : Text) (arguments : List Text) : State :=
  match fuel with
  | 0 => s.fatal "too deep".toList
  | fuel + 1 =>
    if isBuiltin name ∨ specialNames.contains name then runBuiltin run fuel s name arguments
    else runProgram run false s name arguments

end

/-- Writes a command before it runs, if the shell is asked to. -/
def traced (s : State) (before : List (Nat × Nat)) (assigned words : List Text) : State :=
  if s.has 'x' then
    let start := (s.value? "PS4".toList).getD []
    let p := { s.toProcess with descriptors := before }.write 2 (start ++ [' '].intercalate (assigned ++ words) ++ ['\n'])
    { s with world := p.world }
  else s

/-- The commands whose words may be assignments. -/
def declarationNames : List Text := ["alias", "export", "local", "readonly"].map String.toList

def runSimple (run : Runner) (s : State) (assignments : List (Text × Word)) (words : List Word)
    (redirects : List Redirect) : State :=
  let declares := (words.head?.bind unquoted?).any declarationNames.contains
  let (texts, s) := (if declares then expandDeclarations else expandWords) run { s with taken := none } words
  if !s.runs then s
  else
    let before := s.descriptors
    let (s, fine) := redirect run s redirects
    let back (s : State) : State := { s with descriptors := before }
    if !fine then
      match texts with
      | name :: _ => back (if specialNames.contains name ∧ s.runs then { s with jump := some .failure } else s)
      | [] => back s
    else match texts with
      | [] =>
        let (told, s) := assignAll run s assignments
        back (if s.runs then (traced s before told []).ended (s.taken.getD 0) else s)
      | name :: arguments =>
        match s.meaning name with
        | .special =>
          let (told, s) := assignAll run s assignments
          if !s.runs then back s
          else
            let s := runBuiltin run maxStarts (traced s before told texts) name arguments
            if name = "exec".toList ∧ s.runs then s else back s
        | .function c =>
          back (withAssignments run s assignments fun told s =>
            callFunction run (traced s before told texts) c arguments)
        | .builtin =>
          back (withAssignments run s assignments fun told s =>
            runBuiltin run maxStarts (traced s before told texts) name arguments)
        | .program =>
          back (withAssignments run s assignments fun told s =>
            runProgram run false (traced s before told texts) name arguments)

/-! ### All commands -/

/-- Ends the shell after a command that failed, if it is asked to and nobody looks at the status. -/
def State.checked (s : State) : State :=
  if s.has 'e' && !s.watched && s.status ≠ 0 && s.runs then s.quitWith s.status else s

/-- Runs something whose status is looked at. -/
def watching (s : State) (body : State → State) : State :=
  { body { s with watched := true } with watched := s.watched }

/-- Whether a shell has read its standard input up to where its writer has been cut short. -/
def State.misses (s : State) : Bool := ((s.stream? 0).map s.world.misses).getD false

/-- Runs commands whose output goes to the input of the next one, with so much room between them. Gives also
whether the last one has missed anything. -/
def runStages (run : Runner) (room : Nat) (s : State) : List Command → State × Bool
  | [] => (s, false)
  | [c] =>
    let (s, exit) := State.runPart run s (run c)
    (s.after exit, s.misses)
  | c :: more =>
    let (w, n) := s.world.addStream (.sink [] (some room) false)
    let (after, _) := State.runPart run { s with world := w } fun part => run c { part with toProcess := part.attach 1 n }
    let supply := if after.world.overflows n || after.misses then Supply.cut else .whole
    let (w, m) := after.world.addStream (.source (after.world.written n) supply)
    let (rest, missed) := runStages run room { after with toProcess := { after.toProcess with world := w }.attach 0 m } more
    ({ rest with descriptors := s.descriptors }, missed)

/-- How much room there is between the commands of a pipeline: as much as usual, and more if that has not been
enough. -/
def pipeRooms : List Nat := [Nat.pow 2 16, Nat.pow 2 20, Nat.pow 2 23]

/-- Runs a pipeline with the first amount of room that is enough. -/
def runPipeline (run : Runner) (s : State) (commands : List Command) : List Nat → State
  | [] => s
  | [room] => (runStages run room s commands).1
  | room :: more =>
    let (after, missed) := runStages run room s commands
    if missed then runPipeline run s commands more else after

/-- Ends a shell that has written where nobody reads. -/
def State.whole (s : State) : State :=
  if s.world.burst then { s with world := { s.world with burst := false } }.quit (.signal 13 false) else s

/-- Leaves a loop, or goes on with it, after its commands have run. -/
def State.afterTurn (s : State) (loops : Nat) (next : State → State) : State :=
  match s.jump with
  | none => next s
  | some (.leave n) => { s with jump := if 1 < n then some (.leave (n - 1)) else none, loops := loops }
  | some (.again n) =>
    if 1 < n then { s with jump := some (.again (n - 1)), loops := loops } else next { s with jump := none }
  | some _ => { s with loops := loops }

/-- How many turns a loop may take. -/
def maxTurns : Nat := 1000000

/-- Runs the turns of a loop that are left; the status is that of the turn before. -/
def runTurns (run : Runner) (untilDone : Bool) (condition body : Command) (loops : Nat) :
    Nat → Nat → State → State
  | 0, _, s => s.quitWith 1
  | fuel + 1, status, s =>
    (watching s (run condition)).afterTurn loops fun s =>
      if (s.status = 0) = (untilDone = true) then { s.ended status with loops := loops }
      else (run body s).afterTurn loops fun s => runTurns run untilDone condition body loops fuel s.status s

/-- Runs commands once for each value of a variable. -/
def runEach (run : Runner) (loops : Nat) (name : Text) (c : Command) (s : State) : List Text → State
  | [] => { s with loops := loops }
  | t :: more =>
    let s := s.assign name t
    if !s.runs then s
    else (run c s).afterTurn loops fun s => runEach run loops name c s more

/-- Whether any of some patterns fits a text. -/
def anyFits (run : Runner) (s : State) (t : Text) : List Word → State × Bool
  | [] => (s, false)
  | w :: more =>
    let (p, s) := expandPattern run s w
    if !s.runs then (s, false) else if fits p t then (s, true) else anyFits run s t more

/-- Runs the commands of the first arm with a pattern that fits a text. -/
def runArms (run : Runner) (s : State) (t : Text) : List (List Word × Command) → State
  | [] => s
  | (patterns, c) :: more =>
    let (s, found) := anyFits run s t patterns
    if !s.runs then s else if found then run c s else runArms run s t more

/-- Runs a command by way of a runner for the commands in it. -/
def step (run : Runner) (c : Command) (s : State) : State :=
  if s.has 'n' then s
  else match c with
  | .simple line assignments words redirects =>
    ((runSimple run { s with line := line } assignments words redirects).whole.takeSignals run).checked
  | .pipeline commands => ((runPipeline run s commands pipeRooms).takeSignals run).checked
  | .invert c =>
    let s := watching s (run c)
    if s.runs then s.ended (if s.status = 0 then 1 else 0) else s
  | .both c d =>
    let s := watching s (run c)
    if s.runs ∧ s.status = 0 then run d s else s
  | .either c d =>
    let s := watching s (run c)
    if s.runs ∧ s.status ≠ 0 then run d s else s
  | .sequence commands => commands.foldl (fun s c => if s.runs then run c s else s) s
  | .background c =>
    let (w, process) := s.world.start
    let (w, n) := w.addStream (.device .null)
    let (after, exit) := State.runPart run { s with world := w } fun part =>
      run c { part with toProcess := part.attach 0 n }
    { after with background := (process, statusOf exit) :: s.background, status := 0 }
  | .apart line c =>
    let (after, exit) := State.runPart run { s with line := line } (run c)
    ((after.after exit).takeSignals run).checked
  | .choice condition c otherwise =>
    let s := watching s (run condition)
    if !s.runs then s
    else if s.status = 0 then run c s
    else match otherwise with
      | some d => run d s
      | none => s.ended 0
  | .loop untilDone condition body =>
    runTurns run untilDone condition body s.loops maxTurns 0 { s with loops := s.loops + 1 }
  | .each line name words body =>
    let (texts, s) := match words with
      | some words => expandWords run { s with line := line } words
      | none => (s.arguments, { s with line := line })
    if !s.runs then s
    else runEach run s.loops name body { s with loops := s.loops + 1, status := 0 } texts
  | .select line w arms =>
    let (t, s) := expandText run { s with line := line } w
    if s.runs then runArms run (s.ended 0) t arms else s
  | .redirected line c redirects => redirected run { s with line := line } redirects (run c)
  | .define name c => { s with functions := (name, c) :: s.functions.filter fun f => f.1 ≠ name, status := 0 }

/-- Runs a command whose parts do not stand deeper in each other than a bound. -/
def run : Nat → Runner
  | 0, _, s => s.quitWith 1
  | fuel + 1, c, s => step (run fuel) c s

/-! ### Starting programs -/

/-- How deep commands may stand in each other. -/
def maxDepth : Nat := 2000

/-- Starts a program by name. A name without a slash is looked for in one directory, which is also where
the program itself looks for others. -/
def launch (directory : Text) : Launch := fun program arguments tree =>
  if '\x00' ∈ program ∨ arguments.any (fun a => decide ('\x00' ∈ a)) = true then .error .nullInCommand
  else if program = [] then .error .notFound
  else
    let name := Text.spread program
    let path := if '/' ∈ program then name else inDirectory (Text.spread directory) name
    let w : World := ⟨tree.spreadNames, #[.source [] .whole, .store, .store], [], 4242, [], false⟩
    let p : Process := { world := w, directory := [], descriptors := [(0, 0), (1, 1), (2, 2)] }
    let environment := [("PATH".toList, Text.spread directory)]
    (startAt (run maxDepth) p path name (arguments.map Text.spread) environment maxStarts).map fun (exit, p) =>
      (⟨exit, p.world.written 2⟩, p.tree.gatherNames)

end Flowchart.Shell
