import Flowchart.Shell.Expand
import Flowchart.Tool.Words

/-!
Built-in commands, as far as they start no programs. Each is given the words behind its name. The failure
of a special one ends the shell, that of another one gives a status.
-/

namespace Flowchart.Shell

open Files Tool

abbrev Builtin := Runner → List Text → State → State

/-- What a built-in command is called in messages: the shell and the line, and its own name. -/
def State.call (s : State) : Text :=
  s.name ++ ": ".toList ++ Text.decimal s.line ++ (s.builtin.map fun b => ": ".toList ++ b).getD []

/-- Runs a tool in the shell itself. -/
def asTool (tool : Service) : Builtin := fun _ arguments s =>
  let (exit, p) := tool { name := s.call, arguments, environment := s.environment } s.toProcess
  (s.withProcess p).ended (statusOf exit)

/-- Goes on with an argument that is a number, or fails as a special command. -/
def withNumber (s : State) (t : Text) (go : Nat → State) : State :=
  match natural? t with
  | some n => go n
  | none => s.fatal ("Illegal number: ".toList ++ t)

/-- The word of a value that can be read again: between single quotes. -/
def requoted (t : Text) : Text :=
  '\'' :: t.flatMap (fun c => if c = '\'' then "'\"'\"'".toList else [c]) ++ ['\'']

/-- Splits an assignment at its equals sign. -/
def splitAssignment (t : Text) : Text × Option Text :=
  match Text.cut? '=' t with
  | some (name, value) => (name, some value)
  | none => (t, none)

/-! ### Output -/

def echoBuiltin : Builtin := fun _ arguments s =>
  s.put (echoed arguments) 0

/-- Writes its arguments in a format. -/
def printfBuiltin : Builtin := fun _ arguments s =>
  match if arguments.head? = some ['-', '-'] then arguments.tail else arguments with
  | [] => s.fail "usage: printf format [arg ...]".toList
  | f :: arguments =>
    let (r, _) := formatted .shell id f arguments
    let s := r.complaints.foldl State.complain s
    s.put r.out r.status

/-! ### Conditions -/

def testBuiltin : Builtin := fun _ arguments s =>
  let bracket := s.builtin = some ['[']
  if bracket ∧ arguments.getLast? ≠ some [']'] then s.fail "missing ]".toList
  else match Condition.test (viewOf s.toProcess) (if bracket then arguments.dropLast else arguments) with
    | .ok answer => s.ended (Tool.statusOf answer)
    | .error message => s.fail message

/-! ### Variables -/

/-- Marks variables and gives them values. -/
def markVariables (mark : Variable → Variable) (isMarked : Variable → Bool) : Builtin := fun _ arguments s =>
  match arguments with
  | [] => marked s
  | ['-', 'p'] :: _ => marked s
  | arguments =>
    match arguments.head?.filter fun a => a.head? = some '-' ∧ 1 < a.length ∧ a ≠ ['-', '-'] with
    | some option => s.fatal ("Illegal option -".toList ++ (option.drop 1).take 1)
    | none =>
      arguments.foldl (fun s argument =>
        let (name, value) := splitAssignment argument
        if !s.runs then s
        else if !isName name then s.fatal (name ++ ": bad variable name".toList)
        else
          let s := match value with
            | some value => s.assign name value
            | none => s
          if s.runs then s.putVariable (mark ((s.named? name).getD ⟨name, none, false, false⟩)) else s)
        (s.ended 0)
where
  /-- Writes the variables that are marked. -/
  marked (s : State) : State :=
    let row (v : Variable) : Text :=
      (s.builtin.getD []) ++ ' ' :: v.name ++ ((v.value.map fun t => '=' :: requoted t).getD []) ++ ['\n']
    (s.say (((s.bindings.filter isMarked).mergeSort fun v w => Text.precedes v.name w.name).flatMap row)).ended 0

/-- Takes variables or functions away. -/
def unset : Builtin := fun _ arguments s =>
  let (functions, names) := match arguments with
    | ['-', 'f'] :: names => (true, names)
    | ['-', 'v'] :: names => (false, names)
    | names => (false, names)
  match names.head?.filter fun a => a.head? = some '-' ∧ 1 < a.length with
  | some option => s.fatal ("Illegal option -".toList ++ (option.drop 1).take 1)
  | none =>
    names.foldl (fun s name =>
      if !s.runs then s
      else if !isName name then s.fatal (name ++ ": bad variable name".toList)
      else if functions then { s with functions := s.functions.filter fun f => f.1 ≠ name }
      else if ((s.named? name).map Variable.fixed).getD false then s.fatal (name ++ ": is read only".toList)
      else s.forget name) (s.ended 0)

/-- Makes variables local to the function that runs; they keep their values until they get others. -/
def makeLocal : Builtin := fun _ arguments s =>
  if s.calls = 0 then s.fatal "not in a function".toList
  else arguments.foldl (fun s argument =>
    let (name, value) := splitAssignment argument
    if !s.runs then s
    else if !isName name then s.fatal (name ++ ": bad variable name".toList)
    else
      let s := if s.hidden.any fun h => h.1 = name then s
        else { s with hidden := (name, s.named? name) :: s.hidden }
      match value with
      | some value => s.assign name value
      | none => s) (s.ended 0)

def optionNames : List (String × Char) :=
  [("errexit", 'e'), ("noglob", 'f'), ("ignoreeof", 'I'), ("interactive", 'i'), ("monitor", 'm'), ("noexec", 'n'),
   ("stdin", 's'), ("xtrace", 'x'), ("verbose", 'v'), ("vi", 'V'), ("emacs", 'E'), ("noclobber", 'C'),
   ("allexport", 'a'), ("notify", 'b'), ("nounset", 'u'), ("privileged", 'p'), ("nolog", 'l'), ("debug", 'd')]

def State.setOption (s : State) (on : Bool) (letter : Char) : State :=
  { s with options :=
      optionNames.filterMap fun (_, c) => if if c = letter then on else s.has c then some c else none }

def optionLetters : Text := "efImnsxvVECabup".toList

/-- Reads the options among arguments; gives the arguments that are left, and none if there are not even
the two dashes that end options. -/
def readShellOptions (s : State) : Nat → List Text → State × Option (List Text)
  | 0, _ => (s, none)
  | fuel + 1, arguments =>
    match arguments with
    | [] => (s, none)
    | ['-', '-'] :: more => (s, some more)
    | ['-'] :: more => (s, if more = [] then none else some more)
    | (sign :: letters) :: more =>
      if sign = '-' ∨ sign = '+' then
        let on := decide (sign = '-')
        match letters with
        | ['o'] =>
          match more with
          | [] => (listOptions s on, none)
          | name :: more =>
            match optionNames.find? fun o => o.1.toList = name with
            | some (_, c) => readShellOptions (s.setOption on c) fuel more
            | none => (s.fatal ("Illegal option -o ".toList ++ name), none)
        | letters =>
          match letters.find? fun c => !optionLetters.contains c with
          | some c => (s.fatal ("Illegal option -".toList ++ [c]), none)
          | none => readShellOptions (letters.foldl (fun s c => s.setOption on c) s) fuel more
      else (s, some ((sign :: letters) :: more))
    | [] :: more => (s, some ([] :: more))
where
  /-- Writes which options are set. -/
  listOptions (s : State) (readable : Bool) : State :=
    let row (o : String × Char) : Text :=
      let name := o.1.toList
      if readable then
        name ++ List.replicate (16 - name.length) ' ' ++ (if s.has o.2 then "on\n" else "off\n").toList
      else "set ".toList ++ [if s.has o.2 then '-' else '+'] ++ "o ".toList ++ name ++ ['\n']
    s.say ((if readable then "Current option settings\n".toList else []) ++ optionNames.flatMap row)

/-- Sets options and arguments, or writes the variables. -/
def setBuiltin : Builtin := fun _ arguments s =>
  if arguments = [] then
    let row (v : Variable) : Text := (v.value.map fun t => v.name ++ '=' :: requoted t ++ ['\n']).getD []
    (s.say ((s.bindings.mergeSort fun v w => Text.precedes v.name w.name).flatMap row)).ended 0
  else
    match readShellOptions (s.ended 0) (arguments.length + 1) arguments with
    | (s, some left) => { s with arguments := left }
    | (s, none) => s

def shift : Builtin := fun _ arguments s =>
  withNumber s (arguments.head?.getD ['1']) fun n =>
    if s.arguments.length < n then s.fatal "can't shift that many".toList
    else { s with arguments := s.arguments.drop n, status := 0 }

/-! ### Input -/

/-- Reads a line: the characters up to the line feed, each with a mark if a backslash stands before it, the
number of characters that have been read, and whether there is a line feed. -/
def readLine (raw : Bool) : Text → List (Char × Bool) × Nat × Bool
  | [] => ([], 0, false)
  | [c] => if c = '\n' then ([], 1, true) else ([(c, false)], 1, false)
  | c :: d :: rest =>
    if c = '\n' then ([], 1, true)
    else if c = '\\' ∧ !raw then
      let (line, n, complete) := readLine raw rest
      (if d = '\n' then line else (d, true) :: line, n + 2, complete)
    else
      let (line, n, complete) := readLine raw (d :: rest)
      ((c, false) :: line, n + 1, complete)

/-- Divides a line among names; the last one gets what is left, without blanks at its end. -/
def divideLine (separators : Text) : List Text → List (Char × Bool) → List (Text × Text)
  | [], _ => []
  | names, line =>
    let separates := fun x : Char × Bool => separators.contains x.1 && !x.2
    let isBlank := fun x : Char × Bool => separates x && (x.1 = ' ' || x.1 = '\t' || x.1 = '\n')
    let line := line.dropWhile isBlank
    match names with
    | [] => []
    | [name] =>
      let kept := (line.reverse.dropWhile isBlank).reverse
      -- a separator that ends the only field left is dropped with it
      let kept := match kept.findIdx? separates with
        | some k => if k + 1 = kept.length then kept.dropLast else kept
        | none => kept
      [(name, kept.map Prod.fst)]
    | name :: more =>
      let field := line.takeWhile (!separates ·)
      let rest := (line.drop field.length)
      let rest := rest.dropWhile isBlank
      let rest := match rest with
        | x :: after => if separates x then after else rest
        | [] => []
      (name, field.map Prod.fst) :: divideLine separators more rest

def readBuiltin : Builtin := fun _ arguments s =>
  match readOptions { letters := "r", valued := "p" } true {} (arguments.length + 1) arguments with
  | .error _ => s.fail ("Illegal option ".toList ++ ((arguments.head?).getD []).take 2)
  | .ok o =>
    if o.operands = [] then s.fail "arg count".toList
    else match o.operands.find? (!isName ·) with
      | some name => s.fail (name ++ ": bad variable name".toList)
      | none =>
        let (line, n, complete) := readLine (o.has 'r') (Text.ofOctets (s.left 0))
        -- the end of the input is found by reading one octet more
        let (p, _) := s.readBytes 0 (if complete then n else n + 1)
        let s := (s.withProcess p).ended (if complete then 0 else 1)
        (divideLine s.separators o.operands (line.filter fun x => x.1 ≠ '\x00')).foldl
          (fun s (name, t) => if s.runs then s.assign name t else s) s

/-- Reads the options of arguments one by one. -/
def getopts : Builtin := fun _ arguments s =>
  match arguments with
  | letters :: name :: given =>
    let arguments := if given = [] then s.arguments else given
    let silent := letters.head? = some ':'
    let index := (((s.value? "OPTIND".toList).bind natural?).getD 1)
    let inWord := 1 < s.position
    let word := (arguments[if inWord then index - 2 else index - 1]?).getD []
    let put (s : State) (index position : Nat) (value : Text) : State :=
      { (s.assign "OPTIND".toList (Text.decimal index)).assign name value with position := position }
    if !inWord && (word.head? ≠ some '-' || word.length < 2) then ((put s index 1 ['?']).forget "OPTARG".toList).ended 1
    else if !inWord && word = ['-', '-'] then ((put s (index + 1) 1 ['?']).forget "OPTARG".toList).ended 1
    else
      let index := if inWord then index else index + 1
      let place := if inWord then s.position else 1
      let letter := (word[place]?).getD '?'
      let rest := word.drop (place + 1)
      let next := if rest = [] then 1 else place + 1
      let s := s.ended 0
      match (letters.dropWhile (· ≠ letter)) with
      | _ :: after =>
        if letter = ':' then unknown silent letter (put s index next ['?'])
        else if after.head? = some ':' then
          if rest ≠ [] then (put s index 1 [letter]).assign "OPTARG".toList rest
          else match arguments[index - 1]? with
            | some value => (put s (index + 1) 1 [letter]).assign "OPTARG".toList value
            | none =>
              if silent then (put s index 1 [':']).assign "OPTARG".toList [letter]
              else
                let s := (put s index 1 ['?']).forget "OPTARG".toList
                s.withProcess (s.write 2 ("No arg for -".toList ++ letter :: " option\n".toList))
        else (put s index next [letter]).assign "OPTARG".toList []
      | [] => unknown silent letter (put s index next ['?'])
  | _ => s.fail "Usage: getopts optstring var [arg...]".toList
where
  /-- Deals with a letter that is no option. -/
  unknown (silent : Bool) (letter : Char) (s : State) : State :=
    if silent then s.assign "OPTARG".toList [letter]
    else
      let s := s.forget "OPTARG".toList
      s.withProcess (s.write 2 ("Illegal option -".toList ++ [letter, '\n']))

/-! ### Directories -/

def changeDirectory : Builtin := fun _ arguments s =>
  let arguments := arguments.dropWhile fun a => a = "-L".toList ∨ a = "-P".toList ∨ a = "--".toList
  let back := arguments.head? = some ['-']
  let target := match arguments with
    | [] => (s.value? "HOME".toList).getD []
    | ['-'] :: _ => (s.value? "OLDPWD".toList).getD []
    | target :: _ => target
  if target = [] then s.ended 0
  else
    match s.tree.look (s.path target) with
    | .ok (place, .directory _) =>
      let path := place.path
      let before := (s.value? "PWD".toList).getD []
      let s := { s with directory := if path = [] ∨ path.getLast? = some '/' then path else path ++ ['/'] }
      let s := (s.assign "OLDPWD".toList before).assign "PWD".toList
        (if path.head? = some '/' then path else '/' :: path)
      let s := if back then s.say ((s.value? "PWD".toList).getD [] ++ ['\n']) else s
      s.ended 0
    | _ => s.fail ("can't cd to ".toList ++ target)

/-! ### Leaving -/

def exitBuiltin : Builtin := fun _ arguments s =>
  match arguments with
  | [] => s.quitWith s.status
  | n :: _ => withNumber s n fun n => s.quitWith (n % 256)

/-- Leaves a function or a file of commands. -/
def returnBuiltin : Builtin := fun _ arguments s =>
  let leave (status : Nat) : State := { s with status := status, jump := some .giveBack }
  match arguments with
  | [] => leave s.status
  | n :: _ => withNumber s n leave

/-- Leaves loops, or goes on with the next turn of one. -/
def leaveLoops (jump : Nat → Jump) : Builtin := fun _ arguments s =>
  let t := arguments.head?.getD ['1']
  withNumber s t fun n =>
    if n = 0 then s.fatal ("Illegal number: ".toList ++ t)
    else if s.loops = 0 then s.ended 0
    else { s with status := 0, jump := some (jump (min n s.loops)) }

/-! ### Signals -/

/-- The signal that an argument of a trap is; signal 0 is the end of the shell. -/
def trapSignal? (t : Text) : Option Nat := (natural? t).filter (· ≤ 64) <|> (if t = "EXIT".toList then some 0 else
  (signalNames.find? fun s => s.2 = t).map Prod.fst)

/-- Sets scripts for signals, or writes them. -/
def trap : Builtin := fun _ arguments s =>
  let arguments := if arguments.head? = some ['-', '-'] then arguments.tail else arguments
  let name (n : Nat) : Text := if n = 0 then "EXIT".toList else (signalNames.lookup n).getD (Text.decimal n)
  let set (script : Option Text) (signals : List Text) : State :=
    signals.foldl (fun s t =>
      match trapSignal? t with
      | none => (s.withProcess (s.write 2 ("trap: ".toList ++ t ++ ": bad trap\n".toList))).ended 1
      | some n =>
        { s with traps := (s.traps.filter fun t => t.1 ≠ n) ++ (script.map fun t => (n, t)).toList })
      (s.ended 0)
  match arguments with
  | [] =>
    let row (t : Nat × Text) : Text := "trap -- ".toList ++ requoted t.2 ++ ' ' :: name t.1 ++ ['\n']
    (s.say ((s.traps.mergeSort fun t u => t.1 ≤ u.1).flatMap row)).ended 0
  | [signal] => set none [signal]
  | script :: signals =>
    if script = ['-'] then set none signals
    else if (natural? script).isSome then set none (script :: signals)
    else set (some script) signals

def killBuiltin : Builtin := fun _ arguments s =>
  let usage := "Usage: kill [-s sigspec | -signum | -sigspec] [pid | job]... or\nkill -l [exitstatus]".toList
  let send (signal : Nat) (targets : List Text) : State :=
    if targets = [] then s.fail usage
    else targets.foldl (fun s target =>
      match integer? target with
      | none =>
        if target.head? = some '%' then s.fail ("No such job: ".toList ++ target)
        else s.fail ("Illegal number: ".toList ++ target)
      | some n =>
        match s.world.send? n.toNat signal with
        | some w => { s with world := w }
        | none => (s.complain "No such process\n".toList).ended 1) (s.ended 0)
  let signal? (t : Text) : Option Nat :=
    (natural? t).filter (· ≤ 64) <|> (signalNames.find? fun s => s.2 = t.map Char.toUpper).map Prod.fst
  match arguments with
  | [] => s.fail usage
  | ['-', 'l'] :: more =>
    match more with
    | [] => (s.say ((['0'] :: signalNames.map Prod.snd).flatMap (· ++ ['\n']))).ended 0
    | t :: _ => withNumber s t fun n =>
      match signalNames.lookup (if 128 < n then n - 128 else n) with
      | some name => (s.say (name ++ ['\n'])).ended 0
      | none => s.fail ("invalid signal number or exit status: ".toList ++ t)
  | ['-', 's'] :: [] => s.fail "No arg for -s option".toList
  | ['-', 's'] :: name :: targets =>
    match signal? name with
    | some n => send n targets
    | none => s.fail ("invalid signal number or name: ".toList ++ name)
  | ['-', '-'] :: targets => send 15 targets
  | ('-' :: name) :: targets =>
    match signal? name with
    | some n => send n targets
    | none => s.fail ("Illegal option -".toList ++ name.take 1)
  | targets => send 15 targets

/-- Waits for processes in the background, all of which have run already. -/
def wait : Builtin := fun _ arguments s =>
  let status (s : State) (process : Nat) : State :=
    let (w, signals) := s.world.takeSignals process
    let s := { s with world := w.finish process }
    match signals.head?, s.background.lookup process with
    | some signal, _ => s.ended (128 + signal)
    | none, some status => s.ended status
    | none, none => s.ended 127
  match arguments with
  | [] => (s.background.foldl (fun s b => status s b.1) s).ended 0
  | arguments =>
    arguments.foldl (fun s t =>
      match natural? t with
      | some n => status s n
      | none =>
        if t.head? = some '%' then s.fail ("No such job: ".toList ++ t)
        else s.fail ("Illegal number: ".toList ++ t)) s

def saysOnly (t : String) : Builtin := fun _ _ s => (s.say t.toList).ended 0

/-- Does nothing and ends with a status. -/
def endsOnly (status : Nat) : Builtin := fun _ _ s => s.ended status

/-! ### Modes -/

/-- Writes or sets what the modes of new files leave out. -/
def umask : Builtin := fun _ arguments s =>
  let (letters, arguments) := match arguments with
    | ['-', 'S'] :: more => (true, more)
    | arguments => (false, arguments)
  match arguments.filter (· ≠ ['-', '-']) with
  | [] =>
    if letters then
      let group (name : Char) (shift : Nat) : Text := name :: '=' :: Mode.allowed (((0o777 ^^^ s.mask) >>> shift) &&& 7)
      (s.say (group 'u' 6 ++ ',' :: group 'g' 3 ++ ',' :: group 'o' 0 ++ ['\n'])).ended 0
    else (s.say (Mode.octal 4 s.mask ++ ['\n'])).ended 0
  | t :: _ =>
    let set (mask : Nat) : State := { s with mask := mask &&& 0o777, status := 0 }
    if (t.head?.map Char.isDigit).getD false then
      if t.all Text.isOctalDigit then set (Text.natOfDigits 8 t) else s.fatal ("Illegal number: ".toList ++ t)
    else match Mode.change? t with
      | some change => set (0o777 ^^^ ((change.apply s.mask false (0o777 ^^^ s.mask)) &&& 0o777))
      | none => s.fatal ("Illegal mode: ".toList ++ t)

/-! ### Aliases -/

def aliasRow (a : Text × Text) : Text := a.1 ++ '=' :: requoted a.2 ++ ['\n']

def aliasBuiltin : Builtin := fun _ arguments s =>
  if arguments = [] then (s.say (s.aliases.flatMap aliasRow)).ended 0
  else arguments.foldl (fun s argument =>
    match splitAssignment argument with
    | (name, some t) =>
      if name = [] then (s.withProcess (s.write 2 ("alias: ".toList ++ argument ++ " not found\n".toList))).ended 1
      else { s with aliases := (s.aliases.filter fun a => a.1 ≠ name) ++ [(name, t)] }
    | (name, none) =>
      match s.aliases.lookup name with
      | some t => s.say (aliasRow (name, t))
      | none => (s.withProcess (s.write 2 ("alias: ".toList ++ name ++ " not found\n".toList))).ended 1) (s.ended 0)

def unalias : Builtin := fun _ arguments s =>
  match arguments with
  | ['-', 'a'] :: _ => { s with aliases := [], status := 0 }
  | names => names.foldl (fun s name =>
    if (s.aliases.lookup name).isSome then { s with aliases := s.aliases.filter fun a => a.1 ≠ name }
    else (s.withProcess (s.write 2 ("unalias: ".toList ++ name ++ " not found\n".toList))).ended 1) (s.ended 0)

/-! ### All of them -/

/-- The built-in commands that start no programs. -/
def builtins : List (String × Builtin) :=
  [(":", endsOnly 0), ("[", testBuiltin), ("alias", aliasBuiltin), ("bg", endsOnly 2), ("break", leaveLoops .leave),
   ("cd", changeDirectory), ("chdir", changeDirectory), ("continue", leaveLoops .again), ("echo", echoBuiltin),
   ("exit", exitBuiltin), ("export", markVariables (fun v => { v with exported := true }) Variable.exported),
   ("false", endsOnly 1), ("fg", endsOnly 2), ("getopts", getopts), ("hash", endsOnly 0), ("jobs", endsOnly 0),
   ("kill", killBuiltin), ("local", makeLocal), ("printf", printfBuiltin), ("pwd", asTool currentDirectory),
   ("read", readBuiltin), ("readonly", markVariables (fun v => { v with fixed := true }) Variable.fixed),
   ("return", returnBuiltin), ("set", setBuiltin), ("shift", shift), ("test", testBuiltin),
   ("times", saysOnly "0m0.000000s 0m0.000000s\n0m0.000000s 0m0.000000s\n"), ("trap", trap), ("true", endsOnly 0),
   ("ulimit", saysOnly "unlimited\n"), ("umask", umask), ("unalias", unalias), ("unset", unset), ("wait", wait)]

/-- The names of the built-in commands that start programs or run scripts. -/
def startingNames : List Text := [".", "command", "eval", "exec", "type"].map String.toList

/-- Whether a name is that of a built-in command. -/
def isBuiltin (name : Text) : Bool :=
  startingNames.contains name || builtins.any fun b => b.1.toList = name

end Flowchart.Shell
