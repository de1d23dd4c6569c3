import Flowchart.Tool.Words

/-!
Tools that start other programs: with another environment, for some time, or with arguments that are read from
the standard input.
-/

namespace Flowchart.Tool

open Files

/-- The status for a program that cannot be started. -/
def startFailure (fault : Fault) : Nat := if fault = .notFound ∨ fault = .notDirectory then 127 else 126

/-- Starts a program in the place of a tool. -/
def startInstead (c : Call) (p : Process) (message : Text → Fault → Text) (name : Text) (arguments : List Text)
    (environment : List (Text × Text)) : Exit × Process :=
  match c.start p name arguments environment with
  | .ok result => result
  | .error fault => c.fail (message name fault) (startFailure fault) p

/-- Splits a text into words, with quotes and backslashes as a shell has them. -/
def shellWords (t : Text) : List Text :=
  let rec read : Nat → Option Char → Option Text → Text → List Text
    | 0, _, word, _ => word.toList
    | _ + 1, _, word, [] => word.toList
    | fuel + 1, quote, word, c :: rest =>
      match quote with
      | some q =>
        if c = q then read fuel none (some (word.getD [])) rest
        else match c, rest with
          | '\\', d :: more =>
            if q = '"' ∨ d = q ∨ d = '\\' then read fuel quote (some (word.getD [] ++ [d])) more
            else read fuel quote (some (word.getD [] ++ [c])) rest
          | c, rest => read fuel quote (some (word.getD [] ++ [c])) rest
      | none =>
        if Text.isSpace c then word.toList ++ read fuel none none rest
        else if c = '"' ∨ c = '\'' then read fuel (some c) (some (word.getD [])) rest
        else match c, rest with
          | '\\', d :: more => read fuel none (some (word.getD [] ++ [d])) more
          | '#', rest => if word.isNone then [] else read fuel none (some (word.getD [] ++ [c])) rest
          | c, rest => read fuel none (some (word.getD [] ++ [c])) rest
  read (t.length + 1) none none t

/-- Starts a program with another environment, or writes the environment. -/
def withEnvironment : Service := fun c p =>
  -- a text of words stands in for itself
  let arguments := match c.arguments with
    | ('-' :: 'S' :: t) :: more => if t = [] then shellWords (more.head?.getD []) ++ more.tail else shellWords t ++ more
    | ('-' :: 'v' :: 'S' :: t) :: more => shellWords t ++ more
    | arguments => match arguments with
      | option :: more =>
        match "--split-string=".toList.isPrefixOf? option with
        | some t => shellWords t ++ more
        | none => arguments
      | [] => []
  withLeadingOptions
    { letters := "i0v", valued := "uCS"
      long := [("ignore-environment", 'i'), ("unset", 'u'), ("chdir", 'C'), ("null", '0'), ("split-string", 'S')] } 125
    (fun o c p =>
      let words := ((o.values 'S').flatMap shellWords) ++ o.operands
      let isAssignment := fun t : Text => '=' ∈ t
      let clears := o.has 'i' || words.head? = some ['-']
      let kept := if clears then [] else c.environment.filter fun v => !(o.values 'u').contains v.1
      let words := if words.head? = some ['-'] then words.tail else words
      let environment := (words.takeWhile isAssignment).foldl (fun environment t =>
        let (name, value) := (Text.cut? '=' t).getD (t, [])
        if environment.any fun v => v.1 = name then
          environment.map fun v => if v.1 = name then (name, value) else v
        else environment ++ [(name, value)]) kept
      match words.dropWhile isAssignment with
      | [] => ends 0 (p.write 1 (environment.flatMap fun v => v.1 ++ '=' :: v.2 ++ [if o.has '0' then '\x00' else '\n']))
      | name :: arguments =>
        let inside := (o.value? 'C').map fun d => (d, p.look d)
        match inside with
        | some (d, .error fault) => c.fail ("cannot change directory to ".toList ++ quoted d ++ told fault) 125 p
        | some (_, .ok (place, _)) =>
          let path := place.path
          let inside := { p with directory := if path = [] ∨ path.getLast? = some '/' then path else path ++ ['/'] }
          let (exit, after) := startInstead c inside (fun name fault => quoted name ++ told fault) name arguments environment
          (exit, { p with world := after.world })
        | none => startInstead c p (fun name fault => quoted name ++ told fault) name arguments environment)
    { c with arguments } p

/-- Starts a program that may run for some time, which it does not use up. -/
def withinTime : Service :=
  withLeadingOptions
    { letters := "vfp", valued := "ks"
      long := [("foreground", 'f'), ("kill-after", 'k'), ("preserve-status", 'p'), ("signal", 's'), ("verbose", 'v')] } 125
    fun o c p =>
    match o.operands with
    | [] => c.refuse "missing operand".toList 125 p
    | [time] => c.refuse ("missing operand after ".toList ++ quoted time) 125 p
    | _ :: name :: arguments =>
      startInstead c p (fun name fault => "failed to run command ".toList ++ quoted name ++ told fault) name arguments
        c.environment

/-- Writes the path at which a program is found by name. -/
def which : Service :=
  withOptions { letters := "as" } 2 fun o c p =>
    let directories := Text.splitAt ':' ((c.environment.lookup "PATH".toList).getD [])
    let isProgram (path : Text) : Bool := match p.look path with
      | .ok (_, .file n) => (p.tree.fileNumbered n).isExecutable
      | _ => false
    let (p, fine) := o.operands.foldl (fun (p, fine) name =>
      let tries := if '/' ∈ name then [name]
        else directories.map fun d => inDirectory (if d = [] then ['.'] else d) name
      let found := tries.filter isProgram
      let shown := if o.has 'a' then found else found.take 1
      (if o.has 's' then p else p.write 1 (joined shown), fine && !found.isEmpty)) (p, true)
    ends (statusOf fine) p

/-! ### Arguments from the input -/

/-- The items of an input: words, with quotes and backslashes, and the line on which each ends. -/
def inputWords : Nat → Option Text → Nat → Text → Except Text (List (Text × Nat))
  | 0, _, _, _ => .ok []
  | _ + 1, word, line, [] => .ok (word.toList.map (·, line))
  | fuel + 1, word, line, c :: rest =>
    let add (t rest : Text) := inputWords fuel (some (word.getD [] ++ t)) line rest
    if c = '\n' then do return word.toList.map (·, line) ++ (← inputWords fuel none (line + 1) rest)
    else if c = ' ' ∨ c = '\t' then
      match word with
      | none => inputWords fuel none line rest
      | some w => do return (w, line) :: (← inputWords fuel none line rest)
    else if c = '\'' ∨ c = '"' then
      let inside := rest.takeWhile fun d => d ≠ c && d ≠ '\n'
      if (rest.drop inside.length).head? = some c then add inside (rest.drop (inside.length + 1))
      else .error ("unmatched ".toList ++ (if c = '"' then "double" else "single").toList
        ++ " quote; by default quotes are special to xargs unless you use the -0 option".toList)
    else if c = '\\' then
      match rest with
      | d :: more => add [d] more
      | [] => .ok (word.toList.map (·, line))
    else add [c] rest

/-- A text with another one in the place of each occurrence of a mark. -/
def withReplaced (mark new : Text) : Nat → Text → Text
  | 0, t => t
  | _ + 1, [] => []
  | fuel + 1, c :: rest =>
    if mark ≠ [] ∧ mark.isPrefixOf (c :: rest) then new ++ withReplaced mark new fuel ((c :: rest).drop mark.length)
    else c :: withReplaced mark new fuel rest

/-- An item and the line on which it stands. -/
abbrev Argument := Text × Nat

/-- The items of each line in turn. -/
def byLine (items : List Argument) : List (List Argument) := items.splitBy fun a b => a.2 = b.2

/-- Adds an item to the last of some parts, or to a new one if there is no room for it. -/
def addWithin (size most : Nat) (parts : List (List Argument)) (a : Argument) : List (List Argument) :=
  match parts.getLast? with
  | some last =>
    if size + last.foldl (fun (sum : Nat) b => sum + b.1.length + 1) 0 + a.1.length + 1 ≤ most then
      parts.dropLast ++ [last ++ [a]]
    else parts ++ [[a]]
  | none => [[a]]

/-- Divides items as the options ask for: by lines, by number and by size. -/
def divided (o : Options) (size : Nat) (items : List Argument) : List (List Text) :=
  let number (letter : Char) : Option Nat := (o.value? letter).bind natural?
  let byLines : List (List Argument) := match number 'L' <|> number 'λ' <|> (if o.has 'λ' then some 1 else none) with
    | some n => (Text.chunksOf n (byLine items)).map List.flatten
    | none => [items]
  let byNumber : List (List Argument) := match number 'n' with
    | some n => byLines.flatMap (Text.chunksOf n)
    | none => byLines
  let bySize : List (List Argument) := match number 's' with
    | some most => byNumber.flatMap fun part => part.foldl (addWithin size most) []
    | none => byNumber
  bySize.map fun part => part.map Prod.fst

/-- Starts a program for each of some commands, up to one that cannot go on. -/
def startEach (tells : Bool) (c : Call) (status : Nat) (p : Process) : List (List Text) → Exit × Process
  | [] => ends status p
  | words :: more =>
    let p := if tells then p.write 2 ([' '].intercalate words ++ ['\n']) else p
    let (w, n) := p.world.addStream (.device .null)
    let name := words.head?.getD []
    match c.start ({ p with world := w }.attach 0 n) name words.tail c.environment with
    | .error fault => ends (startFailure fault) (c.complain (name ++ told fault) p)
    | .ok (exit, after) =>
      let p := { p with world := after.world }
      match exit with
      | .code 255 => ends 124 (c.complain (name ++ ": exited with status 255; aborting".toList) p)
      | .code n => startEach tells c (if n = 0 then status else 123) p more
      | .signal n _ => ends 125 (c.complain (name ++ ": terminated by signal ".toList ++ Text.decimal n) p)

/-- The items in a text, where a character divides them, lines do, or blanks that are not quoted. -/
def itemsOf (delimiter : Option Char) (wholeLines : Bool) (t : Text) : Except Text (List Argument) :=
  match delimiter with
  | some d => .ok ((piecesOf d t).zipIdx.map fun (piece, k) => (unmarked d piece, k))
  | none =>
    if wholeLines then
      let trimmed := (plainLines t).map fun line : Text => line.dropWhile fun c => c = ' ' || c = '\t'
      .ok (trimmed.filter (· ≠ [])).zipIdx
    else inputWords (t.length + 1) none 1 t

/-- Starts a program with arguments from the standard input, once or as often as they are to be divided. -/
def withArguments : Service :=
  withLeadingOptions
    { letters := "0rtpx", valued := "nILsPdEa", loose := "ieλ"
      long := [("null", '0'), ("no-run-if-empty", 'r'), ("verbose", 't'), ("max-args", 'n'), ("max-lines", 'λ'),
        ("replace", 'i'), ("max-procs", 'P'), ("delimiter", 'd'), ("arg-file", 'a'), ("max-chars", 's'), ("exit", 'x')] } 1
    fun o c p =>
    let command := if o.operands = [] then ["echo".toList] else o.operands
    let source : Except Fault (Process × Text) := match o.value? 'a' with
      | some path => p.read path
      | none => .ok (p.readAll 0)
    match source with
    | .error fault => c.fail ("Cannot open input file ".toList ++ quoted ((o.value? 'a').getD []) ++ told fault) 1 p
    | .ok (p, t) =>
      let replaced : Option Text := match o.value? 'I', o.value? 'i' with
        | some mark, _ => some mark
        | none, some [] => some "\x7b\x7d".toList
        | none, mark => mark
      let delimiter := if o.has '0' then some '\x00' else (o.value? 'd').bind fun t =>
        (Shell.unescape .program (t.length + 1) t).1.head?
      match itemsOf delimiter replaced.isSome t with
      | .error message => c.fail message 1 p
      | .ok items =>
        let commands := match replaced with
          | some mark => items.map fun item => command.map fun w => withReplaced mark item.1 (w.length + 1) w
          | none =>
            if items.isEmpty then (if o.has 'r' then [] else [command])
            else (divided o (command.foldl (fun sum t => sum + t.length + 1) 0) items).map (command ++ ·)
        startEach (o.has 't') c 0 p commands

end Flowchart.Tool
