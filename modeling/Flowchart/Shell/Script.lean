import Flowchart.Shell.Token

/-!
Scripts. A script is read line by line: a line is a list of commands that goes on until every command in it
is complete. What is wrong in a script is found only when its line is reached, since the lines before it may
change how it is read.
-/

namespace Flowchart.Shell

/-! ### Reserved words -/

/-- The words with a meaning of their own where a command may start. -/
def reserved : List Text :=
  ["!", "case", "do", "done", "elif", "else", "esac", "fi", "for", "if", "in", "then", "until", "while", "\x7b",
   "\x7d"].map String.toList

/-- The reserved word that a token is. -/
def Token.reserved? : Token → Option Text
  | Token.word w => (unquoted? w).filter (reserved.contains ·)
  | _ => none

/-- Whether a token is the given reserved word. -/
def Token.is (word : String) (t : Token) : Bool := t.reserved? = some word.toList

/-- Whether a token ends a list of commands that stands in another command. -/
def Token.endsList : Token → Bool
  | .finish | .sign .nextArm | .sign .close => true
  | t => ["do", "done", "elif", "else", "esac", "fi", "then", "\x7d"].any (t.is ·)

def inQuotes (t : Text) : Text := '"' :: t ++ ['"']

/-- How a token is told in a message. -/
def Token.told (t : Token) : Text :=
  match t with
  | .word _ => (t.reserved?.map inQuotes).getD "word".toList
  | .redirect _ _ | .text _ _ => "redirection".toList
  | .sign s => inQuotes s.text
  | .newline => "newline".toList
  | .finish | .fault _ => "end of file".toList

/-! ### Reading commands -/

/-- What has been read, and the input that is left. -/
abbrev Found (α : Type) := α × Input

namespace Input

/-- Whether the next token is a sign. -/
def isSign (i : Input) (s : Sign) : Bool :=
  match i.token with
  | .sign s' => s' = s
  | _ => false

/-- Whether the next token is a reserved word. -/
def isWord (i : Input) (word : String) : Bool := i.token.is word

/-- Refuses the next token where another one is expected. -/
def unexpected {α : Type} (i : Input) (expected : Option Text := none) : Except SyntaxFault α :=
  match i.token with
  | .fault reason => .error ⟨i.line, reason⟩
  | token =>
    .error ⟨i.line, token.told ++ " unexpected".toList ++
      match expected with
      | some e => " (expecting ".toList ++ e ++ [')']
      | none => []⟩

def expectWord (i : Input) (word : String) : Except SyntaxFault Input :=
  if i.isWord word then .ok i.advance else i.unexpected (some (inQuotes word.toList))

def expectSign (i : Input) (s : Sign) : Except SyntaxFault Input :=
  if i.isSign s then .ok i.advance else i.unexpected (some (inQuotes s.text))

def skipLines : Nat → Input → Input
  | 0, i => i
  | fuel + 1, i =>
    match i.token with
    | .newline => skipLines fuel i.advance
    | _ => i

def toCommand (i : Input) : Input := skipLines (i.rest.length + 1) i

def words : Nat → Input → List Word × Input
  | 0, i => ([], i)
  | fuel + 1, i =>
    match i.token with
    | .word w =>
      let (ws, i) := words fuel i.advance
      (w :: ws, i)
    | _ => ([], i)

/-- The redirections that come next. -/
def redirects : Nat → Input → Except SyntaxFault (Found (List Redirect))
  | 0, i => .ok ([], i)
  | fuel + 1, i =>
    match i.token with
    | .text descriptor body => do
      let (more, i) ← redirects fuel i.advance
      return (⟨descriptor, .text, body⟩ :: more, i)
    | .redirect descriptor route =>
      let i := i.advance
      match i.token with
      | .word w => do
        let (more, i) ← redirects fuel i.advance
        return (⟨descriptor, route, w⟩ :: more, i)
      | _ => i.unexpected
    | _ => .ok ([], i)

end Input

/-- The assignment that a word is, if it starts with a name and an equals sign. -/
def assignment? : Word → Option (Text × Word)
  | .plain t false :: more =>
    match Text.cut? '=' t with
    | some (name, value) =>
      if isName name then some (name, if value = [] then more else .plain value false :: more) else none
    | none => none
  | _ => none

structure Parts where
  assignments : List (Text × Word) := []
  words : List Word := []
  redirects : List Redirect := []

/-- Reads a simple command up to its end. Assignments stand before the words. -/
def simpleParts (p : Parts) : Nat → Input → Except SyntaxFault (Found Parts)
  | 0, i => .ok (p, i)
  | fuel + 1, i =>
    let i := if p.words.isEmpty ∨ i.goesOn then i.resolved else i
    match i.token with
    | .word w =>
      match if p.words.isEmpty then assignment? w else none with
      | some a => simpleParts { p with assignments := p.assignments ++ [a] } fuel i.advance
      | none => simpleParts { p with words := p.words ++ [w] } fuel i.advance
    | .redirect .. | .text .. => do
      let (found, i) ← i.redirects (i.rest.length + 1)
      simpleParts { p with redirects := p.redirects ++ found } fuel i
    | _ => .ok (p, i)

/-- The built-in commands whose failure ends a script. -/
def specialNames : List Text :=
  [".", ":", "break", "continue", "eval", "exec", "exit", "export", "local", "readonly", "return", "set", "shift", "times",
   "trap", "unset"].map String.toList

/-- Puts commands that run one after the other together. -/
def Command.andThen : Command → Command → Command
  | .sequence cs, c => .sequence (cs ++ [c])
  | b, c => .sequence [b, c]

/-- Puts redirections around a command. -/
def Command.within (line : Nat) (c : Command) (rs : List Redirect) : Command :=
  if rs.isEmpty then c else .redirected line c rs

/-- Reads the redirections behind a command. -/
def withRedirects (line : Nat) (c : Command) (i : Input) : Except SyntaxFault (Found Command) := do
  let (rs, i) ← i.redirects (i.rest.length + 1)
  return (c.within line rs, i)

mutual

/-- Reads a list of commands. On a line of its own it ends with the line; in another command it ends where
that command goes on. -/
def listOf (inside mayBeEmpty : Bool) (before : Option Command) : Nat → Input → Except SyntaxFault (Found Command)
  | 0, i => i.unexpected
  | fuel + 1, i => do
    let i := (if inside then i.toCommand else i).resolved
    let done (i : Input) : Except SyntaxFault (Found Command) := .ok (before.getD .nothing, i)
    if let .newline := i.token then done i.advance
    else if let .finish := i.token then done i
    else if inside ∧ mayBeEmpty ∧ i.token.endsList then done i
    else
      let (c, i) ← conjunction fuel i
      let add (c : Command) : Command := (before.map (·.andThen c)).getD c
      if i.isSign .background then listOf inside true (some (add (.background c))) fuel i.advance
      else if i.isSign .next then listOf inside true (some (add c)) fuel i.advance
      else match i.token with
        | .newline => listOf inside true (some (add c)) fuel i
        | .finish => .ok (add c, i)
        | _ => if inside then .ok (add c, i) else i.unexpected

/-- Reads commands that depend on each other. -/
def conjunction : Nat → Input → Except SyntaxFault (Found Command)
  | 0, i => i.unexpected
  | fuel + 1, i => do
    let (c, i) ← pipelineOf fuel i
    conjunctionFrom c fuel i

/-- Reads the commands that depend on a given one. -/
def conjunctionFrom (c : Command) : Nat → Input → Except SyntaxFault (Found Command)
  | 0, i => i.unexpected
  | fuel + 1, i =>
    if i.isSign .both then do
      let (d, i) ← pipelineOf fuel i.advance.toCommand
      conjunctionFrom (.both c d) fuel i
    else if i.isSign .either then do
      let (d, i) ← pipelineOf fuel i.advance.toCommand
      conjunctionFrom (.either c d) fuel i
    else .ok (c, i)

def pipelineOf : Nat → Input → Except SyntaxFault (Found Command)
  | 0, i => i.unexpected
  | fuel + 1, i => do
    let i := i.resolved
    let inverted := i.isWord "!"
    let (commands, i) ← piped fuel (if inverted then i.advance else i)
    let c := match commands with
      | [c] => c
      | cs => .pipeline cs
    return (if inverted then .invert c else c, i)

/-- Reads the commands of a pipeline. -/
def piped : Nat → Input → Except SyntaxFault (Found (List Command))
  | 0, i => i.unexpected
  | fuel + 1, i => do
    let (c, i) ← commandOf fuel i
    if i.isSign .pipe then
      let (cs, i) ← piped fuel i.advance.toCommand
      return (c :: cs, i)
    else return ([c], i)

def commandOf : Nat → Input → Except SyntaxFault (Found Command)
  | 0, i => i.unexpected
  | fuel + 1, i => do
    let i := i.resolved
    let line := i.line
    match i.token with
    | .sign .open => do
      let (c, i) ← listOf true false none fuel i.advance
      withRedirects line (.apart line c) (← i.expectSign .close)
    | .redirect .. | .text .. => simpleOf line fuel i
    | .word _ =>
      match i.token.reserved?.map String.ofList with
      | none => simpleOf line fuel i
      | some "\x7b" => do
        let (c, i) ← listOf true false none fuel i.advance
        withRedirects line c (← i.expectWord "\x7d")
      | some "if" => do
        let (c, i) ← choiceOf fuel i.advance
        withRedirects line c (← i.expectWord "fi")
      | some "while" => do
        let (c, i) ← loopOf false fuel i.advance
        withRedirects line c i
      | some "until" => do
        let (c, i) ← loopOf true fuel i.advance
        withRedirects line c i
      | some "for" => do
        let (c, i) ← eachOf line fuel i.advance
        withRedirects line c i
      | some "case" =>
        let i := i.advance
        match i.token with
        | .word w => do
          let i ← i.advance.toCommand.expectWord "in"
          let (arms, i) ← armsOf fuel i.toCommand
          withRedirects line (.select line w arms) i
        | _ => i.unexpected (some "word".toList)
      | some _ => i.unexpected
    | _ => i.unexpected

/-- Reads a simple command, or the definition of a function. -/
def simpleOf (line : Nat) : Nat → Input → Except SyntaxFault (Found Command)
  | 0, i => i.unexpected
  | fuel + 1, i => do
    let (p, after) ← simpleParts {} (i.rest.length + 1) i
    match p with
    | ⟨[], [w], []⟩ =>
      if after.isSign .open then
        let i ← after.advance.expectSign .close
        match (unquoted? w).filter fun name => isName name ∧ name ∉ specialNames with
        | some name => do
          let (c, i) ← commandOf fuel i.toCommand
          return (.define name c, i)
        | none => .error ⟨after.line, "Bad function name".toList⟩
      else return (.simple line p.assignments p.words p.redirects, after)
    | p => return (.simple line p.assignments p.words p.redirects, after)

/-- Reads a choice after its first word, up to the word that ends it. -/
def choiceOf : Nat → Input → Except SyntaxFault (Found Command)
  | 0, i => i.unexpected
  | fuel + 1, i => do
    let (condition, i) ← listOf true false none fuel i
    let (c, i) ← listOf true false none fuel (← i.expectWord "then")
    if i.isWord "elif" then
      let (d, i) ← choiceOf fuel i.advance
      return (.choice condition c (some d), i)
    else if i.isWord "else" then
      let (d, i) ← listOf true false none fuel i.advance
      return (.choice condition c (some d), i)
    else return (.choice condition c none, i)

/-- Reads a loop after its first word. -/
def loopOf (untilDone : Bool) : Nat → Input → Except SyntaxFault (Found Command)
  | 0, i => i.unexpected
  | fuel + 1, i => do
    let (condition, i) ← listOf true false none fuel i
    let (c, i) ← listOf true false none fuel (← i.expectWord "do")
    return (.loop untilDone condition c, ← i.expectWord "done")

/-- Reads a loop over words after its first word. -/
def eachOf (line : Nat) : Nat → Input → Except SyntaxFault (Found Command)
  | 0, i => i.unexpected
  | fuel + 1, i => do
    let name? := match i.token with
      | .word w => (unquoted? w).filter isName
      | _ => none
    match name? with
    | none => .error ⟨i.line, "Bad for loop variable".toList⟩
    | some name =>
      let i := i.advance.toCommand
      let (words, i) ←
        if i.isWord "in" then
          let (words, i) := i.advance.words (i.rest.length + 1)
          match i.token with
          | .newline | .sign .next => Except.ok (some words, i.advance)
          | _ => i.unexpected
        else Except.ok (none, if i.isSign .next then i.advance else i)
      let (c, i) ← listOf true false none fuel (← i.toCommand.expectWord "do")
      return (.each line name words c, ← i.expectWord "done")

/-- Reads the arms of a choice among patterns, and the word behind them. -/
def armsOf : Nat → Input → Except SyntaxFault (Found (List (List Word × Command)))
  | 0, i => i.unexpected
  | fuel + 1, i => do
    if i.isWord "esac" then return ([], i.advance)
    else
      let (patterns, i) ← patternsOf fuel (if i.isSign .open then i.advance else i)
      let (c, i) ← listOf true true none fuel (← i.expectSign .close)
      let i := i.toCommand
      if i.isWord "esac" then return ([(patterns, c)], i.advance)
      else
        let i ← i.expectSign .nextArm
        let (arms, i) ← armsOf fuel i.toCommand
        return ((patterns, c) :: arms, i)

/-- Reads the patterns of an arm. A token that is no word stands for a pattern that fits nothing but an
empty text. -/
def patternsOf : Nat → Input → Except SyntaxFault (Found (List Word))
  | 0, i => i.unexpected
  | fuel + 1, i =>
    let pattern : Except SyntaxFault Word := match i.token with
      | .word w => .ok w
      | .sign _ | .newline => .ok []
      | _ => i.unexpected (some (inQuotes [')']))
    do
      let w ← pattern
      let i := i.advance
      if i.isSign .pipe then
        let (ws, i) ← patternsOf fuel i.advance
        return (w :: ws, i)
      else return ([w], i)

end

/-! ### Scripts in words -/

/-- A bound on how deep the commands in a text stand in each other. -/
def depthOf (t : Text) : Nat := 8 * t.length + 64

/-- How the scripts in words are read: as lists of commands. -/
def nestedTo (aliases : List (Text × Text)) : Nat → Nested
  | 0 => ⟨fun last t => .error ⟨lineOf last t, "too deep".toList⟩, fun _ => .error ⟨1, "too deep".toList⟩⟩
  | depth + 1 =>
    { enclosed := fun last t => do
        let (_, i) ← listOf true true none (depthOf t) (Input.ofText (nestedTo aliases depth) aliases last t)
        if i.isSign .close then return (t.take (t.length - i.rest.length - 1), i.rest)
        else i.unexpected (some (inQuotes [')']))
      whole := fun t => do
        let (_, i) ← listOf true true none (depthOf t)
          (Input.ofText (nestedTo aliases depth) aliases (1 + t.count '\n') t)
        match i.token with
        | .fault _ => i.unexpected
        | _ => return () }

/-- How the scripts in words are read. -/
def scriptsInWords (aliases : List (Text × Text)) : Nested := nestedTo aliases 64

/-- A script as the input that its commands are read from; its first line has a number. -/
def Input.ofScript (aliases : List (Text × Text)) (line : Nat) (t : Text) : Input :=
  Input.ofText (scriptsInWords aliases) aliases (line + t.count '\n') t

/-- The commands that stand in a word as a script whose first line has a number. -/
def commandsOf (aliases : List (Text × Text)) (line : Nat) (t : Text) : Except SyntaxFault Command :=
  (listOf true true none (depthOf t) (Input.ofScript aliases line t)).map Prod.fst

/-- Reads the next line of a script: its commands and what follows, unless the script is at its end. -/
def Input.nextLine? (i : Input) : Option (Except SyntaxFault (Found Command)) :=
  match i.token with
  | .finish => none
  | _ => some (listOf false false none (depthOf i.rest) i)

end Flowchart.Shell
