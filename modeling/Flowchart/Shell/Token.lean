import Flowchart.Shell.Word

/-!
Tokens of a script: words, redirections, signs and the ends of lines. They are read one by one, since how
far a script in a word goes is known only when it has been read. The text that a redirection takes
from the script stands below the line of the redirection; it is read as soon as the redirection is met, and
skipped when the line ends.
-/

namespace Flowchart.Shell

/-- A sign that is no part of a word. -/
inductive Sign where
  | next
  | nextArm
  | background
  | both
  | either
  | pipe
  | «open»
  | close
deriving DecidableEq, Repr

def Sign.text : Sign → Text
  | next => [';']
  | nextArm => [';', ';']
  | background => ['&']
  | both => ['&', '&']
  | either => ['|', '|']
  | pipe => ['|']
  | «open» => ['(']
  | close => [')']

inductive Token where
  | word (w : Word)
  /-- A redirection, whose target is the next word. -/
  | redirect (descriptor : Nat) (route : Route)
  /-- A redirection from a text. -/
  | text (descriptor : Nat) (body : Word)
  | sign (s : Sign)
  | newline
  /-- The end of the script. -/
  | finish
  /-- Nothing can be read from here on. -/
  | fault (reason : Text)
deriving Repr

/-! ### Texts for redirections -/

/-- The text up to a line that holds the delimiter and nothing else, and the number of lines with the
delimiter. With `strip` the tabs at the start of lines are dropped. -/
def hereText (strip : Bool) (delimiter : Text) : List Text → Text × Nat
  | [] => ([], 0)
  | line :: more =>
    let line := if strip then line.dropWhile (· = '\t') else line
    if line = delimiter then ([], 1)
    else
      let (body, n) := hereText strip delimiter more
      (line ++ (if more = [] then [] else '\n' :: body), n + 1)

/-- Whether any part of a word is quoted. -/
def isAnyQuoted (w : Word) : Bool :=
  w.any fun
    | .plain _ quoted | .parameter _ _ _ quoted | .output _ _ quoted | .arithmetic _ quoted => quoted

/-! ### Tokens -/

/-- The sign that a text starts with. -/
def signOf? : Text → Option (Sign × Text)
  | ';' :: ';' :: rest => some (.nextArm, rest)
  | ';' :: rest => some (.next, rest)
  | '&' :: '&' :: rest => some (.both, rest)
  | '&' :: rest => some (.background, rest)
  | '|' :: '|' :: rest => some (.either, rest)
  | '|' :: rest => some (.pipe, rest)
  | '(' :: rest => some (.open, rest)
  | ')' :: rest => some (.close, rest)
  | _ => none

/-- The route of the redirection that a text starts with; the usual descriptor goes with it. -/
def routeOf? : Text → Option (Nat × Route × Text)
  | '<' :: '>' :: rest => some (0, .update, rest)
  | '<' :: '&' :: rest => some (0, .copy, rest)
  | '<' :: '<' :: rest => some (0, .text, rest)
  | '<' :: rest => some (0, .read, rest)
  | '>' :: '>' :: rest => some (1, .append, rest)
  | '>' :: '&' :: rest => some (1, .copy, rest)
  | '>' :: '|' :: rest => some (1, .overwrite, rest)
  | '>' :: rest => some (1, .write, rest)
  | _ => none

/-- The redirection that a text starts with. One digit right before it is the descriptor. -/
def redirectOf? : Text → Option (Nat × Route × Text)
  | [] => none
  | c :: rest =>
    if c.isDigit then (routeOf? rest).map fun (_, route, rest) => (Text.digitValue c, route, rest)
    else routeOf? (c :: rest)

/-- Drops blanks, and line ends behind a backslash. -/
def skipBlanks : Text → Text
  | '\\' :: '\n' :: rest => skipBlanks rest
  | ' ' :: rest => skipBlanks rest
  | '\t' :: rest => skipBlanks rest
  | rest => rest

/-- Drops lines from the start of a text. -/
def dropLines : Nat → Text → Text
  | 0, t => t
  | n + 1, t => dropLines n (t.dropWhile (· ≠ '\n')).tail

/-- A text that is read token by token: the next token and the line on which it ends, and what follows it.
The first `skip` lines below the current one belong to redirections. -/
structure Input where
  token : Token
  line : Nat
  rest : Text
  skip : Nat
  /-- The line up to which the text has been read. -/
  reached : Nat
  /-- The number of the last line. -/
  last : Nat
  nested : Nested
  /-- Texts that stand in for the names of commands. -/
  aliases : List (Text × Text)
  /-- The names whose texts are being read, and how much follows each of the texts. -/
  standIns : List (Text × Nat) := []
  /-- Whether the text before the next token ends in a blank and stands in for a name. -/
  goesOn : Bool := false

namespace Input

/-- Puts a token before what follows it. -/
def put (i : Input) (token : Token) (rest : Text) : Input :=
  { i with token := token, line := lineOf i.last rest, rest := rest, reached := i.line }

def stop (i : Input) (fault : SyntaxFault) : Input :=
  { i with token := .fault fault.reason, line := fault.line, rest := [], reached := i.line }

/-- Reads a redirection from a text behind its sign. -/
def putText (i : Input) (descriptor : Nat) (rest : Text) : Input :=
  let (strip, rest) := match rest with
    | '-' :: rest => (true, rest)
    | rest => (false, rest)
  let rest := skipBlanks rest
  match pieces i.nested i.last (rest.length + 1) .bare rest with
  | .error fault => i.stop fault
  | .ok ([], rest) => i.put (.redirect descriptor .text) rest
  | .ok (delimiter, rest) =>
    let below := dropLines (i.skip + 1) rest
    let (body, n) := hereText strip (literal delimiter) (Text.splitAt '\n' below)
    match
      if isAnyQuoted delimiter then Except.ok [Piece.plain body true]
      else bodyOf i.nested (lineOf i.last below + body.count '\n') body with
    | .error fault => i.stop fault
    | .ok body => { i.put (.text descriptor body) rest with skip := i.skip + n }

/-- Notes which texts that stand in for names have been left behind at the start of a token. -/
def leaveStandIns (i : Input) (rest : Text) : Input :=
  let (inside, left) := i.standIns.partition fun s => s.2 < rest.length
  let blank := fun s : Text × Nat =>
    (((i.aliases.lookup s.1).bind List.getLast?).map fun c => c == ' ' || c == '\t').getD false
  { i with standIns := inside, goesOn := left.any blank }

def advance (i : Input) : Input :=
  let rest := skipBlanks i.rest
  let rest := if rest.head? = some '#' then rest.dropWhile (· ≠ '\n') else rest
  let i := if i.standIns.isEmpty then { i with goesOn := false } else i.leaveStandIns rest
  match rest with
  | [] => { i with token := .finish, line := i.last, rest := [], reached := i.line }
  | '\n' :: rest => { i.put .newline (dropLines i.skip rest) with skip := 0 }
  | c :: more =>
    match redirectOf? (c :: more) with
    | some (descriptor, .text, rest) => i.putText descriptor rest
    | some (descriptor, route, rest) => i.put (.redirect descriptor route) rest
    | none =>
      match signOf? (c :: more) with
      | some (sign, rest) => i.put (.sign sign) rest
      | none =>
        match pieces i.nested i.last (more.length + 2) .bare (c :: more) with
        | .error fault => i.stop fault
        | .ok (w, rest) => i.put (.word w) rest

/-- Puts the text in that stands in for the next word, unless it is being read already. -/
def standIn? (i : Input) : Option Input :=
  match i.token with
  | .word w => do
    let name ← unquoted? w
    let t ← i.aliases.lookup name
    if i.standIns.any fun s => s.1 = name then none
    else some { i with rest := t ++ i.rest, standIns := (name, i.rest.length) :: i.standIns }.advance
  | _ => none

/-- Puts the texts in that stand in for the name of a command. -/
def resolved (i : Input) : Input :=
  let rec put : Nat → Input → Input
    | 0, i => i
    | fuel + 1, i => (i.standIn?.map (put fuel)).getD i
  put i.aliases.length i

/-- The first token of a text whose last line has a number. -/
def ofText (nested : Nested) (aliases : List (Text × Text)) (last : Nat) (t : Text) : Input :=
  advance
    { token := .newline, line := lineOf last t, rest := t, skip := 0, reached := lineOf last t, last, nested, aliases }

end Input

end Flowchart.Shell
