import Flowchart.Shell.Command
import Flowchart.Text.Digit

/-!
Words as they are written in a script. A word goes on up to a blank or a sign; quotes and backslashes take
the meaning of characters away, and a dollar sign or a backquote starts what is replaced later.

Line numbers are told from the end: a reader knows the number of the last line, and the line feeds that
are left say how far away it is.
-/

namespace Flowchart.Shell

/-- Why a script cannot be read, from the given line on. -/
structure SyntaxFault where
  line : Nat
  reason : Text
deriving DecidableEq, Repr

/-- The line on which a text starts that ends on line `last`. -/
def lineOf (last : Nat) (rest : Text) : Nat := last - rest.count '\n'

/-- Whether a character ends a word that is not quoted. -/
def endsWord (c : Char) : Bool :=
  c == ' ' || c == '\t' || c == '\n' || c == ';' || c == '&' || c == '|' || c == '>' || c == '<' || c == '('
    || c == ')'

/-- Whether a character may start the name of a variable. -/
def startsName (c : Char) : Bool := c.isAlpha || c == '_'

/-- Whether a character may stand in the name of a variable. -/
def isNameChar (c : Char) : Bool := c.isAlphanum || c == '_'

/-- Whether a text is the name of a variable. -/
def isName (t : Text) : Bool := (t.head?.map startsName).getD false && t.all isNameChar

/-- Whether a character is the name of a special parameter. -/
def isSpecial (c : Char) : Bool :=
  c == '@' || c == '*' || c == '#' || c == '?' || c == '-' || c == '$' || c == '!'

/-! ### Enclosed texts -/

/-- How the scripts in a word are read. -/
structure Nested where
  /-- The script up to the parenthesis that closes it, and what follows, in a text whose last line has a
  number. -/
  enclosed : Nat → Text → Except SyntaxFault (Text × Text)
  /-- Whether a text is a script. -/
  whole : Text → Except SyntaxFault Unit

/-- The expression up to the two parentheses that close it, `depth` of which are open inside, and what
follows. -/
def expression (depth : Nat) : Text → Option (Text × Text)
  | [] => none
  | '\\' :: c :: rest => (expression depth rest).map fun p => ('\\' :: c :: p.1, p.2)
  | '(' :: rest => (expression (depth + 1) rest).map fun p => ('(' :: p.1, p.2)
  | ')' :: rest =>
    match depth, rest with
    | 0, ')' :: after => some ([], after)
    | depth, rest => (expression (depth - 1) rest).map fun p => (')' :: p.1, p.2)
  | c :: rest => (expression depth rest).map fun p => (c :: p.1, p.2)

/-- The script between backquotes, in which a backslash guards a backquote, a backslash and a dollar sign,
and a double quote if the backquotes stand between such. -/
def backquoted (quoted : Bool) : Text → Option (Text × Text)
  | [] => none
  | '\\' :: c :: rest =>
    let kept := if c = '`' ∨ c = '\\' ∨ c = '$' ∨ (quoted = true ∧ c = '"') then [c] else ['\\', c]
    (backquoted quoted rest).map fun p => (kept ++ p.1, p.2)
  | c :: rest => if c = '`' then some ([], rest) else (backquoted quoted rest).map fun p => (c :: p.1, p.2)

/-! ### Pieces -/

inductive Context where
  /-- In a word, up to its end. -/
  | bare
  /-- Between double quotes. -/
  | quotes
  /-- In braces. -/
  | braces
  /-- In braces that stand between double quotes. -/
  | quotedBraces
  /-- In a text that ends by itself. -/
  | body
deriving DecidableEq, Repr

/-- Whether what is read at a context is quoted. -/
def Context.isQuoted : Context → Bool
  | bare | braces => false
  | quotes | quotedBraces | body => true

/-- How a word is read that stands in braces, behind a sign: patterns are read as if nothing quoted them. -/
def Context.inner (p : Context) (use : Use) : Context :=
  match use with
  | .dropStart _ | .dropEnd _ => .braces
  | _ => if p.isQuoted then .quotedBraces else .braces

/-- Puts a character before pieces. -/
def consChar (c : Char) (quoted : Bool) : Word → Word
  | .plain t q :: rest => if q = quoted then .plain (c :: t) q :: rest else .plain [c] quoted :: .plain t q :: rest
  | rest => .plain [c] quoted :: rest

def consText (t : Text) (quoted : Bool) (rest : Word) : Word := t.foldr (consChar · quoted ·) rest

/-- What stands behind the name in braces, and what follows it. A character that is no sign is passed
over. -/
def useOf : Text → Use × Text
  | ':' :: '-' :: rest => (.default true, rest)
  | '-' :: rest => (.default false, rest)
  | ':' :: '=' :: rest => (.assign true, rest)
  | '=' :: rest => (.assign false, rest)
  | ':' :: '?' :: rest => (.demand true, rest)
  | '?' :: rest => (.demand false, rest)
  | ':' :: '+' :: rest => (.replace true, rest)
  | '+' :: rest => (.replace false, rest)
  | '%' :: '%' :: rest => (.dropEnd true, rest)
  | '%' :: rest => (.dropEnd false, rest)
  | '#' :: '#' :: rest => (.dropStart true, rest)
  | '#' :: rest => (.dropStart false, rest)
  | ':' :: _ :: rest => (.malformed, rest)
  | _ :: rest => (.malformed, rest)
  | [] => (.malformed, [])

/-- The name that a parameter starts with, and what follows it. -/
def parameterName : Text → Text × Text
  | [] => ([], [])
  | c :: rest =>
    if startsName c then (c :: rest.takeWhile isNameChar, rest.dropWhile isNameChar)
    else if c.isDigit then (c :: rest.takeWhile Char.isDigit, rest.dropWhile Char.isDigit)
    else if isSpecial c then ([c], rest)
    else ([], c :: rest)

/-- Reads pieces up to the end of the context they stand at, and gives what follows. -/
def pieces (nested : Nested) (last : Nat) : Nat → Context → Text → Except SyntaxFault (Word × Text)
  | 0, _, rest => .error ⟨lineOf last rest, "too deep".toList⟩
  | fuel + 1, context, input =>
    let quoted := context.isQuoted
    let fault (rest : Text) (reason : String) := Except.error (SyntaxFault.mk (lineOf last rest) reason.toList)
    let go (rest : Text) := pieces nested last fuel context rest
    let char (c : Char) (quoted : Bool) (rest : Text) := do
      let (w, rest) ← go rest
      return (consChar c quoted w, rest)
    let piece (p : Piece) (rest : Text) := do
      let (w, rest) ← go rest
      return (p :: w, rest)
    match input with
    | [] =>
      match context with
      | .bare | .body => .ok ([], [])
      | .quotes => fault [] "Unterminated quoted string"
      | .braces | .quotedBraces => fault [] "Missing '\x7d'"
    | '\\' :: '\n' :: rest => go rest
    | '\\' :: c :: rest =>
      if !quoted then char c true rest
      else if c = '$' ∨ c = '`' ∨ c = '\\' ∨ (c = '"' ∧ context ≠ .body) ∨ (c = '\x7d' ∧ context = .quotedBraces) then
        char c true rest
      else do
        let (w, rest) ← go (c :: rest)
        return (consChar '\\' true w, rest)
    | '\'' :: rest =>
      if quoted then char '\'' true rest
      else
        match Text.cut? '\'' rest with
        | none => fault [] "Unterminated quoted string"
        | some (t, rest) => do
          let (w, rest) ← go rest
          return (if t = [] then .plain [] true :: w else consText t true w, rest)
    | '"' :: rest =>
      if context = .quotes then .ok ([], rest)
      else if context = .body then char '"' true rest
      else do
        let (inside, rest) ← pieces nested last fuel .quotes rest
        let (w, rest) ← go rest
        return ((if inside.isEmpty then [.plain [] true] else inside) ++ w, rest)
    | '`' :: rest =>
      match backquoted quoted rest with
      | none => fault [] "EOF in backquote substitution"
      | some (script, after) => do
        nested.whole script
        piece (.output 1 script quoted) after
    | '$' :: '(' :: '(' :: rest =>
      match expression 0 rest with
      | some (inside, after) => do
        let (w, _) ← pieces nested (lineOf last after) fuel .body inside
        piece (.arithmetic w quoted) after
      | none => fault [] "Missing '))'"
    | '$' :: '(' :: rest => do
      let (script, after) ← nested.enclosed last rest
      piece (.output (lineOf last rest) script quoted) after
    | '$' :: '\x7b' :: rest =>
      let (isLength, inside) := match rest with
        | '#' :: c :: more => if c = '\x7d' ∨ (parameterName (c :: more)).1 = [] then (false, rest) else (true, c :: more)
        | _ => (false, rest)
      let (name, behind) := parameterName inside
      match name, behind with
      | _ :: _, '\x7d' :: after => piece (.parameter name (if isLength then .length else .value) [] quoted) after
      | _, behind => do
        let (use, argument) := if name = [] ∨ isLength then (.malformed, behind) else useOf behind
        -- a line feed that is passed over is not counted
        let last := last + argument.count '\n' - behind.count '\n'
        let (w, after) ← pieces nested last fuel (context.inner use) argument
        piece (.parameter name use w quoted) after
    | '$' :: c :: rest =>
      if startsName c then
        piece (.parameter (c :: rest.takeWhile isNameChar) .value [] quoted) (rest.dropWhile isNameChar)
      else if c.isDigit || isSpecial c then piece (.parameter [c] .value [] quoted) rest
      else char '$' quoted (c :: rest)
    | c :: rest =>
      if c = '\x7d' ∧ (context = .braces ∨ context = .quotedBraces) then .ok ([], rest)
      else if context = .bare ∧ endsWord c then .ok ([], c :: rest)
      else char c quoted rest

/-- The pieces of a text that ends by itself. -/
def bodyOf (nested : Nested) (last : Nat) (t : Text) : Except SyntaxFault Word :=
  (pieces nested last (t.length + 1) .body t).map Prod.fst

/-- The text that a word is if nothing in it is replaced. -/
def literal (w : Word) : Text :=
  w.flatMap fun
    | .plain t _ => t
    | .parameter name .. => '$' :: name
    | .output _ script _ => script
    | .arithmetic .. => []

/-- The text of a word without quotes and without anything that is replaced. -/
def unquoted? : Word → Option Text
  | [.plain t false] => some t
  | _ => none

end Flowchart.Shell
