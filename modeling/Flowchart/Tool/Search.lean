import Flowchart.Regex.Reader
import Flowchart.Shell.Pattern
import Flowchart.Tool.Listing
import Flowchart.Tool.Start

/-!
The tool that searches directories. An expression is worked out for each file that is found: tests in it tell
whether it holds, and actions do something with the file. A file is printed if the expression holds and has no
action of its own.
-/

namespace Flowchart.Tool

open Files

namespace Search

/-! ### Expressions -/

/-- A number that something is compared with: it may have to be more, less or the same. -/
structure Bound where
  side : Ordering
  number : Nat

/-- Whether a number is within a bound. -/
def Bound.holds (b : Bound) (n : Nat) : Bool := Ord.compare n b.number = b.side

inductive Test where
  | fixed (value : Bool)
  | name (pattern : Text) (ignoreCase : Bool)
  | path (pattern : Text) (ignoreCase : Bool)
  | expression (r : Regex)
  | target (pattern : Text) (ignoreCase : Bool)
  /-- What it is; links may be followed, or not, against what is usual. -/
  | kind (letters : List Char) (turned : Bool)
  | size (unit : Nat) (b : Bound)
  /-- The mode: it has to be the same, to have all bits, or any of them. -/
  | mode (how : Char) (bits : Nat)
  | newer (moment : Int)
  | names (b : Bound)
  | empty
  | allowed (bits : Nat)
  | same (entry : Entry)

inductive Action where
  | print (mark : Char)
  | printIn (stream : Nat) (mark : Char)
  | format (f : Text)
  /-- Starts a program for it, in its directory or not. -/
  | start (command : List Text) (inPlace : Bool)
  /-- Keeps it for a program that is started for all of them, by number. -/
  | keep (number : Nat)
  | delete
  | prune
  | quit

inductive Expression where
  | test (t : Test)
  | action (a : Action)
  | not (e : Expression)
  | and (a b : Expression)
  | or (a b : Expression)
  /-- Both are worked out, and the second one counts. -/
  | both (a b : Expression)

/-- Whether an expression has an action that stands in for printing. -/
def Expression.acts : Expression → Bool
  | test _ | action .prune | action .quit => false
  | action _ => true
  | not e => e.acts
  | and a b | or a b | both a b => a.acts || b.acts

/-- What is read so far besides the expression: how deep to search, and what programs are started at the end. -/
structure Reading where
  process : Process
  most : Option Nat := none
  least : Nat := 0
  insideFirst : Bool := false
  follow : Bool := false
  extended : Bool := false
  /-- Whether the syntax of expressions is the usual one, of which an extended one is made. -/
  usualSyntax : Bool := true
  commands : List (List Text) := []

/-! ### Reading -/

/-- Reads a number to compare with. -/
def bound? (t : Text) : Option Bound :=
  match t with
  | '+' :: digits => (natural? digits).map fun n => ⟨.gt, n⟩
  | '-' :: digits => (natural? digits).map fun n => ⟨.lt, n⟩
  | digits => (natural? digits).map fun n => ⟨.eq, n⟩

def sizeUnits : List (Char × Nat) := [('b', 512), ('c', 1), ('w', 2), ('k', 1024), ('M', Nat.pow 1024 2),
  ('G', Nat.pow 1024 3)]

/-- An expression in which backslashes stand before groups and choices, as one where they do not. -/
def extendedOf : Text → Text
  | '\\' :: c :: rest => (if "()|".toList.contains c then [c] else ['\\', c]) ++ extendedOf rest
  | c :: rest => (if "()|\x7b\x7d".toList.contains c then ['\\', c] else [c]) ++ extendedOf rest
  | [] => []

/-- What is said where a predicate has no argument. -/
def noArgument (name : Text) : Text := "missing argument to \x60".toList ++ name ++ ['\'']

/-- Whether an argument starts the expression. -/
def startsExpression (t : Text) : Bool :=
  match t with
  | '-' :: _ :: _ => true
  | t => ["(", ")", "!", ","].contains (String.ofList t)

/-- The arguments up to a semicolon, or a plus sign behind a pair of braces: the command, whether it is started
once for all files, and what follows. -/
def command? (before : List Text) : List Text → Option (List Text × Bool × List Text)
  | [] => none
  | [';'] :: more => if before = [] then none else some (before.reverse, false, more)
  | ['+'] :: more =>
    if before.head? = some "\x7b\x7d".toList then some (before.tail.reverse, true, more)
    else command? (['+'] :: before) more
  | word :: more => command? (word :: before) more

/-- Reads one predicate and its arguments. -/
def primary (s : Reading) (name : Text) (more : List Text) : Except Text (Expression × Reading × List Text) :=
  let test (t : Test) (more : List Text) : Except Text (Expression × Reading × List Text) := .ok (.test t, s, more)
  let act (a : Action) : Except Text (Expression × Reading × List Text) := .ok (.action a, s, more)
  let always (s : Reading) (more : List Text) : Except Text (Expression × Reading × List Text) :=
    .ok (.test (.fixed true), s, more)
  let one (read : Text → List Text → Except Text (Expression × Reading × List Text)) :=
    match more with
    | value :: more => read value more
    | [] => .error (noArgument name)
  let counted (make : Bound → Test) := one fun value more =>
    match bound? value with
    | some b => test (make b) more
    | none => .error ("invalid argument \x60".toList ++ value ++ "' to \x60".toList ++ name ++ ['\''])
  let depth (set : Nat → Reading) := one fun value more =>
    match natural? value with
    | some n => always (set n) more
    | none => .error ("Expected a positive decimal integer argument to ".toList ++ name ++ ", but got ".toList ++ quoted value)
  let asRoot := one fun value more =>
    if value = "root".toList ∨ value = ['0'] then test (.fixed true) more
    else if (natural? value).isSome then test (.fixed false) more
    else .error (quoted value ++ (if name = "-user".toList then " is not the name of a known user"
      else " is not the name of an existing group").toList)
  let matching (ignoreCase : Bool) := one fun value more =>
    match Regex.read { extended := s.extended || s.usualSyntax, ignoreCase } (if s.usualSyntax then extendedOf value else value) with
    | .ok (r, _) => test (.expression r) more
    | .error fault => .error ("failed to compile regular expression ".toList ++ quoted value ++ ": ".toList ++ fault.message)
  let starts (inPlace : Bool) :=
    match command? [] more with
    | none => .error (noArgument name)
    | some (command, false, more) => .ok (.action (.start command inPlace), s, more)
    | some (command, true, more) =>
      .ok (.action (.keep s.commands.length), { s with commands := s.commands ++ [command] }, more)
  match String.ofList name with
  | "-name" => one fun value more => test (.name value false) more
  | "-iname" => one fun value more => test (.name value true) more
  | "-path" | "-wholename" => one fun value more => test (.path value false) more
  | "-ipath" | "-iwholename" => one fun value more => test (.path value true) more
  | "-lname" => one fun value more => test (.target value false) more
  | "-ilname" => one fun value more => test (.target value true) more
  | "-regex" => matching false
  | "-iregex" => matching true
  | "-regextype" => one fun value more =>
    let extended := ["posix-extended", "egrep", "posix-egrep", "awk", "gnu-awk", "posix-awk"]
    let usual := ["emacs", "findutils-default"]
    always { s with extended := extended.contains (String.ofList value), usualSyntax := usual.contains (String.ofList value) } more
  | "-type" | "-xtype" => one fun value more =>
    let letters := Text.splitAt ',' value
    match letters.find? fun l => match l with
      | [c] => !"bcdpflsD".toList.contains c
      | _ => true with
    | some wrong => .error ("Unknown argument to ".toList ++ name ++ ": ".toList ++ wrong.take 1)
    | none => test (.kind letters.flatten (name = "-xtype".toList)) more
  | "-maxdepth" => depth fun n => { s with most := some n }
  | "-mindepth" => depth fun n => { s with least := n }
  | "-depth" | "-d" => always { s with insideFirst := true } more
  | "-follow" => always { s with follow := true } more
  | "-mount" | "-xdev" | "-noleaf" | "-warn" | "-nowarn" | "-ignore_readdir_race" | "-daystart" => always s more
  | "-size" => one fun value more =>
    let (digits, unit) := match (value.getLast?).bind fun c => sizeUnits.lookup c with
      | some unit => (value.dropLast, unit)
      | none => (value, 512)
    match bound? digits with
    | some b => test (.size unit b) more
    | none => .error ("invalid -size type \x60".toList ++ value.getLast?.toList ++ ['\''])
  | "-perm" => one fun value more =>
    let (how, mode) := match value with
      | '-' :: rest => ('-', rest)
      | '/' :: rest => ('/', rest)
      | mode => ('=', mode)
    match Mode.change? mode with
    | some change => test (.mode how (change.apply 0 false 0)) more
    | none => .error ("invalid mode ".toList ++ quoted value)
  | "-newer" | "-anewer" | "-cnewer" => one fun value more =>
    match s.process.look value with
    | .ok (_, entry) => test (.newer (writtenOf s.process.tree entry)) more
    | .error fault => .error (quoted value ++ told fault)
  | "-samefile" => one fun value more =>
    match s.process.look value false with
    | .ok (_, entry) => test (.same entry) more
    | .error fault => .error (quoted value ++ told fault)
  | "-links" => counted .names
  | "-user" | "-group" => asRoot
  | "-uid" | "-gid" => counted fun b => .fixed (b.holds 0)
  | "-nouser" | "-nogroup" => test (.fixed false) more
  | "-empty" => test .empty more
  | "-readable" | "-writable" => test (.fixed true) more
  | "-executable" => test (.allowed 0o111) more
  | "-true" => test (.fixed true) more
  | "-false" => test (.fixed false) more
  | "-print" => act (.print '\n')
  | "-print0" => act (.print '\x00')
  | "-printf" => one fun value more => .ok (.action (.format value), s, more)
  | "-fprint" | "-fprint0" => one fun value more =>
    match s.process.openToWrite value false false with
    | .ok (p, n) =>
      .ok (.action (.printIn n (if name = "-fprint".toList then '\n' else '\x00')), { s with process := p }, more)
    | .error fault => .error (quoted value ++ told fault)
  | "-exec" => starts false
  | "-execdir" => starts true
  | "-ok" | "-okdir" =>
    match command? [] more with
    | none => .error (noArgument name)
    | some (_, _, more) => test (.fixed false) more
  | "-delete" => .ok (.action .delete, { s with insideFirst := true }, more)
  | "-prune" => act .prune
  | "-quit" => act .quit
  | _ =>
    if name.head? = some '-' then .error ("unknown predicate \x60".toList ++ name ++ ['\''])
    else .error ("paths must precede expression: \x60".toList ++ name ++ ['\''])

/-- What is said where an operator stands without an expression before it. -/
def nothingBefore (name : Text) : Text :=
  "invalid expression; you have used a binary operator '".toList ++ name ++ "' with nothing before it.".toList

/-- What is said where an operator stands without an expression behind it. -/
def nothingBehind (name : Text) : Text := "expected an expression after '".toList ++ name ++ ['\'']

mutual

/-- Reads expressions between which commas, or words for `or`, or nothing, stand; `level` tells which. -/
def parts : Nat → Nat → Reading → List Text → Except Text (Expression × Reading × List Text)
  | 0, _, _, _ => .error "expression too long".toList
  | fuel + 1, level, s, words => do
    let (e, s, words) ← if level < 2 then parts fuel (level + 1) s words else single fuel s words
    more fuel level e s words

def more : Nat → Nat → Expression → Reading → List Text → Except Text (Expression × Reading × List Text)
  | 0, _, e, s, words => .ok (e, s, words)
  | fuel + 1, level, e, s, words =>
    let go (join : Expression → Expression → Expression) (operator : Option Text) (words : List Text) :
        Except Text (Expression × Reading × List Text) := do
      match operator, words with
      | some operator, [] => .error (nothingBehind operator)
      | _, words =>
        let (b, s, words) ← if level < 2 then parts fuel (level + 1) s words else single fuel s words
        more fuel level (join e b) s words
    match words with
    | [] => .ok (e, s, words)
    | word :: rest =>
      match level, String.ofList word with
      | 0, "," => go .both (some word) rest
      | 1, "-o" | 1, "-or" => go .or (some word) rest
      | 2, "-a" | 2, "-and" => go .and (some word) rest
      | 2, "," | 2, "-o" | 2, "-or" | 2, ")" => .ok (e, s, words)
      | 2, _ => go .and none words
      | _, _ => .ok (e, s, words)

/-- Reads a predicate, an expression that is denied, or one between brackets. -/
def single : Nat → Reading → List Text → Except Text (Expression × Reading × List Text)
  | 0, _, _ => .error "expression too long".toList
  | _ + 1, _, [] => .error "expression too short".toList
  | fuel + 1, s, word :: rest =>
    match String.ofList word with
    | "!" | "-not" => do
      if rest = [] then .error (nothingBehind word)
      else
        let (e, s, words) ← single fuel s rest
        return (.not e, s, words)
    | "(" =>
      match rest with
      | [] => .error "invalid expression; I was expecting to find a ')' somewhere but did not see one.".toList
      | [')'] :: _ => .error "invalid expression; empty parentheses are not allowed.".toList
      | rest => do
        let (e, s, words) ← parts fuel 0 s rest
        match words with
        | [')'] :: words => return (e, s, words)
        | _ => .error "invalid expression; I was expecting to find a ')' somewhere but did not see one.".toList
    | ")" => .error "invalid expression; you have too many ')'".toList
    | "-a" | "-and" | "-o" | "-or" | "," => .error (nothingBefore word)
    | _ => primary s word rest

end

/-! ### Running -/

/-- A file that is found: its path, the operand below which it is found, and what it is. -/
structure Hit where
  path : Text
  operand : Text
  depth : Nat
  place : Place
  entry : Entry

structure Progress where
  process : Process
  /-- The files that are kept for programs, by the number of the program. -/
  kept : List (Nat × Text) := []
  failed : Bool := false
  prunes : Bool := false
  quits : Bool := false

/-- The letter for what an entry is. -/
def kindOf : Entry → Char
  | .file _ => 'f'
  | .directory _ => 'd'
  | .link _ => 'l'
  | .device _ => 'c'

def fits (pattern : Text) (ignoreCase : Bool) (t : Text) : Bool :=
  let fold (t : Text) : Text := if ignoreCase then t.map Char.toLower else t
  let rec glyphs : Text → List Shell.Glyph
    | '\\' :: c :: rest => ⟨c, true⟩ :: glyphs rest
    | c :: rest => ⟨c, false⟩ :: glyphs rest
    | [] => []
  Shell.fits (Shell.patternOf (glyphs (fold pattern))) (fold t)

/-- Whether a test holds for a file. -/
def Test.holds (p : Process) (follow : Bool) (h : Hit) : Test → Bool
  | fixed value => value
  | name pattern ignoreCase => fits pattern ignoreCase (lastName h.path)
  | path pattern ignoreCase => fits pattern ignoreCase h.path
  | expression r => r.matchesAll h.path
  | target pattern ignoreCase =>
    match h.entry with
    | .link goal => fits pattern ignoreCase goal
    | _ => false
  | kind letters turned =>
    let entry := if turned then
        match p.look h.path (!follow) with
        | .ok (_, entry) => entry
        | .error _ => h.entry
      else h.entry
    letters.contains (kindOf entry)
  | size unit b => b.holds ((sizeOf p.tree h.entry + unit - 1) / unit)
  | mode how bits =>
    let mode := modeOf p.tree h.entry
    if how = '-' then mode &&& bits = bits else if how = '/' then bits = 0 || mode &&& bits ≠ 0 else mode = bits
  | newer moment => moment < writtenOf p.tree h.entry
  | names b => b.holds (namesOf p.tree h.place h.entry)
  | empty =>
    match h.entry with
    | .file n => (p.tree.fileNumbered n).content = []
    | .directory _ => (p.tree.names h.place).isEmpty
    | _ => false
  | allowed bits =>
    match p.look h.path with
    | .ok (_, entry) => modeOf p.tree entry &&& bits ≠ 0
    | .error _ => false
  | same entry => h.entry = entry

/-- A fact about a file by the letter for it. -/
def fact? (p : Process) (h : Hit) (letter : Char) : Option Text :=
  let t := p.tree
  match letter with
  | 'p' => some h.path
  | 'f' => some (lastName h.path)
  | 'h' => some (if '/' ∈ dropSlashes h.path then directoryOf h.path else ['.'])
  | 'P' => some (((h.path.drop h.operand.length).dropWhile (· = '/')))
  | 'H' => some h.operand
  | 's' => some (Text.decimal (sizeOf t h.entry))
  | 'd' => some (Text.decimal h.depth)
  | 'y' => some [kindOf h.entry]
  | 'Y' => some (match p.look h.path with
    | .ok (_, entry) => [kindOf entry]
    | .error _ => ['N'])
  | 'm' => some (Mode.octal 1 (modeOf t h.entry))
  | 'M' => some ((kindLetter h.entry) :: Mode.letters (modeOf t h.entry))
  | 'n' => some (Text.decimal (namesOf t h.place h.entry))
  | 'u' | 'g' => some "root".toList
  | 'U' | 'G' => some ['0']
  | 'l' => some (match h.entry with
    | .link target => target
    | _ => [])
  | _ => none

/-- Facts in a format, and what is wrong with it. -/
def formatted (p : Process) (h : Hit) : Nat → Text → Text
  | 0, _ | _, [] => []
  | fuel + 1, '%' :: rest =>
    let flags := rest.takeWhile fun c => "-0+ #".toList.contains c
    let behind := rest.drop flags.length
    let digits := behind.takeWhile Char.isDigit
    match behind.drop digits.length with
    | [] => ['%']
    | '%' :: more => '%' :: formatted p h fuel more
    | kind :: more =>
      match fact? p h kind with
      | some t =>
        let width := Text.natOfDigits 10 digits
        (if '-' ∈ flags then left width t else right width t) ++ formatted p h fuel more
      | none => '%' :: kind :: formatted p h fuel more
  | fuel + 1, '\\' :: c :: rest =>
    match escapeLetters.find? fun e => e.2 = c with
    | some (d, _) => d :: formatted p h fuel rest
    | none =>
      if c = '\\' then '\\' :: formatted p h fuel rest
      else if c = 'c' then []
      else if Text.isOctalDigit c then
        let digits := ((c :: rest).take 3).takeWhile Text.isOctalDigit
        Char.ofNat (Text.natOfDigits 8 digits % 256) :: formatted p h fuel ((c :: rest).drop digits.length)
      else '\\' :: c :: formatted p h fuel rest
  | fuel + 1, c :: rest => c :: formatted p h fuel rest

/-- Starts a program from a tool, without an input; gives whether it ends well. -/
def runCommand (c : Call) (p : Process) (words : List Text) : Process × Bool :=
  let (w, n) := p.world.addStream (.device .null)
  match c.start ({ p with world := w }.attach 0 n) (words.head?.getD []) words.tail c.environment with
  | .error fault => (c.complain (quoted (words.head?.getD []) ++ told fault) p, false)
  | .ok (exit, after) => ({ p with world := after.world }, exit = .code 0)

/-- Does something with a file; gives whether that is done. -/
def Action.run (c : Call) (g : Progress) (h : Hit) (a : Action) : Progress × Bool :=
  let p := g.process
  match a with
  | print mark => ({ g with process := p.write 1 (h.path ++ [mark]) }, true)
  | printIn n mark => ({ g with process := { p with world := p.world.write n (Text.octets (h.path ++ [mark])) } }, true)
  | format f => ({ g with process := p.write 1 (formatted p h (f.length + 1) f) }, true)
  | start command inPlace =>
    let path := if inPlace then "./".toList ++ lastName h.path else h.path
    let words := command.map fun w => withReplaced "\x7b\x7d".toList path (w.length + 1) w
    let directory := h.place.parent.path
    let inside := if inPlace then
        { p with directory := if directory = [] ∨ directory.getLast? = some '/' then directory else directory ++ ['/'] }
      else p
    let (after, fine) := runCommand c inside words
    ({ g with process := { p with world := after.world } }, fine)
  | keep number => ({ g with kept := g.kept ++ [(number, h.path)] }, true)
  | delete =>
    if h.path = ['.'] then (g, true)
    else
      let gone := match h.entry with
        | .directory _ => p.tree.removeDirectory (p.path h.path)
        | _ => p.tree.remove (p.path h.path)
      match gone with
      | .ok t => ({ g with process := p.setTree t }, true)
      | .error fault =>
        ({ g with process := c.complain ("cannot delete ".toList ++ quoted h.path ++ told fault) p, failed := true }, false)
  | prune => ({ g with prunes := true }, true)
  | quit => ({ g with quits := true }, true)

/-- Works an expression out for a file. -/
def Expression.run (c : Call) (follow : Bool) (h : Hit) : Progress → Expression → Progress × Bool
  | g, test t => (g, !g.quits && t.holds g.process follow h)
  | g, action a => if g.quits then (g, false) else a.run c g h
  | g, not e =>
    let (g, value) := e.run c follow h g
    (g, !value)
  | g, and a b =>
    let (g, value) := a.run c follow h g
    if value && !g.quits then b.run c follow h g else (g, false)
  | g, or a b =>
    let (g, value) := a.run c follow h g
    if value || g.quits then (g, value) else b.run c follow h g
  | g, both a b => b.run c follow h (a.run c follow h g).1

structure Course where
  call : Call
  expression : Expression
  follow : Bool
  followOperands : Bool
  most : Option Nat
  least : Nat
  insideFirst : Bool

/-- Searches a path and what is below it. -/
def Course.search (m : Course) (operand : Text) : Nat → Nat → Progress → Text → Progress
  | 0, _, g, _ => g
  | fuel + 1, depth, g, path =>
    if g.quits then g
    else
      let p := g.process
      let follows := m.follow || (m.followOperands && depth = 0)
      let found := match p.look path follows with
        | .error fault => if follows then p.look path false else .error fault
        | found => found
      match found with
      | .error fault => { g with process := m.call.complain (quoted path ++ told fault) p, failed := true }
      | .ok (place, entry) =>
        let h : Hit := ⟨path, operand, depth, place, entry⟩
        let visit (g : Progress) : Progress :=
          if depth < m.least then g else (m.expression.run m.call m.follow h { g with prunes := false }).1
        let inside (g : Progress) : Progress :=
          if m.most.any (· ≤ depth) then g
          else match entry with
            | .directory _ =>
              (g.process.tree.names place).foldl (fun g name =>
                m.search operand fuel (depth + 1) g (inDirectory path name)) g
            | _ => g
        if m.insideFirst then visit (inside { g with prunes := false })
        else
          let g := visit { g with prunes := false }
          if g.prunes then g else inside g

end Search

open Search in
def search : Service := fun c p =>
  let isOption (t : Text) : Bool := ["-H", "-L", "-P", "-O0", "-O1", "-O2", "-O3"].contains (String.ofList t)
  let options := c.arguments.takeWhile isOption
  let arguments := c.arguments.drop options.length
  let arguments := if arguments.head? = some ['-', '-'] then arguments.tail else arguments
  let follows := (options.reverse.find? fun t => t.drop 1 ∈ [['H'], ['L'], ['P']]).getD []
  let paths := arguments.takeWhile fun t => !startsExpression t
  let words := arguments.drop paths.length
  let read : Except Text (Expression × Reading × List Text) :=
    if words = [] then .ok (.test (.fixed true), { process := p }, [])
    else parts (8 * words.length + 16) 0 { process := p, follow := follows = ['-', 'L'] } words
  match read with
  | .error message =>
    let hint := match words.reverse, "paths must precede".toList.isPrefixOf message with
      | _, true =>
        let wrong := words.find? fun w => message.reverse.tail.take w.length = w.reverse ∧ !startsExpression w
        (wrong.bind fun w => if (p.look w false).toOption.isSome then
          ((words.takeWhile (· ≠ w)).reverse.find? startsExpression).map fun before =>
            c.name ++ ": possible unquoted pattern after predicate \x60".toList ++ before ++ "'?\n".toList
          else none).getD []
      | _, false => []
    ends 1 ((c.complain message p).write 2 hint)
  | .ok (_, _, word :: _) =>
    c.fail (if word = [')'] then "you have too many ')'".toList
      else "paths must precede expression: \x60".toList ++ word ++ ['\'']) 1 p
  | .ok (e, s, []) =>
    let e := if e.acts then e else .and e (.action (.print '\n'))
    let m : Course :=
      { call := c, expression := e, follow := s.follow || follows = ['-', 'L'], followOperands := follows = ['-', 'H']
        most := s.most, least := s.least, insideFirst := s.insideFirst }
    let paths := if paths = [] then [['.']] else paths
    let g := paths.foldl (fun g path => m.search path maxRemoved 0 g path) ({ process := s.process } : Progress)
    let (p, failed) := s.commands.zipIdx.foldl (fun (p, failed) (command, n) =>
      let kept := g.kept.filterMap fun k => if k.1 = n then some k.2 else none
      if kept = [] then (p, failed)
      else
        let (p, fine) := runCommand c p (command ++ kept)
        (p, failed || !fine)) (g.process, g.failed)
    ends (statusOf !failed) p

end Flowchart.Tool
