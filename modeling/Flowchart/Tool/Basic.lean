import Flowchart.Engine.Launch
import Flowchart.Process.Basic

/-!
Tools: programs that do one thing to files or streams. A tool is called by a name with arguments; it
changes what it shares with other processes and ends. Options stand before or among the operands, and what
is wrong with them is told in the same way by all tools.
-/

namespace Flowchart.Tool

open Files

/-- Starts a program from a process: by name or path, with arguments and an environment. -/
abbrev Starter := Process → Text → List Text → List (Text × Text) → Except Fault (Exit × Process)

/-- The call of a tool: the name it is called by, its arguments and its environment, and how it may start
another program. -/
structure Call where
  name : Text
  arguments : List Text
  environment : List (Text × Text)
  start : Starter := fun _ _ _ _ => .error .notFound

/-- What a tool does when it is called. -/
abbrev Service := Call → Process → Exit × Process

def ends (status : Nat) (p : Process) : Exit × Process := (.code status, p)

/-- The status of a tool that has done everything, or not. -/
def statusOf (fine : Bool) : Nat := if fine then 0 else 1

/-! ### Messages -/

def Call.complain (c : Call) (message : Text) (p : Process) : Process :=
  p.write 2 (c.name ++ ": ".toList ++ message ++ ['\n'])

def Call.fail (c : Call) (message : Text) (status : Nat) (p : Process) : Exit × Process :=
  ends status (c.complain message p)

/-- Says what is wrong with the call, and ends. -/
def Call.refuse (c : Call) (message : Text) (status : Nat) (p : Process) : Exit × Process :=
  ends status (p.write 2
    (c.name ++ ": ".toList ++ message ++ "\nTry '".toList ++ c.name ++ " --help' for more information.\n".toList))

/-- Whether a character is written as it is. -/
def isPrintable (c : Char) : Bool := ' ' ≤ c && c ≤ '~'

/-- The letters of the escapes for single characters. -/
def escapeLetters : List (Char × Char) :=
  [('\x07', 'a'), ('\x08', 'b'), ('\t', 't'), ('\n', 'n'), ('\x0b', 'v'), ('\x0c', 'f'), ('\r', 'r')]

/-- A character that is not printable, as an escape. -/
def escapeOf (c : Char) : Text :=
  match escapeLetters.lookup c with
  | some letter => ['\\', letter]
  | none =>
    let digits := Nat.toDigits 8 c.toNat
    '\\' :: List.replicate (3 - digits.length) '0' ++ digits

/-- A text between single quotes, where `inEscape` says that escapes are being written. -/
def quotedFrom (inEscape : Bool) : Text → Text
  | [] => ['\'']
  | c :: rest =>
    if !isPrintable c then (if inEscape then [] else "'$'".toList) ++ escapeOf c ++ quotedFrom true rest
    else
      (if inEscape then "''".toList else []) ++ (if c = '\'' then "'\\''".toList else [c]) ++ quotedFrom false rest

/-- A text between single quotes, or between double ones if it holds a single quote and nothing that has a
meaning between double quotes. -/
def quoted (t : Text) : Text :=
  if '\'' ∈ t ∧ t.all fun c => isPrintable c && !"\"$\\!\x60".toList.contains c then '"' :: t ++ ['"']
  else '\'' :: quotedFrom false t

/-- Whether a shell reads a text as one word that stands for itself. -/
def isPlainWord (t : Text) : Bool :=
  t ≠ [] && t.head? ≠ some '~' && t.head? ≠ some '#' && t ≠ ['\x7b'] && t ≠ ['\x7d'] &&
    t.all fun c => isPrintable c && !" !\"$&'()*;<=>?[\\^\x60|".toList.contains c

/-- A name, between quotes if a shell would read it as anything else. -/
def named (t : Text) : Text := if isPlainWord t then t else quoted t

/-- A text between single quotes, with a backslash before what could be mistaken. -/
def cited (t : Text) : Text :=
  '\'' :: t.flatMap (fun c =>
    if c = '\'' ∨ c = '\\' then ['\\', c] else if isPrintable c then [c] else escapeOf c) ++ ['\'']

/-- The words for a fault behind a colon. -/
def told (fault : Fault) : Text := ": ".toList ++ fault.name

/-! ### Options -/

/-- What options a tool knows: letters, letters with a value behind them, letters that may have a value right
behind them, and long names for letters. -/
structure Known where
  letters : String
  valued : String := ""
  loose : String := ""
  long : List (String × Char) := []

/-- The options of a call in their order, and the operands. -/
structure Options where
  given : List (Char × Text) := []
  operands : List Text := []

namespace Options

def has (o : Options) (letter : Char) : Bool := o.given.any fun g => g.1 = letter

def value? (o : Options) (letter : Char) : Option Text :=
  (o.given.reverse.find? fun g => g.1 = letter).map Prod.snd

def values (o : Options) (letter : Char) : List Text :=
  o.given.filterMap fun g => if g.1 = letter then some g.2 else none

def last? (o : Options) (letters : String) : Option Char :=
  (o.given.reverse.find? fun g => letters.toList.contains g.1).map Prod.fst

def add (o : Options) (letter : Char) (value : Text) : Options := { o with given := o.given ++ [(letter, value)] }

end Options

/-- The letters behind a dash. The rest of the argument, or else the next argument, is the value of a
letter that has one. -/
def letters (k : Known) (o : Options) (more : List Text) : Text → Except Text (Options × List Text)
  | [] => .ok (o, more)
  | c :: rest =>
    if k.letters.toList.contains c then letters k (o.add c []) more rest
    else if k.valued.toList.contains c then
      match rest, more with
      | [], [] => .error ("option requires an argument -- '".toList ++ [c, '\''])
      | [], value :: more => .ok (o.add c value, more)
      | value, more => .ok (o.add c value, more)
    else if k.loose.toList.contains c then .ok (o.add c rest, more)
    else .error ("invalid option -- '".toList ++ [c, '\''])

/-- The letter that a long name, or the start of one, stands for. -/
def longLetter? (k : Known) (name : Text) : Except Text Char :=
  match k.long.find? fun l => l.1.toList = name with
  | some l => .ok l.2
  | none =>
    match k.long.filter fun l => name.isPrefixOf l.1.toList with
    | [] => .error ("unrecognized option '--".toList ++ name ++ ['\''])
    | l :: more =>
      if more.all fun m => m.2 = l.2 then .ok l.2
      else .error ("option '--".toList ++ name ++ "' is ambiguous; possibilities:".toList
        ++ (l :: more).flatMap fun m => " '--".toList ++ m.1.toList ++ ['\''])

def longName (k : Known) (name : Text) (letter : Char) : Text :=
  if k.long.any fun l => l.1.toList = name then name
  else ((k.long.find? fun l => name.isPrefixOf l.1.toList && l.2 = letter).map fun l => l.1.toList).getD name

/-- Reads arguments. Two dashes end the options; a single dash is an operand. With `ordered` the first
operand ends them too. -/
def readOptions (k : Known) (ordered : Bool) (o : Options) : Nat → List Text → Except Text Options
  | 0, _ => .ok o
  | _ + 1, [] => .ok o
  | fuel + 1, argument :: more =>
    match argument with
    | ['-', '-'] => .ok { o with operands := o.operands ++ more }
    | '-' :: '-' :: long => do
      let name := long.takeWhile (· ≠ '=')
      let c ← (longLetter? k name).mapError fun message =>
        if long.length ≠ name.length ∧ "unrecognized".toList.isPrefixOf message then
          "unrecognized option '--".toList ++ long ++ ['\''] else message
      let full := longName k name c
      if k.valued.toList.contains c then
        match long.drop name.length, more with
        | '=' :: value, more => readOptions k ordered (o.add c value) fuel more
        | _, value :: more => readOptions k ordered (o.add c value) fuel more
        | _, [] => .error ("option '--".toList ++ full ++ "' requires an argument".toList)
      else if k.loose.toList.contains c then
        readOptions k ordered (o.add c ((long.drop name.length).drop 1)) fuel more
      else if long.length ≠ name.length then
        .error ("option '--".toList ++ full ++ "' doesn't allow an argument".toList)
      else readOptions k ordered (o.add c []) fuel more
    | '-' :: c :: rest => do
      let (o, more) ← letters k o more (c :: rest)
      readOptions k ordered o fuel more
    | operand =>
      if ordered then .ok { o with operands := o.operands ++ operand :: more }
      else readOptions k ordered { o with operands := o.operands ++ [operand] } fuel more

/-- Runs a tool with its options, or says what is wrong with them. -/
def withOptions (k : Known) (status : Nat) (run : Options → Service) : Service := fun c p =>
  match readOptions k false {} (c.arguments.length + 1) c.arguments with
  | .ok o => run o c p
  | .error message => c.refuse message status p

/-- Runs a tool whose options stand before its operands. -/
def withLeadingOptions (k : Known) (status : Nat) (run : Options → Service) : Service := fun c p =>
  match readOptions k true {} (c.arguments.length + 1) c.arguments with
  | .ok o => run o c p
  | .error message => c.refuse message status p

/-! ### Input -/

/-- Reads what an operand names; a dash is the standard input. -/
def take (p : Process) (operand : Text) : Except Fault (Process × Text) :=
  if operand = ['-'] then
    match (p.stream? 0).map p.world.stream with
    | some .directory => .error .isDirectory
    | _ => .ok (p.readAll 0)
  else p.read operand

/-- The operands, or the standard input where there are none. -/
def inputs (operands : List Text) : List Text := if operands = [] then [['-']] else operands

/-- The parts of a text up to each occurrence of a character, which is a part of them. -/
def piecesOf (mark : Char) : Text → List Text
  | [] => []
  | c :: rest =>
    if c = mark then [c] :: piecesOf mark rest
    else match piecesOf mark rest with
      | [] => [[c]]
      | piece :: more => (c :: piece) :: more

/-- The lines of a text, each with the line feed that ends it. -/
def lines (t : Text) : List Text := piecesOf '\n' t

/-- A piece without the mark that ends it. -/
def unmarked (mark : Char) (piece : Text) : Text := Text.dropLastIf mark piece

/-- The lines of a text without the line feeds. -/
def plainLines (t : Text) : List Text := (lines t).map (unmarked '\n')

/-- Lines with a line feed behind each. -/
def joined (ls : List Text) : Text := ls.flatMap (· ++ ['\n'])

/-- Takes in all inputs; what cannot be read is told and left out. -/
def takeAll (c : Call) (message : Text → Fault → Text) (p : Process) :
    List Text → Process × Text × Bool
  | [] => (p, [], true)
  | operand :: more =>
    match take p operand with
    | .ok (p, t) =>
      let (p, rest, fine) := takeAll c message p more
      (p, t ++ rest, fine)
    | .error fault =>
      let (p, rest, _) := takeAll c message (c.complain (message operand fault) p) more
      (p, rest, false)

/-- What is said of an input that cannot be read. -/
def unreadable (operand : Text) (fault : Fault) : Text := named operand ++ told fault

/-- Writes what becomes of each input in turn; what cannot be read is told. -/
def forInputs (c : Call) (message : Text → Fault → Text) (p : Process) (operands : List Text) (change : Text → Text) :
    Exit × Process :=
  let (p, fine) := operands.foldl (fun (p, fine) operand =>
    match take p operand with
    | .ok (p, t) => (p.write 1 (change t), fine)
    | .error fault => (c.complain (message operand fault) p, false)) (p, true)
  ends (statusOf fine) p

/-- Deals with each operand; the status tells whether all was done. -/
def forEach (c : Call) (p : Process) (operands : List Text) (step : Process → Text → Except Text Process) :
    Exit × Process :=
  let (p, fine) := operands.foldl (fun (p, fine) operand =>
    match step p operand with
    | .ok p => (p, fine)
    | .error message => (c.complain message p, false)) (p, true)
  ends (statusOf fine) p

/-! ### Numbers -/

/-- The whole number that a text is. -/
def natural? (t : Text) : Option Nat :=
  if t ≠ [] ∧ t.all Char.isDigit then some (Text.natOfDigits 10 t) else none

/-- The whole number with a sign that a text is. -/
def integer? (t : Text) : Option Int :=
  match t with
  | '-' :: rest => (natural? rest).map fun n => -n
  | '+' :: rest => (natural? rest).map fun n => n
  | t => (natural? t).map fun n => n

/-- The digits of a number with a sign. -/
def signedDigits (n : Int) : Text := (if n < 0 then ['-'] else []) ++ Text.decimal n.natAbs

/-- A text to the right in a width. -/
def right (width : Nat) (t : Text) : Text := List.replicate (width - t.length) ' ' ++ t

def left (width : Nat) (t : Text) : Text := t ++ List.replicate (width - t.length) ' '

end Flowchart.Tool
