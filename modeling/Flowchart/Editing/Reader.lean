import Flowchart.Editing.Script
import Flowchart.Shell.Format

/-!
Reading scripts that edit. What is wrong is told with the number of characters that have been read.
-/

namespace Flowchart.Editing

/-- Why a script cannot be read: what is wrong, and how many characters are left; what is found out only at the
end of the script is told without them. -/
structure Fault where
  reason : Text
  left : Option Nat
deriving Repr

/-- Refuses a script at what is left of it. -/
def refuse {α : Type} (left : Text) (reason : String) : Except Fault α := .error ⟨reason.toList, some left.length⟩

def skipBlanks (t : Text) : Text := t.dropWhile fun c => c = ' ' || c = '\t'

/-- Reads what stands before a delimiter. In an expression a backslash before the letter `n` is a line feed, and
what stands between brackets is passed over. -/
def delimited (isRegex : Bool) (d : Char) : Nat → Bool → Text → Option (Text × Text)
  | 0, _, _ => none
  | _ + 1, _, [] => none
  | fuel + 1, inBrackets, c :: rest =>
    let add (kept : Text) (inBrackets : Bool) (rest : Text) : Option (Text × Text) :=
      (delimited isRegex d fuel inBrackets rest).map fun (t, rest) => (kept ++ t, rest)
    match c, rest with
    | '\\', e :: more =>
      if e = 'n' ∧ isRegex then add ['\n'] inBrackets more
      else if inBrackets then add ['\\'] inBrackets rest
      else if e = '\n' then add ['\n'] inBrackets more
      else if e = d then add (if !isRegex ∧ e = '&' then ['\\', e] else [e]) inBrackets more
      else add ['\\', e] inBrackets more
    | '\n', _ => none
    | '[', rest =>
      if isRegex ∧ !inBrackets ∧ d ≠ '[' then
        -- a bracket that closes right behind the start stands for itself
        let start := if "^]".toList.isPrefixOf rest then rest.take 2
          else if rest.head? = some ']' ∨ rest.head? = some '^' then rest.take 1 else []
        add ('[' :: start) true (rest.drop start.length)
      else if inBrackets ∧ (rest.head? = some ':' ∨ rest.head? = some '.' ∨ rest.head? = some '=') then
        let sign := (rest.head?).getD ':'
        let name := rest.tail.takeWhile (· ≠ sign)
        match rest.tail.drop name.length with
        | _ :: ']' :: more => add ('[' :: sign :: name ++ [sign, ']']) true more
        | _ => add ['['] inBrackets rest
      else if c = d then some ([], rest)
      else add ['['] inBrackets rest
    | c, rest =>
      if inBrackets then add [c] (c ≠ ']') rest
      else if c = d then some ([], rest)
      else add [c] false rest

/-- Reads what stands before a delimiter. -/
def upTo (isRegex : Bool) (d : Char) (t : Text) : Option (Text × Text) := delimited isRegex d (t.length + 1) false t

structure Manner where
  extended : Bool
deriving Repr

/-- Reads an expression; an empty one stands for the one that was used last. -/
def regexOf (m : Manner) (ignoreCase : Bool) (left t : Text) : Except Fault (Option (Regex × Nat)) :=
  if t = [] then .ok none
  else match Regex.read { extended := m.extended, ignoreCase, strict := true, controls := true } t with
    | .ok found => .ok (some found)
    | .error fault => .error ⟨fault.message, some left.length⟩

/-- Reads the letters behind an expression that selects lines. -/
def addressFlags (ignoreCase manyLines : Bool) : Text → Bool × Bool × Text
  | 'I' :: rest => addressFlags true manyLines rest
  | 'M' :: rest => addressFlags ignoreCase true rest
  | rest => (ignoreCase, manyLines, rest)

/-- A number at the start of a text. -/
def numberOf (t : Text) : Nat × Text :=
  let digits := t.takeWhile Char.isDigit
  (Text.natOfDigits 10 digits, t.drop digits.length)

/-- Reads an address, if there is one. -/
def address? (m : Manner) (t : Text) : Except Fault (Option Address × Text) :=
  let regex (d : Char) (rest : Text) : Except Fault (Option Address × Text) :=
    match upTo true d rest with
    | none => refuse [] "unterminated address regex"
    | some (r, rest) => do
      let (ignoreCase, manyLines, rest) := addressFlags false false rest
      let r ← regexOf m ignoreCase rest r
      return (some (.matching (r.map Prod.fst) manyLines), rest)
  match t with
  | '/' :: rest => regex '/' rest
  | '\\' :: d :: rest => regex d rest
  | '$' :: rest => .ok (some .last, rest)
  | c :: rest =>
    if c.isDigit then
      let (n, rest) := numberOf (c :: rest)
      match skipBlanks rest with
      | '~' :: more =>
        let (step, rest) := numberOf (skipBlanks more)
        .ok (some (if step = 0 then .line n else .every n step), rest)
      | _ => .ok (some (if n = 0 then .before else .line n), rest)
    else .ok (none, c :: rest)
  | [] => .ok (none, [])

def stop? (m : Manner) (t : Text) : Except Fault (Option Stop × Text) := do
  match t with
  | '+' :: rest =>
    if (rest.head?.map Char.isDigit).getD false then
      let (n, rest) := numberOf rest
      return (some (.behind n), rest)
    else return (none, t)
  | '~' :: rest =>
    if (rest.head?.map Char.isDigit).getD false then
      let (n, rest) := numberOf rest
      return (some (.multiple n), rest)
    else return (none, t)
  | t =>
    let (a, rest) ← address? m t
    return (a.map .at, rest)

def endOf (t : Text) : Except Fault Text :=
  match skipBlanks t with
  | [] => .ok []
  | '\n' :: rest | ';' :: rest => .ok rest
  | '}' :: rest => .ok ('}' :: rest)
  | '#' :: rest => .ok ('#' :: rest)
  | _ :: rest => refuse rest "extra characters after command"

/-- Reads the name of a file: the rest of the line. -/
def fileName (t : Text) : Except Fault (Text × Text) :=
  let t := skipBlanks t
  let name := t.takeWhile (· ≠ '\n')
  if name = [] then refuse t "missing filename in r/R/w/W commands"
  else .ok (name, t.drop (name.length + 1))

def labelOf (t : Text) : Text × Text :=
  let t := skipBlanks t
  let name := t.takeWhile fun c => !Text.isSpace c && c ≠ ';'
  (name, t.drop name.length)

/-- A text up to a line feed that no backslash stands before; a backslash before anything else is dropped. -/
def textLine : Nat → Text → Text × Text
  | 0, t => ([], t)
  | _ + 1, [] => ([], [])
  | _ + 1, ['\\'] => ([], [])
  | fuel + 1, '\\' :: c :: rest =>
    let (t, rest) := textLine fuel rest
    (((Regex.control? c).filter fun _ => c ≠ 'n').getD c :: t, rest)
  | fuel + 1, c :: rest =>
    if c = '\n' then ([], rest)
    else
      let (t, rest) := textLine fuel rest
      (c :: t, rest)

/-- Reads the text of a command that adds one. -/
def addedText (t : Text) : Except Fault (Text × Text) :=
  match skipBlanks t with
  | [] => refuse [] "expected \\ after \x60a', \x60c' or \x60i'"
  | '\\' :: rest =>
    let rest := skipBlanks rest
    let rest := if rest.head? = some '\n' then rest.tail else rest
    let start := t.takeWhile fun c => c = ' ' || c = '\t'
    -- blanks behind the backslash are kept if the text stands on the same line
    let body := ((skipBlanks t).drop 1)
    let rest := if (skipBlanks body).head? = some '\n' then rest else body
    let (text, rest) := textLine (rest.length + start.length + 1) rest
    .ok (text ++ ['\n'], rest)
  | rest =>
    let (text, rest) := textLine (rest.length + 1) rest
    .ok (text ++ ['\n'], rest)

/-! ### Substitutions -/

/-- Reads what is put in the place of a match. -/
def partsOf : Nat → Text → List Part
  | 0, _ => []
  | _ + 1, [] => []
  | fuel + 1, '&' :: rest => .group 0 :: partsOf fuel rest
  | fuel + 1, '\\' :: c :: rest =>
    match c with
    | 'U' => .upper :: partsOf fuel rest
    | 'L' => .lower :: partsOf fuel rest
    | 'u' => .upperNext :: partsOf fuel rest
    | 'l' => .lowerNext :: partsOf fuel rest
    | 'E' => .asIs :: partsOf fuel rest
    | c =>
      match Regex.numbered? c rest with
      | some (d, rest) => .text [d] :: partsOf fuel rest
      | none =>
        if c.isDigit then .group (Text.digitValue c) :: partsOf fuel rest
        else .text [(Regex.control? c).getD c] :: partsOf fuel rest
  | fuel + 1, c :: rest => .text [c] :: partsOf fuel rest

/-- Reads the letters behind a substitution. -/
def substitutionFlags (s : Substitution) (ignoreCase hasNumber : Bool) :
    Nat → Text → Except Fault (Substitution × Bool × Text)
  | 0, t => .ok (s, ignoreCase, t)
  | fuel + 1, t =>
    match t with
    | 'g' :: rest =>
      if s.all then refuse rest "multiple \x60g' options to \x60s' command"
      else substitutionFlags { s with all := true } ignoreCase hasNumber fuel rest
    | 'p' :: rest =>
      if s.prints then refuse rest "multiple \x60p' options to \x60s' command"
      else substitutionFlags { s with prints := true } ignoreCase hasNumber fuel rest
    | 'i' :: rest | 'I' :: rest => substitutionFlags s true hasNumber fuel rest
    | 'm' :: rest | 'M' :: rest => substitutionFlags { s with manyLines := true } ignoreCase hasNumber fuel rest
    | 'w' :: rest => do
      let (path, rest) ← fileName rest
      return ({ s with file := some path }, ignoreCase, rest)
    | c :: rest =>
      if c.isDigit then
        let (n, rest) := numberOf (c :: rest)
        if hasNumber then refuse rest "multiple number options to \x60s' command"
        else if n = 0 then refuse rest "number option to \x60s' command may not be zero"
        else substitutionFlags { s with first := n } ignoreCase true fuel rest
      else if c = ' ' ∨ c = '\t' ∨ c = '\r' then substitutionFlags s ignoreCase hasNumber fuel rest
      else if c = '\n' ∨ c = ';' then .ok (s, ignoreCase, rest)
      else if c = '}' ∨ c = '#' then .ok (s, ignoreCase, c :: rest)
      else refuse rest "unknown option to \x60s'"
    | [] => .ok (s, ignoreCase, [])

/-- Reads a substitution behind its letter. -/
def substitution (m : Manner) (t : Text) : Except Fault (Action × Text) :=
  match t with
  | [] => refuse [] "unterminated \x60s' command"
  | d :: rest =>
    match (upTo true d rest).bind fun (r, rest) => (upTo false d rest).map fun (new, rest) => (r, new, rest) with
    | none => refuse [] "unterminated \x60s' command"
    | some (r, new, rest) => do
      let parts := partsOf (new.length + 1) new
      let (s, ignoreCase, rest) ← substitutionFlags { regex := none, parts } false false (rest.length + 1) rest
      let found ← regexOf m ignoreCase rest r
      let groups := (found.map Prod.snd).getD 9
      let wrong := parts.findSome? fun
        | .group n => if groups < n then some n else none
        | _ => none
      match wrong with
      | some n =>
        .error ⟨"invalid reference \\".toList ++ Text.decimal n ++ " on \x60s' command's RHS".toList, some rest.length⟩
      | none => return (.substitute { s with regex := found.map Prod.fst }, rest)

/-- The characters of a list of them, where a backslash stands before what has another meaning. -/
def listed : Text → Text
  | '\\' :: c :: rest => (if c = '\\' then ['\\'] else match Regex.control? c with
    | some d => [d]
    | none => ['\\', c]) ++ listed rest
  | c :: rest => c :: listed rest
  | [] => []

/-- Reads a translation behind its letter. -/
def translation (t : Text) : Except Fault (Action × Text) :=
  match t with
  | [] => refuse [] "unterminated \x60y' command"
  | d :: rest =>
    match (upTo false d rest).bind fun (a, rest) => (upTo false d rest).map fun (b, rest) => (a, b, rest) with
    | none => refuse [] "unterminated \x60y' command"
    | some (a, b, rest) => do
      let (a, b) := (listed a, listed b)
      if a.length ≠ b.length then refuse rest "strings for \x60y' command are different lengths"
      else return (.translate (a.zip b), ← endOf rest)

/-! ### Commands -/

/-- Reads a command that has nothing behind its letter. -/
def plain (a : Action) (rest : Text) : Except Fault (Action × Text) := do return (a, ← endOf rest)

def actionOf (m : Manner) (t : Text) : Except Fault (Action × Text) :=
  match t with
  | [] => refuse [] "missing command"
  | c :: rest =>
    let optionalNumber (rest : Text) : Option Nat × Text :=
      let rest := skipBlanks rest
      if (rest.head?.map Char.isDigit).getD false then ((numberOf rest).1, (numberOf rest).2) else (none, rest)
    match c with
    | '{' => .ok (.block 0, rest)
    | '}' => plain .stop rest
    | '=' => plain .number rest
    | 'a' => do let (t, rest) ← addedText rest; return (.append t, rest)
    | 'i' => do let (t, rest) ← addedText rest; return (.insert t, rest)
    | 'c' => do let (t, rest) ← addedText rest; return (.change t, rest)
    | ':' =>
      let (name, rest) := labelOf rest
      if name = [] then refuse rest "\":\" lacks a label"
      else .ok (.label name, if rest.head? = some ';' ∨ rest.head? = some '\n' then rest.tail else rest)
    | 'b' => let (name, rest) := jumpLabel rest; plain (.jump name) rest
    | 't' => let (name, rest) := jumpLabel rest; plain (.jumpIf name true) rest
    | 'T' => let (name, rest) := jumpLabel rest; plain (.jumpIf name false) rest
    | 'd' => plain .delete rest
    | 'D' => plain .deleteFirst rest
    | 'F' => plain .name rest
    | 'h' => plain .hold rest
    | 'H' => plain .holdAppend rest
    | 'g' => plain .fetch rest
    | 'G' => plain .fetchAppend rest
    | 'x' => plain .exchange rest
    | 'l' => let (n, rest) := optionalNumber rest; plain (.list n) rest
    | 'n' => plain .next rest
    | 'N' => plain .nextAppend rest
    | 'p' => plain .print rest
    | 'P' => plain .printFirst rest
    | 'q' => let (n, rest) := optionalNumber rest; plain (.quit (n.getD 0) false) rest
    | 'Q' => let (n, rest) := optionalNumber rest; plain (.quit (n.getD 0) true) rest
    | 'r' => do let (path, rest) ← fileName rest; return (.read path, rest)
    | 'R' => do let (path, rest) ← fileName rest; return (.readLine path, rest)
    | 'w' => do let (path, rest) ← fileName rest; return (.write path, rest)
    | 'W' => do let (path, rest) ← fileName rest; return (.writeFirst path, rest)
    | 's' => substitution m rest
    | 'y' => translation rest
    | 'z' => plain .empty rest
    | c => .error ⟨"unknown command: \x60".toList ++ [c, '\''], some rest.length⟩
where
  /-- Reads the label of a jump, which a brace ends too. -/
  jumpLabel (t : Text) : Text × Text :=
    let t := skipBlanks t
    let name := t.takeWhile fun c => !Text.isSpace c && c ≠ ';' && c ≠ '}'
    (name, t.drop name.length)

/-- Reads the commands of a script behind those that have been read. The places of the blocks that are open come
with how much was left behind them. -/
def commands (m : Manner) (done : Script) (openBlocks : List Nat) : Nat → Text → Except Fault Script
  | 0, _ => .ok done
  | fuel + 1, t => do
    let t := t.dropWhile fun c => Text.isSpace c || c = ';'
    match t with
    | [] => if openBlocks.isEmpty then return done else .error ⟨"unmatched \x60\x7b'".toList, none⟩
    | '#' :: rest => commands m done openBlocks fuel (rest.dropWhile (· ≠ '\n'))
    | t =>
      let (start, rest) ← address? m t
      let rest := if start.isSome then skipBlanks rest else rest
      let (stop, rest) ← match start, rest with
        | some _, ',' :: more => do
          let (stop, rest) ← stop? m (skipBlanks more)
          match stop with
          | none => refuse rest.tail "unexpected \x60,'"
          | some stop => pure (some stop, skipBlanks rest)
        | _, rest => pure (none, rest)
      let wrongZero := match start, stop with
        | some .before, some (.at (.matching ..)) => false
        | some .before, _ => true
        | _, some (.at .before) => false
        | _, _ => false
      if wrongZero then refuse rest.tail "invalid usage of line address 0"
      else
        let (turned, rest) := match rest with
          | '!' :: more => (true, skipBlanks more)
          | rest => (false, rest)
        if turned ∧ rest.head? = some '!' then refuse rest.tail "multiple \x60!'s"
        else
          let behind := rest.tail
          match rest, start with
          | '}' :: _, some _ => refuse behind "\x7d doesn't want any addresses"
          | ':' :: _, some _ => refuse behind ": doesn't want any addresses"
          | '#' :: _, some _ => refuse behind "comments don't accept any addresses"
          | _, _ =>
            if stop.isSome ∧ (rest.head? = some 'q' ∨ rest.head? = some 'Q') then
              refuse behind "command only uses one address"
            else if rest.head? = some '}' ∧ openBlocks.isEmpty then refuse behind "unexpected \x60\x7d'"
            else
              let (action, rest) ← actionOf m rest
              let place := done.size
              let command : Command := ⟨start, stop, turned, action⟩
              match action, openBlocks with
              | .block _, opened => commands m (done.push command) (place :: opened) fuel rest
              | .stop, first :: opened =>
                let done := done.modify first fun c => { c with action := .block (place + 1) }
                commands m (done.push command) opened fuel rest
              | _, opened => commands m (done.push command) opened fuel rest

def Script.read (m : Manner) (t : Text) : Except Fault Script := do
  let s ← commands m #[] [] (t.length + 1) t
  let jumps := s.toList.filterMap fun c =>
    match c.action with
    | .jump name | .jumpIf name _ => some name
    | _ => none
  match jumps.find? fun name => (s.place? name).isNone with
  | some name => .error ⟨"can't find label for jump to \x60".toList ++ name ++ ['\''], none⟩
  | none => return s

end Flowchart.Editing
