import Flowchart.Regex.Reader
import Flowchart.Tool.Lines

/-!
Tools that lay lines out anew: they break long lines, number lines, and put lines side by side.
-/

namespace Flowchart.Tool

open Files

/-! ### Broken lines -/

/-- The column behind a character that stands in a column. -/
def columnBehind (byOctets : Bool) (column : Nat) (c : Char) : Nat :=
  if byOctets then column + 1
  else if c = '\x08' then column - 1
  else if c = '\r' then 0
  else if c = '\t' then column + 8 - column % 8
  else column + 1

/-- The column behind a text that starts a line. -/
def columnOf (byOctets : Bool) (t : Text) : Nat := t.foldl (columnBehind byOctets) 0

/-- Breaks a line so that no part takes more columns than there are, where `part` is what stands in the last
part so far, the last character first. With `atBlanks` a part ends behind its last blank, if it has any. -/
def brokenLine (width : Nat) (byOctets atBlanks : Bool) (part : Text) (column : Nat) : Text → List Text
  | [] => [part.reverse]
  | c :: rest =>
    let next := columnBehind byOctets column c
    if next ≤ width then brokenLine width byOctets atBlanks (c :: part) next rest
    else
      -- what goes on in the next part, the last character first
      let moved := part.takeWhile fun d => d ≠ ' ' && d ≠ '\t'
      if atBlanks ∧ moved.length < part.length then
        let column := columnOf byOctets moved.reverse
        let next := columnBehind byOctets column c
        if next ≤ width ∨ moved = [] then
          (part.drop moved.length).reverse :: brokenLine width byOctets atBlanks (c :: moved) next rest
        else
          (part.drop moved.length).reverse :: moved.reverse
            :: brokenLine width byOctets atBlanks [c] (columnBehind byOctets 0 c) rest
      else if part = [] then brokenLine width byOctets atBlanks [c] next rest
      else part.reverse :: brokenLine width byOctets atBlanks [c] (columnBehind byOctets 0 c) rest

/-- Breaks the lines of its inputs. -/
def foldLines : Service :=
  withOptions
    { letters := "bs", valued := "w", loose := "0123456789"
      long := [("bytes", 'b'), ("spaces", 's'), ("width", 'w')] } 1 fun o c p =>
    let width := (o.given.reverse.find? fun g => g.1 = 'w' || g.1.isDigit).map fun g =>
      if g.1 = 'w' then g.2 else g.1 :: g.2
    match width.map fun t => (t, natural? t) with
    | some (t, none) => c.fail ("invalid number of columns: ".toList ++ quoted t) 1 p
    | some (t, some 0) =>
      c.fail ("invalid number of columns: ".toList ++ quoted t ++ ": Numerical result out of range".toList) 1 p
    | width =>
      let width := (width.bind Prod.snd).getD 80
      forInputs c unreadable p (inputs o.operands) fun t =>
        (lines t).flatMap fun line =>
          let bare := unmarked '\n' line
          ['\n'].intercalate (brokenLine width (o.has 'b') (o.has 's') [] 0 bare) ++ line.drop bare.length

/-! ### Numbered lines -/

/-- Which lines of a section are numbered. -/
inductive NumberedLines where
  | all
  | filled
  | none
  | matching (r : Regex)

/-- Reads which lines are numbered. -/
def NumberedLines.read? : Text → Option (Except Regex.Fault NumberedLines)
  | ['a'] => some (.ok .all)
  | ['t'] => some (.ok .filled)
  | ['n'] => some (.ok .none)
  | 'p' :: expression => some ((Regex.read { extended := false, lenient := true } expression).map fun r => .matching r.1)
  | _ => Option.none

inductive PagePart where
  | header
  | body
  | footer
deriving DecidableEq

structure Numbering where
  style : PagePart → NumberedLines
  start : Int
  step : Int
  goesOn : Bool
  together : Nat
  separator : Text
  shown : Int → Text
  /-- What stands before a line without a number. -/
  blank : Text
  /-- The mark that starts a part of a page, again and again. -/
  mark : Text

/-- The part that a line starts, if it is made of marks alone. -/
def Numbering.partOf? (y : Numbering) (line : Text) : Option PagePart :=
  if y.mark = [] then none
  else if line = y.mark ++ y.mark ++ y.mark then some .header
  else if line = y.mark ++ y.mark then some .body
  else if line = y.mark then some .footer
  else none

/-- Numbers lines, where `empties` empty lines have been passed over. -/
def Numbering.apply (y : Numbering) (part : PagePart) (n : Int) (empties : Nat) :
    List Text → Text × PagePart × Int × Nat
  | [] => ([], part, n, empties)
  | line :: more =>
    match y.partOf? line with
    | some part =>
      let (t, rest) := y.apply part (if y.goesOn then n else y.start) empties more
      ('\n' :: t, rest)
    | none =>
      let empty := line = []
      let (counts, empties) := match y.style part with
        | .all => if !empty || y.together ≤ empties + 1 then (true, 0) else (false, empties + 1)
        | .filled => (!empty, empties)
        | .none => (false, empties)
        | .matching r => (r.matchesIn line, empties)
      let (t, rest) := y.apply part (if counts then n + y.step else n) empties more
      ((if counts then y.shown n ++ y.separator else y.blank) ++ line ++ '\n' :: t, rest)

/-- Numbers the lines of its inputs. -/
def numberLines : Service :=
  withOptions
    { letters := "p", valued := "bdfhilnsvw"
      long := [("body-numbering", 'b'), ("section-delimiter", 'd'), ("footer-numbering", 'f'), ("header-numbering", 'h'),
        ("line-increment", 'i'), ("join-blank-lines", 'l'), ("number-format", 'n'), ("no-renumber", 'p'),
        ("number-separator", 's'), ("starting-line-number", 'v'), ("number-width", 'w')] } 1 fun o c p =>
    let wrongStyle := "hbf".toList.find? fun letter =>
      (o.value? letter).isSome && ((o.value? letter).bind NumberedLines.read?).isNone
    let wrongExpression := "hbf".toList.findSome? fun letter =>
      match (o.value? letter).bind NumberedLines.read? with
      | some (.error fault) => some fault
      | _ => none
    let what : Char → String
      | 'v' => "starting line number"
      | 'i' => "line number increment"
      | 'l' => "line number of blank lines"
      | 'w' => "line number field width"
      | 'h' => "header numbering style"
      | 'b' => "body numbering style"
      | _ => "footer numbering style"
    let told (letter : Char) : Text :=
      "invalid ".toList ++ (what letter).toList ++ ": ".toList ++ quoted ((o.value? letter).getD [])
    let wrongNumber := "vilw".toList.find? fun letter => ((o.value? letter).map fun t => (integer? t).isNone) = some true
    let tooSmall := "lw".toList.find? fun letter => ((o.value? letter).bind integer?).any (· < 1)
    let formats := ["ln", "rn", "rz"].map String.toList
    match wrongStyle, wrongNumber, tooSmall, wrongExpression with
    | some letter, _, _, _ => c.refuse (told letter) 1 p
    | none, some letter, _, _ => c.fail (told letter) 1 p
    | none, none, some letter, _ => c.fail (told letter ++ ": Numerical result out of range".toList) 1 p
    | none, none, none, some fault => c.fail fault.message 1 p
    | none, none, none, none =>
      match (o.value? 'n').filter (!formats.contains ·) with
      | some wrong => c.refuse ("invalid line numbering format: ".toList ++ quoted wrong) 1 p
      | none =>
        let style (letter : Char) (usual : NumberedLines) : NumberedLines :=
          match (o.value? letter).bind NumberedLines.read? with
          | some (.ok style) => style
          | _ => usual
        let number (letter : Char) (usual : Int) : Int := ((o.value? letter).bind integer?).getD usual
        let width := (number 'w' 6).toNat
        let separator := (o.value? 's').getD ['\t']
        let shown (n : Int) : Text :=
          let t := signedDigits n
          match o.value? 'n' with
          | some ['l', 'n'] => left width t
          | some ['r', 'z'] =>
            let digits := Text.decimal n.natAbs
            (if n < 0 then ['-'] else []) ++ List.replicate (width - t.length) '0' ++ digits
          | _ => right width t
        let y : Numbering :=
          { style := fun part => match part with
              | .header => style 'h' .none
              | .body => style 'b' .filled
              | .footer => style 'f' .none
            start := number 'v' 1
            step := number 'i' 1
            goesOn := o.has 'p'
            together := (number 'l' 1).toNat
            separator
            shown
            blank := List.replicate (width + separator.length) ' '
            mark := match o.value? 'd' with
              | some [m] => [m, ':']
              | some mark => mark
              | none => ['\\', ':'] }
        let (p, _, _, _, fine) := (inputs o.operands).foldl (fun (p, part, n, empties, fine) operand =>
          match take p operand with
          | .ok (p, t) =>
            let (t, part, n, empties) := y.apply part n empties (plainLines t)
            (p.write 1 t, part, n, empties, fine)
          | .error fault => (c.complain (unreadable operand fault) p, part, n, empties, false))
          (p, PagePart.body, y.start, 0, true)
        ends (statusOf fine) p

/-! ### Lines side by side -/

/-- The marks between lines: characters, or nothing. -/
def marksOf : Text → Option (List Text)
  | [] => some []
  | ['\\'] => none
  | '\\' :: c :: rest =>
    let mark := match c with
      | '0' => []
      | 'b' => ['\x08']
      | 'f' => ['\x0c']
      | 'n' => ['\n']
      | 'r' => ['\r']
      | 't' => ['\t']
      | 'v' => ['\x0b']
      | c => [c]
    (marksOf rest).map (mark :: ·)
  | c :: rest => (marksOf rest).map ([c] :: ·)

/-- Lines with marks between them, taken in turn. -/
def withMarks (marks : List Text) (ls : List Text) : Text :=
  (ls.zipIdx.map fun (line, k) =>
    if k = 0 then line else marks.getD ((k - 1) % marks.length) [] ++ line).flatten

/-- What the lines of a row are taken from: a file of its own, or the standard input. -/
inductive LineSource where
  | own (lines : List Text)
  | shared

/-- Takes a line of each source in turn. -/
def takeRow (shared : List Text) : List LineSource → List (Option Text) × List LineSource × List Text
  | [] => ([], [], shared)
  | .own [] :: more =>
    let (row, sources, shared) := takeRow shared more
    (none :: row, .own [] :: sources, shared)
  | .own (line :: ls) :: more =>
    let (row, sources, shared) := takeRow shared more
    (some line :: row, .own ls :: sources, shared)
  | .shared :: more =>
    let (row, sources, shared') := takeRow shared.tail more
    (shared.head? :: row, .shared :: sources, shared')

/-- The rows of lines that stand side by side. -/
def sideBySide (marks : List Text) (mark : Char) : Nat → List Text → List LineSource → Text
  | 0, _, _ => []
  | fuel + 1, shared, sources =>
    let (row, sources, shared) := takeRow shared sources
    if row.all Option.isNone then []
    else withMarks marks (row.map fun line => line.getD []) ++ mark :: sideBySide marks mark fuel shared sources

/-- Puts the lines of its inputs side by side, or all lines of each in one. -/
def paste : Service :=
  withOptions
    { letters := "sz", valued := "d", long := [("delimiters", 'd'), ("serial", 's'), ("zero-terminated", 'z')] } 1 fun o c p =>
    let mark := if o.has 'z' then '\x00' else '\n'
    let given := (o.value? 'd').getD ['\t']
    match marksOf given with
    | none => c.fail ("delimiter list ends with an unescaped backslash: ".toList ++ given) 1 p
    | some marks =>
      let marks := if marks = [] then [[]] else marks
      let operands := inputs o.operands
      let split (t : Text) : List Text := (piecesOf mark t).map (unmarked mark)
      if o.has 's' then
        let (p, fine) := operands.foldl (fun (p, fine) operand =>
          match take p operand with
          | .ok (p, t) => (p.write 1 (withMarks marks (split t) ++ [mark]), fine)
          | .error .isDirectory => (c.complain (unreadable operand .isDirectory) (p.write 1 [mark]), false)
          | .error fault => (c.complain (unreadable operand fault) p, false)) (p, true)
        ends (statusOf fine) p
      else
        let missing := operands.findSome? fun operand =>
          if operand = ['-'] then none
          else match p.openToRead operand with
            | .ok _ => none
            | .error fault => some (operand, fault)
        match missing with
        | some (operand, fault) => c.fail (unreadable operand fault) 1 p
        | none =>
          let (p, shared) := if operands.contains ['-'] then p.readAll 0 else (p, [])
          let (p, sources, fine) := operands.foldl (fun (p, sources, fine) operand =>
            if operand = ['-'] then (p, sources ++ [LineSource.shared], fine)
            else match take p operand with
              | .ok (p, t) => (p, sources ++ [.own (split t)], fine)
              | .error fault => (c.complain (unreadable operand fault) p, sources ++ [.own []], false)) (p, [], true)
          let longest := sources.foldl (fun n s => match s with
            | .own ls => max n ls.length
            | .shared => max n (split shared).length) 0
          ends (statusOf fine) (p.write 1 (sideBySide marks mark (longest + 1) (split shared) sources))

end Flowchart.Tool
