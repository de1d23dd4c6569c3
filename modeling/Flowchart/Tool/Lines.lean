import Flowchart.Tool.Basic
import Flowchart.Text.Class

/-!
Tools that read files, or the standard input, and write what is in them: all of it, its first or its last
part, its lines in turn, or how much it is. Some write what they read to files.
-/

namespace Flowchart.Tool

open Files

/-- What is said of an input that cannot be opened or read. -/
def unopened (operand : Text) (fault : Fault) : Text :=
  if fault = .isDirectory then "error reading ".toList ++ quoted operand ++ told fault
  else "cannot open ".toList ++ quoted operand ++ " for reading".toList ++ told fault

/-! ### Whole inputs -/

/-- The marks for an octet that is not shown as it is. -/
def shownOctet (tabs : Bool) (c : Char) : Text :=
  let low (n : Nat) : Text := if n < 32 then ['^', Char.ofNat (n + 64)] else if n = 127 then ['^', '?'] else [Char.ofNat n]
  if c = '\n' ∨ (c = '\t' ∧ !tabs) then [c]
  else if c.toNat < 128 then low c.toNat
  else 'M' :: '-' :: low (c.toNat - 128)

/-- Numbers lines from a number on; with `filled` only those that are not empty. -/
def numbered (filled : Bool) (n : Nat) : List Text → List Text
  | [] => []
  | line :: more =>
    if filled ∧ line = ['\n'] then line :: numbered filled n more
    else (right 6 (Text.decimal n) ++ '\t' :: line) :: numbered filled (n + 1) more

/-- Drops empty lines behind empty lines. -/
def squeezed : List Text → List Text
  | ['\n'] :: ['\n'] :: more => squeezed (['\n'] :: more)
  | line :: more => line :: squeezed more
  | [] => []

/-- Whether what is read from an operand is a file that is written to at the same time, and that is not yet
read to its end. -/
def feedsItself (p : Process) (operand : Text) : Bool :=
  let target := (p.stream? 1).map p.world.stream
  let source := if operand = ['-'] then (p.stream? 0).map p.world.stream
    else (p.openToRead operand).toOption.map fun (p, n) => p.world.stream n
  match source, target with
  | some (.file m position _), some (.file n out append) =>
    m = n && position < if append then (p.tree.fileNumbered n).content.length else out
  | _, _ => false

/-- Writes its inputs one after the other. -/
def concatenate : Service :=
  withOptions
    { letters := "AbeEnstTuv"
      long := [("show-all", 'A'), ("number-nonblank", 'b'), ("show-ends", 'E'), ("number", 'n'),
        ("squeeze-blank", 's'), ("show-tabs", 'T'), ("show-nonprinting", 'v')] } 1 fun o c p =>
    let (wrong, operands) := (inputs o.operands).partition (feedsItself p)
    let p := wrong.foldl (fun p operand => c.complain (named operand ++ ": input file is output file".toList) p) p
    if o.given.isEmpty ∧ wrong.isEmpty then forInputs c unreadable p operands id
    else
    let (p, t, fine) := takeAll c unreadable p operands
    let ls := lines t
    let ls := if o.has 's' then squeezed ls else ls
    let showAll := o.has 'A' || o.has 'v' || o.has 'e' || o.has 't'
    let tabs := o.has 'A' || o.has 't' || o.has 'T'
    let ls := ls.map fun line => line.flatMap fun c =>
      if showAll then shownOctet tabs c else if tabs && c = '\t' then ['^', 'I'] else [c]
    let ls := if o.has 'A' || o.has 'e' || o.has 'E' then
      ls.map fun line => if line.getLast? = some '\n' then line.dropLast ++ ['$', '\n'] else line else ls
    let ls := if o.has 'b' then numbered true 1 ls else if o.has 'n' then numbered false 1 ls else ls
    ends (statusOf (fine && wrong.isEmpty)) (p.write 1 ls.flatten)

/-- The pieces of a text that end, or with `before` start, with a separator. -/
def separated (before : Bool) (separator : Text) : Nat → Text → Text → List Text
  | 0, _, _ => []
  | _ + 1, piece, [] => if piece = [] then [] else [piece]
  | fuel + 1, piece, c :: rest =>
    if separator.isPrefixOf (c :: rest) then
      let after := (c :: rest).drop separator.length
      if before then
        (if piece = [] then [] else [piece]) ++ separated before separator fuel separator after
      else (piece ++ separator) :: separated before separator fuel [] after
    else separated before separator fuel (piece ++ [c]) rest

/-- Writes the lines of each input, the last one first. -/
def reversed : Service :=
  withOptions { letters := "br", valued := "s", long := [("before", 'b'), ("separator", 's')] } 1 fun o c p =>
    let message (operand : Text) (fault : Fault) :=
      if fault = .isDirectory then named operand ++ ": read error".toList ++ told .invalid
      else "failed to open ".toList ++ quoted operand ++ " for reading".toList ++ told fault
    let separator := match o.value? 's' with
      | some [] => ['\x00']
      | some s => s
      | none => ['\n']
    let (p, fine) := (inputs o.operands).foldl (fun (p, fine) operand =>
      match take p operand with
      | .ok (p, t) =>
        let pieces := if separator = ['\n'] ∧ !o.has 'b' then lines t
          else separated (o.has 'b') separator (t.length + 1) [] t
        (p.write 1 pieces.reverse.flatten, fine)
      | .error fault => (c.complain (message operand fault) p, false)) (p, true)
    ends (statusOf fine) p

/-! ### Parts of inputs -/

/-- How much of an input is meant: so many lines or octets from its near end, or all but so many. -/
structure Part where
  count : Nat
  ofOctets : Bool
  allBut : Bool
  /-- What ends a line. -/
  mark : Char := '\n'

def Part.first (q : Part) (t : Text) : Text :=
  if q.ofOctets then t.take (if q.allBut then t.length - q.count else q.count)
  else
    let ls := piecesOf q.mark t
    (ls.take (if q.allBut then ls.length - q.count else q.count)).flatten

/-- The last part of an input. With `allBut` it starts with the line or octet of that number. -/
def Part.last (q : Part) (t : Text) : Text :=
  if q.ofOctets then t.drop (if q.allBut then q.count - 1 else t.length - q.count)
  else
    let ls := piecesOf q.mark t
    (ls.drop (if q.allBut then q.count - 1 else ls.length - q.count)).flatten

/-- The number that a text with a unit behind its digits is. -/
def amount? (t : Text) : Option Nat :=
  let digits := t.takeWhile Char.isDigit
  if digits = [] then none
  else
    let n := Text.natOfDigits 10 digits
    match String.ofList (t.drop digits.length) with
    | "" => some n
    | "b" => some (n * 512)
    | "k" | "K" | "KiB" => some (n * 1024)
    | "kB" | "KB" => some (n * 1000)
    | "M" | "m" | "MiB" => some (n * Nat.pow 1024 2)
    | "MB" => some (n * Nat.pow 1000 2)
    | "G" | "GiB" => some (n * Nat.pow 1024 3)
    | "GB" => some (n * Nat.pow 1000 3)
    | _ => none

/-- The part that the options ask for: ten lines if they ask for none. The sign that means all but so many
is given. -/
def partOf (sign : Char) (o : Options) : Except Text Part :=
  let mark := if o.has 'z' then '\x00' else '\n'
  match o.given.reverse.find? fun g => g.1 = 'n' || g.1 = 'c' with
  | none => .ok ⟨10, false, false, mark⟩
  | some (letter, value) =>
    let allBut := value.head? = some sign
    let digits := if value.head? = some '-' ∨ value.head? = some '+' then value.tail else value
    match amount? digits with
    | some n => .ok ⟨n, letter = 'c', allBut, mark⟩
    | none =>
      let shown := if value.head? = some '-' ∧ sign = '-' then value.tail else value
      .error ("invalid number of ".toList ++ (if letter = 'c' then "bytes: " else "lines: ").toList ++ cited shown)

/-- Puts an argument such as `-3` into the form of an option with a value. With `signs` an argument such as
`+3` is one too. -/
def countFirst (signs : Bool) : List Text → List Text
  | (sign :: d :: rest) :: more =>
    if d.isDigit ∧ (sign = '-' ∨ (sign = '+' ∧ signs)) then
      let digits := (d :: rest).takeWhile Char.isDigit
      let letters := (d :: rest).drop digits.length
      let letter := if 'c' ∈ letters ∨ 'b' ∈ letters then 'c' else 'n'
      let n := if sign = '+' then '+' :: digits else digits
      if letters.all fun c => "cblqvf".toList.contains c then
        (letters.filterMap fun c => if c = 'q' ∨ c = 'v' then some ['-', c] else none) ++ ['-', letter] :: n :: more
      else (sign :: d :: rest) :: more
    else (sign :: d :: rest) :: more
  | arguments => arguments

/-- How much is read at once from a stream that cannot be read again. -/
def blockSize : Nat := 8192

/-- Takes the first part of the standard input; what is read of a file goes no further than that part. -/
def takeFirst (p : Process) (q : Part) : Process × Text :=
  let isFile := match (p.stream? 0).map p.world.stream with
    | some (.file ..) => true
    | _ => false
  if q.allBut then
    let (p, t) := p.readAll 0
    (p, q.first t)
  else if q.ofOctets then
    let (p, b) := p.readBytes 0 q.count
    (p, Text.ofOctets b)
  else
    let t := Text.ofOctets (p.left 0)
    let part := q.first t
    if (part.count q.mark) < q.count then (p.readAll 0).map id fun t => q.first t
    else
      let size := if isFile then part.length else (part.length + blockSize - 1) / blockSize * blockSize
      ((p.readBytes 0 (min size t.length)).1, part)

/-- Writes a part of each input, with its name above it if there are several. -/
def partOfEach (isFirst : Bool) : Service := fun c p =>
  let sign := if isFirst then '-' else '+'
  withOptions
    { letters := "qvzfF", valued := "ncs"
      long := [("lines", 'n'), ("bytes", 'c'), ("quiet", 'q'), ("silent", 'q'), ("verbose", 'v'),
        ("zero-terminated", 'z')] } 1
    (fun o c p =>
      match partOf sign o with
      | .error message => c.fail message 1 p
      | .ok part =>
        let headed := o.last? "qv" = some 'v' || (1 < o.operands.length && o.last? "qv" ≠ some 'q')
        let takePart (p : Process) (operand : Text) : Except Fault (Process × Text) :=
          if isFirst ∧ operand = ['-'] ∧ (take p operand).toOption.isSome then .ok (takeFirst p part)
          else (take p operand).map fun (p, t) => (p, if isFirst then part.first t else part.last t)
        let (p, _, fine) := (inputs o.operands).foldl (fun (p, alone, fine) operand =>
          let shown := if operand = ['-'] then "standard input".toList else operand
          let heading := if headed then
            (if alone then [] else ['\n']) ++ "==> ".toList ++ shown ++ " <==\n".toList else []
          match takePart p operand with
          | .ok (p, t) => ((p.write 1 heading).write 1 t, false, fine)
          | .error fault =>
            let p := if fault = .isDirectory then p.write 1 heading else p
            (c.complain (unopened shown fault) p, alone && fault ≠ .isDirectory, false)) (p, true, true)
        ends (statusOf fine) p)
    { c with arguments := countFirst (!isFirst) c.arguments } p

/-- Writes the first lines of its inputs. -/
def firstLines : Service := partOfEach true

/-- Writes the last lines of its inputs. -/
def lastLines : Service := partOfEach false

/-! ### Counting -/

def wordCount (inWord : Bool) : Text → Nat
  | [] => 0
  | c :: rest =>
    if Text.isSpace c then wordCount false rest else (if inWord then 0 else 1) + wordCount true rest

/-- The length of the longest line of a text as it is shown, where a line of the given length has been
begun. -/
def longestLine (longest length : Nat) : Text → Nat
  | [] => max longest length
  | c :: rest =>
    if c = '\n' ∨ c = '\r' ∨ c = '\x0c' then longestLine (max longest length) 0 rest
    else if c = '\t' then longestLine longest (length + 8 - length % 8) rest
    else longestLine longest (if isPrintable c then length + 1 else length) rest

/-- What has been found out about an input. -/
structure Counted where
  operand : Text
  isFile : Bool
  content : Except Fault Text

/-- Counts the lines, words and octets of its inputs. Several numbers are as wide as the sum of the sizes,
which is not known for what is no file. -/
def counts : Service :=
  withOptions
    { letters := "lwcmL"
      long := [("lines", 'l'), ("words", 'w'), ("bytes", 'c'), ("chars", 'm'), ("max-line-length", 'L')] } 1 fun o c p =>
    let which := if o.given = [] then ['l', 'w', 'c'] else
      ['l', 'w', 'm', 'c', 'L'].filter fun letter => o.has letter
    let operands := inputs o.operands
    let (p, found) := operands.foldl (fun (p, found) operand =>
      let isFile := match (if operand = ['-'] then (p.stream? 0).map p.world.stream else
          (p.openToRead operand).toOption.map fun (p, n) => p.world.stream n) with
        | some (.file ..) => true
        | some _ => false
        | none => true
      match take p operand with
      | .ok (p, t) => (p, found ++ [Counted.mk operand isFile (.ok t)])
      | .error fault => (p, found ++ [⟨operand, isFile, .error fault⟩])) (p, ([] : List Counted))
    let contents := found.filterMap fun f => f.content.toOption
    let total := contents.foldl (fun sum t => sum + t.length) 0
    let width :=
      if which.length = 1 ∧ operands.length = 1 then 1
      else if found.any fun f => !f.isFile then 7
      else (Text.decimal total).length
    let row (size : Char → Nat) (name : Text) : Text :=
      [' '].intercalate (which.map fun letter => right width (Text.decimal (size letter))) ++ name ++ ['\n']
    let size (t : Text) (letter : Char) : Nat :=
      if letter = 'l' then t.count '\n'
      else if letter = 'w' then wordCount false t
      else if letter = 'L' then longestLine 0 0 t
      else t.length
    let p := found.foldl (fun p f =>
      let name := if o.operands = [] then [] else ' ' :: f.operand
      match f.content with
      | .ok t => p.write 1 (row (size t) name)
      | .error .isDirectory => (c.complain (unreadable f.operand .isDirectory) p).write 1 (row (fun _ => 0) name)
      | .error fault => c.complain (unreadable f.operand fault) p) p
    let sum (letter : Char) : Nat :=
      let sizes := contents.map fun t => size t letter
      if letter = 'L' then sizes.foldl max 0 else sizes.foldl (· + ·) 0
    let p := if 1 < operands.length then p.write 1 (row sum " total".toList) else p
    ends (statusOf (found.all fun f => f.content.toOption.isSome)) p

/-! ### Streams -/

/-- Writes the standard input to the standard output and to files. -/
def copies : Service :=
  withOptions { letters := "aip", long := [("append", 'a'), ("ignore-interrupts", 'i')] } 1 fun o c p =>
    let (p, t) := p.readAll 0
    let (p, opened, fine) := o.operands.foldl (fun (p, opened, fine) target =>
      match p.openToWrite target (o.has 'a') (o.has 'a') with
      | .ok (p, n) => (p, opened ++ [n], fine)
      | .error fault => (c.complain (unreadable target fault) p, opened, false)) (p, [], true)
    let p := p.write 1 t
    let b := Text.octets t
    ends (statusOf fine) { p with world := opened.foldl (fun w n => w.write n b) p.world }

/-- Writes a line again and again, as long as there is room for it. -/
def repeats : Service :=
  withOptions { letters := "" } 1 fun o _ p =>
    let line := [' '].intercalate (if o.operands = [] then [['y']] else o.operands) ++ ['\n']
    match p.room 1 with
    | some room => ends 0 (p.write 1 (List.replicate (room / line.length + 1) line).flatten)
    | none => ends 0 p

/-! ### Pieces -/

/-- The name of a piece by number: letters, or digits, in a width that grows before they run out. -/
def pieceName (digits : Bool) (width n : Nat) : Text :=
  let base := if digits then 10 else 26
  let letter (d : Nat) : Char := Char.ofNat ((if digits then '0'.toNat else 'a'.toNat) + d)
  let rec write : Nat → Nat → Text → Text
    | 0, _, t => t
    | width + 1, n, t => write width (n / base) (letter (n % base) :: t)
  write width n []

/-- The parts of lines that take so many octets at most, where a line fits. -/
def linesWithin (most : Nat) (part : Text) : List Text → List Text
  | [] => if part = [] then [] else [part]
  | line :: more =>
    if part.length + line.length ≤ most then linesWithin most (part ++ line) more
    else if part = [] then Text.chunksOf most line ++ linesWithin most [] more
    else part :: (if line.length ≤ most then linesWithin most line more
      else Text.chunksOf most line ++ linesWithin most [] more)

/-- Cuts an input into so many parts of about the same size. -/
def evenParts (n : Nat) (t : Text) : List Text :=
  (List.range n).map fun k =>
    let start := k * (t.length / n)
    let stop := if k + 1 = n then t.length else (k + 1) * (t.length / n)
    (t.take stop).drop start

/-- Writes the parts of an input to files with names that go up. -/
def splitUp : Service :=
  withOptions
    { letters := "xe", valued := "labCntσ", loose := "dδ"
      long := [("lines", 'l'), ("bytes", 'b'), ("suffix-length", 'a'), ("line-bytes", 'C'), ("number", 'n'),
        ("numeric-suffixes", 'd'), ("additional-suffix", 'σ'), ("hex-suffixes", 'x'), ("elide-empty-files", 'e')] } 1 fun o c p =>
    let input := o.operands.head?.getD ['-']
    let start := (o.operands[1]?).getD ['x']
    match take p input with
    | .error fault =>
      c.fail (if fault = .isDirectory then named input ++ ": read error".toList ++ told .isDirectory
        else "cannot open ".toList ++ quoted input ++ " for reading".toList ++ told fault) 1 p
    | .ok (p, t) =>
      let number (letter : Char) (usual : Nat) : Nat := ((o.value? letter).bind amount?).getD usual
      let parts := match o.last? "lbCn" with
        | some 'b' => Text.chunksOf (number 'b' 1) t
        | some 'C' => linesWithin (number 'C' 1) [] (lines t)
        | some 'n' => evenParts (number 'n' 1) t
        | _ => (Text.chunksOf (number 'l' 1000) (lines t)).map List.flatten
      let needed := max 2 (Text.decimal parts.length).length
      let width := ((o.value? 'a').bind natural?).getD (if o.last? "n" = some 'n' then needed else 2)
      let first := ((o.value? 'd').bind natural?).getD 0
      let (p, fault?) := (parts.zipIdx first).foldl (fun (p, fault?) (part, k) =>
        match fault? with
        | some _ => (p, fault?)
        | none =>
          let path := start ++ pieceName (o.has 'd') width k ++ (o.value? 'σ').getD []
          match p.store path false part with
          | .ok p => (p, none)
          | .error fault => (c.complain (named path ++ told fault) p, some fault)) (p, (none : Option Fault))
      ends (statusOf fault?.isNone) p

end Flowchart.Tool
