import Flowchart.Regex.Reader
import Flowchart.Shell.Pattern
import Flowchart.Tool.Start

/-!
The tool that picks the lines of its inputs that match expressions.
-/

namespace Flowchart.Tool

open Files

structure Picking where
  patterns : List Regex
  /-- Whether a match has to cover whole words, or the whole line. -/
  words : Bool
  whole : Bool
  inverted : Bool

/-- The longest match at a place that covers whole words. -/
def wordMatchAt? (r : Regex) (s : Regex.Subject) (place : Nat) : Option Regex.Match :=
  let points := (Regex.ends r.refersBack s r { place }).filter fun p =>
    !s.isWordBefore place && !s.isWordAt p.place
  let best := points.foldl (fun (best : Option Regex.Point) p =>
    match best with
    | none => some p
    | some b => if b.place < p.place then some p else best) none
  best.map fun p => ⟨⟨place, p.place⟩, p.groups⟩

/-- The first match of any expression from a place on; the longest of those that start there. -/
def Picking.find? (y : Picking) (s : Regex.Subject) (start : Nat) : Option Regex.Match :=
  let found := y.patterns.filterMap fun r =>
    if y.words then
      (List.range (s.chars.size + 1 - start)).findSome? fun k => wordMatchAt? r s (start + k)
    else r.find? s start
  found.foldl (fun (best : Option Regex.Match) m =>
    match best with
    | none => some m
    | some b => if m.start < b.start ∨ (m.start = b.start ∧ b.stop < m.stop) then some m else best) none

def Picking.picks (y : Picking) (line : Text) : Bool :=
  let found := if y.whole then y.patterns.any fun r => r.matchesAll line
    else if y.words then (y.find? (.ofText line) 0).isSome
    else y.patterns.any fun r => r.matchesIn line
  found != y.inverted

/-- The matches in a line, without the empty ones. -/
def Picking.parts (y : Picking) (line : Text) : List Regex.Match :=
  let s := Regex.Subject.ofText line
  let rec look : Nat → Nat → List Regex.Match
    | 0, _ => []
    | fuel + 1, start =>
      match y.find? s start with
      | none => []
      | some m => if m.start = m.stop then look fuel (m.stop + 1) else m :: look fuel m.stop
  if y.whole then (if y.picks line then [⟨⟨0, line.length⟩, []⟩] else []) else look (line.length + 1) 0

def pickingOptions : Known :=
  { letters := "EFGPicvwxnHhqslLoyrRzbaIUTZ", valued := "efmABCdDλικ", loose := "χ"
    long := [("extended-regexp", 'E'), ("fixed-strings", 'F'), ("basic-regexp", 'G'), ("ignore-case", 'i'), ("count", 'c'),
      ("invert-match", 'v'), ("word-regexp", 'w'), ("line-regexp", 'x'), ("line-number", 'n'), ("with-filename", 'H'),
      ("no-filename", 'h'), ("quiet", 'q'), ("silent", 'q'), ("no-messages", 's'), ("files-with-matches", 'l'),
      ("files-without-match", 'L'), ("only-matching", 'o'), ("recursive", 'r'), ("dereference-recursive", 'R'),
      ("null-data", 'z'), ("byte-offset", 'b'), ("text", 'a'), ("regexp", 'e'), ("file", 'f'), ("max-count", 'm'),
      ("after-context", 'A'), ("before-context", 'B'), ("context", 'C'), ("color", 'χ'), ("colour", 'χ'),
      ("include", 'ι'), ("exclude", 'κ'), ("label", 'λ'), ("null", 'Z'), ("initial-tab", 'T')] }

/-- A line with its number, where it starts, and whether it is picked. -/
structure Row where
  line : Text
  number : Nat
  offset : Nat
  picked : Bool

/-- The lines of a text, up to the one that is picked as the last of so many. -/
def rowsFor (y : Picking) (mark : Char) (most : Option Nat) (t : Text) : List Row :=
  let pieces := (piecesOf mark t).map (unmarked mark)
  let rec go : List Text → Nat → Nat → Nat → List Row
    | [], _, _, _ => []
    | line :: more, number, offset, count =>
      let picked := y.picks line && (most.map fun m => decide (count < m)).getD true
      ⟨line, number, offset, picked⟩ :: go more (number + 1) (offset + line.length + 1) (if picked then count + 1 else count)
  go pieces 1 0 0

/-- Reads the standard input, but only up to the line that is picked as the last of so many. -/
def takeUpTo (y : Picking) (mark : Char) (most : Option Nat) (p : Process) : Except Fault (Process × Text) :=
  let picked := match most with
    | some n => ((rowsFor y mark most (Text.ofOctets (p.left 0))).filter Row.picked)[n - 1]?
    | none => none
  match picked with
  | some r =>
    let (p, b) := p.readBytes 0 (r.offset + r.line.length + 1)
    .ok (p, Text.ofOctets b)
  | none => take p ['-']

/-- The rows that are shown: those that are picked and those around them; with `none` where some are left out. -/
def shownRows (before after : Nat) (rows : List Row) : List (Option Row) :=
  let picked := (rows.filter Row.picked).map Row.number
  let near (r : Row) : Bool := picked.any fun n => n ≤ r.number + before && r.number ≤ n + after
  let kept := if before = 0 ∧ after = 0 then rows.filter Row.picked else rows.filter near
  let rec go (last : Option Nat) : List Row → List (Option Row)
    | [] => []
    | r :: more =>
      let gap := (before ≠ 0 ∨ after ≠ 0) ∧ (last.map fun n => decide (n + 1 < r.number)).getD false = true
      (if gap then [none] else []) ++ some r :: go (some r.number) more
  go none kept

/-- What is written for the lines of an input. -/
def pickedText (o : Options) (y : Picking) (before after : Nat) (start : Text) (apart : Bool) (rows : List Row) : Text :=
  let mark := if o.has 'z' then '\x00' else '\n'
  let row (r : Row) : Text :=
    let sign := if r.picked then ':' else '-'
    let named (offset : Nat) : Text :=
      (if start = [] then [] else start ++ [if o.has 'Z' then '\x00' else sign])
        ++ (if o.has 'n' then Text.decimal r.number ++ [sign] else [])
        ++ (if o.has 'b' then Text.decimal offset ++ [sign] else [])
    if o.has 'o' then
      if y.inverted ∨ !r.picked then []
      else (y.parts r.line).flatMap fun m =>
        named (r.offset + m.start) ++ (r.line.take m.stop).drop m.start ++ [mark]
    else named r.offset ++ r.line ++ [mark]
  let shown := shownRows before after rows
  (if apart && !shown.isEmpty && (before ≠ 0 || after ≠ 0) then "--\n".toList else []) ++ shown.flatMap fun
    | none => "--\n".toList
    | some r => row r

def filesBelow (p : Process) (follows : Bool) : Nat → Text → List Text
  | 0, _ => []
  | depth + 1, path =>
    match p.look path follows with
    | .ok (place, .directory _) =>
      (p.tree.names place).flatMap fun name => filesBelow p follows depth (inDirectory path name)
    | .ok (_, .link _) => []
    | _ => [path]

/-- What has been found in all inputs so far. -/
structure Found where
  any : Bool := false
  failed : Bool := false
  /-- Whether lines have been written. -/
  wrote : Bool := false

def pickFrom (o : Options) (y : Picking) (showName : Bool) (c : Call) (state : Process × Found) (operand : Text) :
    Process × Found :=
  let (p, found) := state
  if o.has 'q' ∧ found.any then state
  else
    let number (letter : Char) : Option Nat := (o.value? letter).bind natural?
    let mark := if o.has 'z' then '\x00' else '\n'
    let most := if o.has 'q' ∨ o.has 'l' then some 1 else number 'm'
    match if operand = ['-'] then takeUpTo y mark most p else take p operand with
    | .error fault =>
      (if o.has 's' then p else c.complain (operand ++ told fault) p, { found with failed := true })
    | .ok (p, t) =>
      let name := if operand = ['-'] then (o.value? 'λ').getD "(standard input)".toList else operand
      let rows := rowsFor y mark (number 'm') t
      let count := rows.countP Row.picked
      let any := count ≠ 0
      let next : Found := { found with any := found.any || any }
      let binary := !o.has 'a' && !o.has 'z' && t.contains '\x00'
      if o.has 'q' then (p, next)
      else if o.has 'l' then (if any then p.write 1 (name ++ [if o.has 'Z' then '\x00' else '\n']) else p, next)
      else if o.has 'L' then (if any then p else p.write 1 (name ++ [if o.has 'Z' then '\x00' else '\n']), next)
      else if o.has 'c' then
        (p.write 1 ((if showName then name ++ [':'] else []) ++ Text.decimal count ++ ['\n']), next)
      else if binary then
        (if any then p.write 2 (c.name ++ ": ".toList ++ name ++ ": binary file matches\n".toList) else p, next)
      else
        let context (letter : Char) : Nat := (number letter <|> number 'C').getD 0
        let out := pickedText o y (context 'B') (context 'A') (if showName then name else []) found.wrote rows
        (p.write 1 out, { next with wrote := found.wrote || out ≠ [] })

/-- Picks lines that match expressions. The extended or the plain way of writing them may be the usual one. -/
def pick (usual : Char) : Service := fun c p =>
  let usage : Text := "Usage: ".toList ++ lastName c.name ++
    " [OPTION]... PATTERNS [FILE]...\nTry '".toList ++ lastName c.name ++ " --help' for more information.\n".toList
  -- a number behind a dash says how many lines around are shown
  let arguments := c.arguments.flatMap fun a => match a with
    | '-' :: d :: rest => if (d :: rest).all Char.isDigit then [['-', 'C'], d :: rest] else [a]
    | _ => [a]
  match readOptions pickingOptions false {} (arguments.length + 1) arguments with
  | .error message => ends 2 (p.write 2 (c.name ++ ": ".toList ++ message ++ '\n' :: usage))
  | .ok o =>
    let fromFiles : Except Text (Process × List Text) := (o.values 'f').foldlM (fun (p, found) path =>
      match take p path with
      | .ok (p, t) => .ok (p, found ++ plainLines t)
      | .error fault => .error (path ++ told fault)) (p, [])
    match fromFiles with
    | .error message => c.fail message 2 p
    | .ok (p, lines) =>
      let given := o.has 'e' || o.has 'f'
      let texts := ((o.values 'e').flatMap (Text.splitAt '\n')) ++ lines
      match given, o.operands, "ABCm".toList.find? fun l => (o.value? l).isSome && ((o.value? l).bind natural?).isNone with
      | false, [], _ => ends 2 (p.write 2 usage)
      | _, _, some 'm' => c.fail "invalid max count".toList 2 p
      | _, _, some letter => c.fail (((o.value? letter).getD []) ++ ": invalid context length argument".toList) 2 p
      | given, operands, none =>
        let texts := if given then texts else (Text.splitAt '\n' (operands.head?.getD []))
        let operands := if given then operands else operands.tail
        let ignoreCase := o.has 'i' || o.has 'y'
        let patterns : Except Regex.Fault (List Regex) := texts.mapM fun t =>
          match (o.last? "EFGP").getD usual with
          | 'F' => .ok (Regex.ofText ignoreCase t)
          | 'G' => (Regex.read { extended := false, ignoreCase } t).map Prod.fst
          | _ => (Regex.read { extended := true, ignoreCase } t).map Prod.fst
        match patterns with
        | .error fault => c.fail fault.message 2 p
        | .ok patterns =>
          let y : Picking := ⟨patterns, o.has 'w', o.has 'x', o.has 'v'⟩
          let recursive := o.has 'r' || o.has 'R'
          let fitsAny (letter : Char) (path : Text) : Bool := (o.values letter).any fun pattern =>
            Shell.fits (Shell.patternOf (pattern.map fun c => ⟨c, false⟩)) (lastName path)
          let below := fun path : Text =>
            (filesBelow p true maxRemoved path).filter fun path =>
              ((o.values 'ι').isEmpty || fitsAny 'ι' path) && !fitsAny 'κ' path
          let files := if recursive then
              if operands = [] then (below ['.']).map (List.drop 2)
              else operands.flatMap fun path => if p.tree.isDirectory (p.path path) then below path else [path]
            else inputs operands
          let showName := (o.last? "Hh" = some 'H') ||
            (o.last? "Hh" ≠ some 'h' && (1 < operands.length || (recursive &&
              (operands = [] || operands.any fun path => p.tree.isDirectory (p.path path)))))
          let (p, found) := files.foldl (pickFrom o y showName c) (p, ({} : Found))
          let status := if found.failed ∧ !(o.has 'q' ∧ found.any) then 2 else if found.any then 0 else 1
          ends status p

end Flowchart.Tool
