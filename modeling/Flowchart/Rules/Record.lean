import Flowchart.Regex.Basic
import Flowchart.Rules.Reader

/-!
Records and their fields. A text is divided into fields where it says, and a record is put together again when
one of its fields changes.
-/

namespace Flowchart.Rules

inductive Divider where
  /-- At runs of blanks; those at the ends mean nothing. -/
  | blanks
  | each
  | char (c : Char)
  | regex (r : Regex)

/-- The divider that a text stands for. -/
def Divider.ofText (t : Text) : Except Text Divider :=
  match t with
  | [] => .ok .each
  | [' '] => .ok .blanks
  | [c] => .ok (.char c)
  | t => (regexOf? t).map .regex

def wordsOf : Nat → Text → List Text
  | 0, _ => []
  | fuel + 1, t =>
    let isBlank := fun c : Char => isGap c || c == '\n'
    match t.dropWhile isBlank with
    | [] => []
    | t =>
      let word := t.takeWhile (!isBlank ·)
      word :: wordsOf fuel (t.drop word.length)

/-- The parts of a text between matches that are not empty. -/
def partsBetween (s : Regex.Subject) (start : Nat) : List Regex.Match → List Text
  | [] => [s.slice ⟨start, s.chars.size⟩]
  | m :: more => if m.start = m.stop then partsBetween s start more else s.slice ⟨start, m.start⟩ :: partsBetween s m.stop more

def Divider.fields (d : Divider) (t : Text) : List Text :=
  match d with
  | blanks => wordsOf (t.length + 1) t
  | each => t.map fun c => [c]
  | char c => if t = [] then [] else Text.splitAt c t
  | regex r =>
    if t = [] then []
    else
      let s := Regex.Subject.ofText t
      partsBetween s 0 (r.allMatches s)

/-- A record: its text, and its fields if they are known. -/
structure Record where
  whole : Value := .text []
  fields : Array Value := #[]
  isDivided : Bool := true

namespace Record

def ofValue (v : Value) : Record := ⟨v, #[], false⟩

def divided (r : Record) (d : Divider) (toText : Value → Text) : Record :=
  if r.isDivided then r
  else { r with fields := ((d.fields (toText r.whole)).map Value.ofInput).toArray, isDivided := true }

/-- A record whose text is put together from its fields. -/
def rejoined (r : Record) (separator : Text) (toText : Value → Text) : Record :=
  { r with whole := .ofInput (separator.intercalate (r.fields.toList.map toText)) }

def resized (r : Record) (n : Nat) : Record :=
  { r with fields := r.fields.extract 0 n ++ Array.replicate (n - r.fields.size) (.text []) }

/-- A record with another value in a field. -/
def withField (r : Record) (n : Nat) (v : Value) : Record :=
  let r := if r.fields.size < n then r.resized n else r
  { r with fields := r.fields.setIfInBounds (n - 1) v }

end Record

inductive Ending where
  | char (c : Char)
  /-- Lines that are empty. -/
  | gap
  | regex (r : Regex)

/-- The ending that a text stands for. -/
def Ending.ofText (t : Text) : Except Text Ending :=
  match t with
  | [] => .ok .gap
  | [c] => .ok (.char c)
  | t => (regexOf? t).map .regex

/-- The first record of a text, and what follows it; nothing if more of the text has to be known. -/
def Ending.cut? (e : Ending) (isAll : Bool) (t : Text) : Option (Text × Text) :=
  match e with
  | char c =>
    let record := t.takeWhile (· ≠ c)
    match t.drop record.length with
    | _ :: rest => some (record, rest)
    | [] => if isAll ∧ t ≠ [] then some (record, []) else none
  | gap =>
    if !isAll then none
    else
      let t := t.dropWhile (· = '\n')
      let rec upToGap : Text → Text × Text
        | '\n' :: '\n' :: rest => ([], rest.dropWhile (· = '\n'))
        | ['\n'] => ([], [])
        | c :: rest =>
          let (record, rest) := upToGap rest
          (c :: record, rest)
        | [] => ([], [])
      if t = [] then none else some (upToGap t)
  | regex r =>
    if !isAll ∨ t = [] then none
    else
      let s := Regex.Subject.ofText t
      match (r.allMatches s).find? fun m => m.start < m.stop with
      | some m => some (t.take m.start, t.drop m.stop)
      | none => some (t, [])

/-- A replacement in which ampersands stand for what has been matched, unless a backslash stands before them. -/
def replacementOf (found : Text) : Nat → Text → Text
  | 0, _ => []
  | _ + 1, [] => []
  | fuel + 1, '&' :: rest => found ++ replacementOf found fuel rest
  | fuel + 1, '\\' :: rest =>
    let slashes := '\\' :: rest.takeWhile (· = '\\')
    let rest := rest.drop (slashes.length - 1)
    match rest with
    | '&' :: more =>
      slashes.take (slashes.length / 2) ++ (if slashes.length % 2 = 1 then ['&'] else found)
        ++ replacementOf found fuel more
    | rest => slashes ++ replacementOf found fuel rest
  | fuel + 1, c :: rest => c :: replacementOf found fuel rest

/-- A text with replacements for the first match or for all matches, and how many there are. -/
def replaced (r : Regex) (all : Bool) (replacement t : Text) : Text × Nat :=
  let s := Regex.Subject.ofText t
  let found := if all then r.allMatches s else (r.find? s).toList
  let (parts, last) := found.foldl (fun (parts, last) (m : Regex.Match) =>
    (replacementOf (s.slice m.toSpan) (replacement.length + 1) replacement :: s.slice ⟨last, m.start⟩ :: parts, m.stop))
    (([] : List Text), 0)
  ((s.slice ⟨last, s.chars.size⟩ :: parts).reverse.flatten, found.length)

end Flowchart.Rules
