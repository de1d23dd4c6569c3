import Flowchart.Toml.Numeral
import Flowchart.Toml.Quoted
import Flowchart.Toml.Table

/-!
Reading TOML. Values may be nested, and keys may have dots, up to a limit; a text that goes beyond it is
refused like one that does not follow the grammar. Scanners know where they are by how much of the text is
left, so they take the size of the whole text to tell the bytes of what they read.

Documents are read by a library, which is no part of the program. Of it is assumed that it reads TOML 1.0 as this
language is defined, and this is what is written down here: the grammar, the rule that no key of a table is given
twice, and the one that a table is defined once. Its limit for nested values is the only thing beyond the language.
-/

namespace Flowchart.Toml

open Text

/-- How deep values may be nested, and how many parts a key may have. -/
def depthLimit : Nat := 79

/-- The bytes between two places of a text of the given size, each told by the text that is left there. -/
def spanBetween (size : Nat) (before after : Text) : Span :=
  ⟨size - byteSize before, size - byteSize after⟩

/-! ### Keys -/

/-- Whether a character may stand in a key that is not quoted. -/
def isKeyChar (c : Char) : Bool := c.isAlphanum || c == '_' || c == '-'

/-- The name of a key without dots. -/
def keyName? : Text → Option (Text × Text)
  | '"' :: rest => basic? (rest.length + 1) rest
  | '\'' :: rest => literal? rest
  | t => match t.takeWhile isKeyChar with
    | [] => none
    | c :: name => some (c :: name, t.dropWhile isKeyChar)

/-- A key of at most `n` parts with dots between them, and the blanks around it. -/
def keyPath? (size : Nat) : Nat → Text → Option (KeyPath × Text)
  | 0, _ => none
  | n + 1, t => do
    let t := skipSpace t
    let (name, rest) ← keyName? t
    let key : Key := ⟨name, spanBetween size t rest⟩
    match skipSpace rest with
    | '.' :: rest => do
      let (path, rest) ← keyPath? size n rest
      return (⟨key :: path.parents, path.key⟩, rest)
    | rest => return (⟨[], key⟩, rest)

/-! ### Values -/

/-- A value that holds no other. -/
def scalar? (size : Nat) (t : Text) : Option (Value × Text) :=
  match t with
  | [] => none
  | c :: _ =>
    if c = '"' ∨ c = '\'' then
      (string? t).map fun p => (.string (spanBetween size t p.2) p.1, p.2)
    else if c = 't' then
      ("true".toList.isPrefixOf? t).map fun rest => (.boolean (spanBetween size t rest) true, rest)
    else if c = 'f' then
      ("false".toList.isPrefixOf? t).map fun rest => (.boolean (spanBetween size t rest) false, rest)
    else
      match datetime? t with
      | some rest => some (.datetime (spanBetween size t rest), rest)
      | none =>
        match float? t with
        | some (x, rest) => some (.float (spanBetween size t rest) x, rest)
        | none => (integer? t).map fun p => (.integer (spanBetween size t p.2) p.1, p.2)

/-- The items of an array up to its closing bracket; a comma may stand behind the last. -/
def items? (value? : Text → Option (Value × Text)) : Nat → Text → Option (List Value × Text)
  | 0, _ => none
  | fuel + 1, t =>
    match skipGap false t with
    | ']' :: rest => some ([], rest)
    | t => do
      let (v, rest) ← value? t
      match skipGap false rest with
      | ']' :: rest => return ([v], rest)
      | ',' :: rest => do
        let (vs, rest) ← items? value? fuel rest
        return (v :: vs, rest)
      | _ => none

/-- The pairs of a table between braces up to its closing brace, at least one; no comma may stand behind
the last. -/
def pairs? (size : Nat) (value? : Text → Option (Value × Text)) :
    Nat → Text → Option (List (KeyPath × Value) × Text)
  | 0, _ => none
  | fuel + 1, t => do
    let (path, rest) ← keyPath? size depthLimit t
    let rest ← ['='].isPrefixOf? rest
    let (v, rest) ← value? (skipSpace rest)
    match skipSpace rest with
    | '\x7d' :: rest => return ([(path, v)], rest)
    | ',' :: rest => do
      let (ps, rest) ← pairs? size value? fuel rest
      return ((path, v) :: ps, rest)
    | _ => none

/-- A value in which at most `depth` others are nested. -/
def value? (size : Nat) : Nat → Text → Option (Value × Text)
  | 0, '[' :: _ => none
  | 0, '\x7b' :: _ => none
  | depth + 1, '[' :: rest => do
    let (vs, left) ← items? (value? size depth) (rest.length + 1) rest
    return (.array (spanBetween size ('[' :: rest) left) vs, left)
  | depth + 1, '\x7b' :: rest => do
    let (ps, left) ← match skipSpace rest with
      | '\x7d' :: left => some ([], left)
      | rest => pairs? size (value? size depth) (rest.length + 1) rest
    let table ← Value.inlineTable? (spanBetween size ('\x7b' :: rest) left) ps
    return (table, left)
  | _, t => scalar? size t

/-! ### Documents -/

/-- A header of a table or of a row. -/
def header? (size : Nat) (t : Text) : Option (Statement × Text) :=
  match t with
  | '[' :: '[' :: rest => do
    let (path, rest) ← keyPath? size depthLimit rest
    let rest ← [']', ']'].isPrefixOf? rest
    return (.row path (spanBetween size t rest), rest)
  | '[' :: rest => do
    let (path, rest) ← keyPath? size depthLimit rest
    let rest ← [']'].isPrefixOf? rest
    return (.table path (spanBetween size t rest), rest)
  | _ => none

/-- A key and its value. -/
def pair? (size : Nat) (t : Text) : Option (Statement × Text) := do
  let (path, rest) ← keyPath? size depthLimit t
  let rest ← ['='].isPrefixOf? rest
  let (v, rest) ← value? size depthLimit (skipSpace rest)
  return (.pair path v, rest)

/-- The statements of a text, each on lines of its own. -/
def statements? (size : Nat) : Nat → Text → Option (List Statement)
  | 0, _ => none
  | fuel + 1, t =>
    match skipSpace t with
    | [] => some []
    | c :: rest =>
      if c = '\n' ∨ c = '\r' ∨ c = '#' then do
        let rest ← endLine? (c :: rest)
        statements? size fuel rest
      else do
        let (s, rest) ← if c = '[' then header? size (c :: rest) else pair? size (c :: rest)
        let rest ← endLine? rest
        let more ← statements? size fuel rest
        return s :: more

/-- Reads a document; `none` if the text is not TOML. A byte order mark may stand first. -/
def read? (source : Text) : Option Entries := do
  let body := (['\ufeff'].isPrefixOf? source).getD source
  let ss ← statements? (byteSize source) (body.length + 1) body
  Entries.ofStatements? ss

end Flowchart.Toml
