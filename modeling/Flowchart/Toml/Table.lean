import Flowchart.Toml.Value

/-!
Tables from statements. A document is a list of statements: headers, which open a table or one more row of
an array of tables, and pairs of a key and a value, which go into the table that was opened last. A
statement is refused if it would define something twice or add to a value that is complete.
-/

namespace Flowchart.Toml

/-- A key with dots: the keys that lead to it and the key itself. -/
structure KeyPath where
  parents : List Key
  key : Key
deriving DecidableEq, Repr

def KeyPath.toList (p : KeyPath) : List Key := p.parents ++ [p.key]

/-- One statement of a document. -/
inductive Statement where
  /-- The header of a table, and the bytes that it takes. -/
  | table (path : KeyPath) (span : Span)
  /-- The header of a row of an array of tables, and the bytes that it takes. -/
  | row (path : KeyPath) (span : Span)
  /-- A key and its value. -/
  | pair (path : KeyPath) (value : Value)

/-- Changes the table that some keys lead to. Tables that are missing on the way are made, and an array of
tables leads to its last row. Keys with dots do not lead into a table that has a header. -/
def Value.alter? (dotted : Bool) (change : Value → Option Value) : List Key → Value → Option Value
  | [], v => change v
  | key :: path, .table form span? entries =>
    match Entries.find? entries key.name with
    | none => do
      let made ← alter? dotted change path (.table (if dotted then .dotted else .passed) none [])
      return .table form span? (entries ++ [(key, made)])
    | some (.table inner innerSpan? more) =>
      if inner = .inline ∨ dotted = true ∧ inner = .header then none
      else do
        let changed ← alter? dotted change path (.table inner innerSpan? more)
        return .table form span? (Entries.set entries key.name changed)
    | some (.tables rows) => do
      let last ← rows.getLast?
      let changed ← alter? dotted change path last
      return .table form span? (Entries.set entries key.name (.tables (rows.dropLast ++ [changed])))
    | some _ => none
  | _ :: _, _ => none

/-- Adds an entry to a table that `path` leads to. The table has to be one that keys with dots make if and
only if the path has keys. -/
def Value.put? (path : List Key) (key : Key) (value : Value) : Value → Option Value
  | .table form span? entries =>
    if decide (form = .dotted) = path.isEmpty ∨ (Entries.find? entries key.name).isSome = true then none
    else some (.table form span? (entries ++ [(key, value)]))
  | _ => none

/-- Gives a table that has bytes of its own the bytes up to the end of a value. -/
def Value.extend (value : Value) : Value → Value
  | .table form (some span) entries =>
    .table form (some ⟨span.start, (value.span?.map Span.stop).getD span.stop⟩) entries
  | v => v

/-- Opens a table within another. A table that headers have passed through moves to the end. -/
def Value.openTable? (key : Key) (span : Span) : Value → Option Value
  | .table form span? entries =>
    match Entries.find? entries key.name with
    | none => some (.table form span? (entries ++ [(key, .table .header (some span) [])]))
    | some (.table .passed _ inner) =>
      some (.table form span? (Entries.erase entries key.name ++ [(key, .table .header (some span) inner)]))
    | some _ => none
  | _ => none

/-- Opens one more row of an array of tables within a table. -/
def Value.openRow? (key : Key) (span : Span) : Value → Option Value
  | .table form span? entries =>
    let row : Value := .table .header (some span) []
    match Entries.find? entries key.name with
    | none => some (.table form span? (entries ++ [(key, .tables [row])]))
    | some (.tables rows) => some (.table form span? (Entries.set entries key.name (.tables (rows ++ [row]))))
    | some _ => none
  | _ => none

/-- Adds a pair to a table, making the tables that the dots of its key ask for. -/
def Value.addPair? (table : Value) (path : KeyPath) (value : Value) : Option Value :=
  table.alter? true (Value.put? path.parents path.key value) path.parents

/-- A document that has been read in part: its table, and the keys to the table that was opened last. -/
structure Draft where
  root : Value
  opened : List Key

namespace Draft

def empty : Draft := ⟨.table .header none [], []⟩

/-- Takes one more statement. -/
def add? (d : Draft) : Statement → Option Draft
  | .table path span => do
    let root ← d.root.alter? false (Value.openTable? path.key span) path.parents
    return ⟨root, path.toList⟩
  | .row path span => do
    let root ← d.root.alter? false (Value.openRow? path.key span) path.parents
    return ⟨root, path.toList⟩
  | .pair path value => do
    let root ← d.root.alter? false (fun t => (t.addPair? path value).map value.extend) d.opened
    return ⟨root, d.opened⟩

end Draft

/-- The entries of a document. -/
def Entries.ofStatements? (statements : List Statement) : Option Entries := do
  let d ← statements.foldlM Draft.add? Draft.empty
  match d.root with
  | .table _ _ entries => some entries
  | _ => none

/-- A table between braces with the given pairs. -/
def Value.inlineTable? (span : Span) (pairs : List (KeyPath × Value)) : Option Value := do
  pairs.foldlM (fun table p => table.addPair? p.1 p.2) (.table .inline (some span) [])

end Flowchart.Toml
