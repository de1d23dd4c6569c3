import Flowchart.Number.Binary64
import Flowchart.Source.Line

/-!
TOML values. A value remembers the bytes that it was read from, as does a key. A table that only stands
between others has no bytes of its own.
-/

namespace Flowchart.Toml

/-- A key and the bytes that it takes. -/
structure Key where
  name : Text
  span : Span
deriving DecidableEq, Repr

/-- How a table comes about, which decides what may be added to it later. -/
inductive Form where
  /-- It stands between braces; nothing can be added. -/
  | inline
  /-- A header names it. -/
  | header
  /-- The header of another table passes through it. -/
  | passed
  /-- A key with dots passes through it. -/
  | dotted
deriving DecidableEq, Repr

inductive Value where
  | string (span : Span) (text : Text)
  | integer (span : Span) (value : Int)
  | float (span : Span) (value : Binary64)
  | boolean (span : Span) (value : Bool)
  | datetime (span : Span)
  | array (span : Span) (items : List Value)
  /-- An array of tables, each of which has a header. -/
  | tables (rows : List Value)
  | table (form : Form) (span? : Option Span) (entries : List (Key × Value))

/-- The entries of a table, in the order in which their keys were first written. -/
abbrev Entries := List (Key × Value)

namespace Value

/-- The bytes that a value takes, from the first row to the last for an array of tables. -/
def span? : Value → Option Span
  | string span _ | integer span _ | float span _ | boolean span _ | datetime span | array span _ => some span
  | table _ span? _ => span?
  | tables rows =>
    match rows.head?, rows.getLast? with
    | some (table _ (some first) _), some (table _ (some last) _) => some ⟨first.start, last.stop⟩
    | _, _ => none

end Value

namespace Entries

def find? (entries : Entries) (name : Text) : Option Value :=
  (List.find? (fun e => e.1.name = name) entries).map Prod.snd

/-- Changes the value of a name, which keeps its place. -/
def set (entries : Entries) (name : Text) (value : Value) : Entries :=
  entries.map fun e => if e.1.name = name then (e.1, value) else e

/-- Takes a name out. -/
def erase (entries : Entries) (name : Text) : Entries := entries.filter fun e => e.1.name ≠ name

@[simp] theorem find?_nil (name : Text) : find? [] name = none := rfl

theorem find?_cons (e : Key × Value) (entries : Entries) (name : Text) :
    find? (e :: entries) name = if e.1.name = name then some e.2 else find? entries name := by
  by_cases h : e.1.name = name <;> simp [find?, h]

end Entries

end Flowchart.Toml
