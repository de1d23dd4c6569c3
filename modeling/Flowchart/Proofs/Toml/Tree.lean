import Flowchart.Proofs.Toml.Keys

/-! What a document says.

A value that is read remembers its bytes and how its tables came about. Its tree is what
is left without these: texts, numbers, truth values and dates, arrays of trees, and tables
of trees under their names. To look a name up in a table is the same before and after
(`get?_tree`). -/
namespace Flowchart.Toml

/-- What a value says. -/
inductive Tree where
  | string (text : Text)
  | integer (value : Int)
  | float (value : Binary64)
  | boolean (value : Bool)
  | datetime
  | array (items : List Tree)
  | table (entries : List (Text × Tree))

namespace Tree

/-- The names in a table. -/
def names : Tree → List Text
  | table entries => entries.map Prod.fst
  | _ => []

/-- What stands under a name in a table. -/
def get? : Tree → Text → Option Tree
  | table entries, name => (entries.find? fun e => e.1 = name).map Prod.snd
  | _, _ => none

/-- Whether a value is a table. -/
def IsTable (t : Tree) : Prop := ∃ entries, t = table entries

theorem get?_table_cons (e : Text × Tree) (entries : List (Text × Tree)) (name : Text) :
    (table (e :: entries)).get? name = if e.1 = name then some e.2 else (table entries).get? name := by
  by_cases h : e.1 = name <;> simp [get?, h]

theorem get?_eq_none_iff {t : Tree} {name : Text} : t.get? name = none ↔ name ∉ t.names := by
  cases t with
  | table entries =>
    rw [get?, Option.map_eq_none_iff, List.find?_eq_none, names, List.mem_map, not_exists]
    simp only [decide_eq_true_eq, not_and]
  | _ => simp [get?, names]

end Tree

mutual

/-- What a value says. -/
def Value.tree : Value → Tree
  | .string _ t => .string t
  | .integer _ i => .integer i
  | .float _ x => .float x
  | .boolean _ b => .boolean b
  | .datetime _ => .datetime
  | .array _ items => .array (Value.trees items)
  | .tables rows => .array (Value.trees rows)
  | .table _ _ entries => .table (Value.branches entries)
termination_by structural v => v

/-- What values say, one after the other. -/
def Value.trees : List Value → List Tree
  | [] => []
  | v :: more => v.tree :: Value.trees more
termination_by structural vs => vs

/-- What the entries of a table say, each under its name. -/
def Value.branches : List (Key × Value) → List (Text × Tree)
  | [] => []
  | (key, v) :: more => (key.name, v.tree) :: Value.branches more
termination_by structural es => es

end

/-- What a document says. -/
def Entries.tree (entries : Entries) : Tree := .table (Value.branches entries)

theorem tree_table (form : Form) (span? : Option Span) (entries : Entries) :
    (Value.table form span? entries).tree = entries.tree := rfl

theorem branches_eq_map (entries : Entries) : Value.branches entries = entries.map fun e => (e.1.name, e.2.tree) := by
  induction entries with
  | nil => rfl
  | cons e entries ih =>
    rw [List.map_cons, ← ih]
    rfl

theorem get?_tree (entries : Entries) (name : Text) : entries.tree.get? name = (entries.find? name).map Value.tree := by
  rw [Entries.tree, branches_eq_map, Tree.get?, Entries.find?, List.find?_map, Option.map_map, Option.map_map]
  rfl

theorem names_tree (entries : Entries) : entries.tree.names = entries.names := by
  rw [Entries.tree, branches_eq_map, Tree.names, List.map_map]
  rfl

theorem isTable_tree_iff {v : Value} : v.tree.IsTable ↔ ∃ form span? entries, v = .table form span? entries := by
  cases v <;> simp [Value.tree, Tree.IsTable]

end Flowchart.Toml
