import Flowchart.Regex.Basic
import Flowchart.Rules.Value

/-!
Programs of rules. A rule has a pattern and an action: the action is run for each record that the pattern fits.
Names stand for values and tables, of the whole program or of a function that is being called.
-/

namespace Flowchart.Rules

/-- A name: of the whole program, or of the call of a function, by number. -/
inductive Name where
  | shared (n : Nat)
  | own (n : Nat)
deriving DecidableEq, Repr

/-- What numbers are calculated with. -/
inductive Operation where
  | add
  | subtract
  | multiply
  | divide
  | remainder
  | power
deriving DecidableEq, Repr

inductive Relation where
  | equal
  | different
  | less
  | atMost
  | greater
  | atLeast
deriving DecidableEq, Repr

/-- The functions that every program knows. -/
inductive Builtin where
  | length
  | substr
  | index
  | split
  | sub
  | gsub
  | search
  | sprintf
  | tolower
  | toupper
  | int
  | sqrt
  | exp
  | log
  | sin
  | cos
  | atan2
  | system
  | close
  | fflush
deriving DecidableEq, Repr

inductive Expr where
  | number (x : Float)
  | text (t : Text)
  /-- Whether an expression matches the record; where one is asked for, the expression itself. -/
  | regex (r : Regex)
  | name (n : Name)
  | element (table : Name) (keys : List Expr)
  | field (e : Expr)
  | assign (operation : Option Operation) (target value : Expr)
  /-- A number that is stepped up or down; the value is the one before, or the new one. -/
  | step (isUp isNew : Bool) (target : Expr)
  | negative (e : Expr)
  | positive (e : Expr)
  | not (e : Expr)
  | operate (o : Operation) (a b : Expr)
  | join (a b : Expr)
  | compare (r : Relation) (a b : Expr)
  | fits (isNegated : Bool) (a b : Expr)
  | within (keys : List Expr) (table : Name)
  | both (a b : Expr)
  | either (a b : Expr)
  | choose (condition a b : Expr)
  | call (function : Nat) (arguments : List Expr)
  | builtin (b : Builtin) (arguments : List Expr)
  /-- Reads a record of the input of the program into a target, or as the record. -/
  | getRecord (target : Option Expr)
  | getFromFile (path : Expr) (target : Option Expr)
  | getFromCommand (command : Expr) (target : Option Expr)
  /-- Values between brackets with commas between them. -/
  | row (es : List Expr)

/-- Whether something can be assigned to an expression. -/
def Expr.isTarget : Expr → Bool
  | name _ | element _ _ | field _ => true
  | _ => false

inductive Direction where
  | anew
  | append
  | command
deriving DecidableEq, Repr

inductive Stmt where
  | expr (e : Expr)
  | print (values : List Expr) (target : Option (Direction × Expr))
  | format (values : List Expr) (target : Option (Direction × Expr))
  | when (condition : Expr) (a : Stmt) (b : Option Stmt)
  | repeatWhile (condition : Expr) (body : Stmt)
  | repeatUntil (body : Stmt) (condition : Expr)
  | loop (start : Option Stmt) (condition : Option Expr) (step : Option Stmt) (body : Stmt)
  | forKeys (target table : Name) (body : Stmt)
  | block (body : List Stmt)
  | next
  | nextFile
  | exit (status : Option Expr)
  | return (value : Option Expr)
  | leave
  | continue
  | delete (table : Name) (keys : List Expr)
  | clear (table : Name)

inductive Pattern where
  | start
  | finish
  | always
  | when (e : Expr)
  /-- From a record that fits the first expression to one that fits the second one. -/
  | range (first last : Expr)

/-- A rule. Without an action the record is printed. -/
structure Rule where
  pattern : Pattern
  action : Option Stmt

/-- A function: which of its names are tables, and what it does. -/
structure Function where
  tables : List Bool
  body : Stmt

/-- A program: its rules, its functions, and the names that it knows. -/
structure Program where
  rules : List Rule
  functions : Array Function
  names : Array Text

/-- The names that every program knows, in the order of their numbers. -/
inductive Known where
  | NF
  | NR
  | FNR
  | FS
  | OFS
  | RS
  | ORS
  | FILENAME
  | SUBSEP
  | RSTART
  | RLENGTH
  | CONVFMT
  | OFMT
  | ENVIRON
  | ARGV
  | ARGC
deriving DecidableEq, Repr

def Known.number (k : Known) : Nat := k.ctorIdx

/-- The known names as they are written. -/
def knownNames : List String :=
  ["NF", "NR", "FNR", "FS", "OFS", "RS", "ORS", "FILENAME", "SUBSEP", "RSTART", "RLENGTH", "CONVFMT", "OFMT", "ENVIRON",
   "ARGV", "ARGC"]

/-- The functions that every program knows, by name, with how many arguments they take. -/
def builtins : List (String × Builtin × Nat × Nat) :=
  [("length", .length, 0, 1), ("substr", .substr, 2, 3), ("index", .index, 2, 2), ("split", .split, 2, 3), ("sub", .sub, 2, 3),
   ("gsub", .gsub, 2, 3), ("match", .search, 2, 2), ("sprintf", .sprintf, 1, 1000), ("tolower", .tolower, 1, 1),
   ("toupper", .toupper, 1, 1), ("int", .int, 1, 1), ("sqrt", .sqrt, 1, 1), ("exp", .exp, 1, 1), ("log", .log, 1, 1),
   ("sin", .sin, 1, 1), ("cos", .cos, 1, 1), ("atan2", .atan2, 2, 2),
   ("system", .system, 1, 1), ("close", .close, 1, 1), ("fflush", .fflush, 0, 1)]

end Flowchart.Rules
