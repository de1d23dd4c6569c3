import Flowchart.Chart.Basic

/-!
Findings in a source text. Making a chart accepts any text; `findings` reports what its author may not have
meant: a line that is skipped although something stands on it, a node that is declared again or has the id
of the attribution, and an edge between nodes that no line declares. Findings come in the order of the
lines they are about.
-/

namespace Flowchart

open Source

/-- What may be wrong with a line. -/
inductive Problem where
  /-- The line is no declaration of its section. -/
  | skipped (part : Section)
  /-- The node has the id of the attribution. -/
  | reserved (id : Text)
  /-- A line before declares a node of the same id. -/
  | duplicate (id : Text)
  /-- No line declares this end of the edge. -/
  | dangling (id : Text)
deriving DecidableEq, Repr

namespace Problem

def category : Problem → Text
  | skipped _ => "skipped".toList
  | reserved _ => "reserved".toList
  | duplicate _ => "duplicate".toList
  | dangling _ => "dangling".toList

def message : Problem → Text
  | skipped part => "line does not match the ".toList ++ part.name ++ " pattern and will be ignored".toList
  | reserved id => "node id '".toList ++ id ++ "' is also used by the attribution node".toList
  | duplicate id => "node '".toList ++ id ++ "' is declared more than once".toList
  | dangling id => "edge refers to undeclared node '".toList ++ id ++ "'".toList

end Problem

/-- A problem and the line it is about. -/
structure Finding where
  problem : Problem
  line : Line
deriving DecidableEq, Repr

namespace Finding

/-- A finding in one line. -/
def summary (f : Finding) : Text :=
  '[' :: (f.problem.category ++ "] ".toList ++ f.problem.message)

/-- The finding on a line that is no declaration: none if nothing stands on it. -/
def ofRejected (part : Section) (line : Line) : List Finding :=
  if Text.isAllBlank line.text then [] else [⟨.skipped part, line⟩]

/-- The findings on a line that declares a node, where `seen` are the ids declared before it. -/
def ofNode (seen : List Text) (line : Line) (id : Text) : List Finding :=
  (if id = Chart.attributionId then [⟨.reserved id, line⟩] else []) ++
    (if id ∈ seen then [⟨.duplicate id, line⟩] else [])

/-- The findings on one end of an edge, where `declared` are the ids of all nodes. -/
def ofEnd (declared : List Text) (line : Line) (id : Text) : List Finding :=
  if id ∈ declared then [] else [⟨.dangling id, line⟩]

/-- The findings on the lines of the section of nodes and the ids that are declared when it ends; `seen`
are the ids declared before. -/
def inNodes (seen : List Text) : List Line → List Finding × List Text
  | [] => ([], seen)
  | line :: more =>
    match NodeDecl.ofLine? line.text with
    | none =>
      let (found, declared) := inNodes seen more
      (ofRejected .node line ++ found, declared)
    | some decl =>
      let (found, declared) := inNodes (if decl.id ∈ seen then seen else decl.id :: seen) more
      (ofNode seen line decl.id ++ found, declared)

/-- The findings on the lines of the section of edges. -/
def inEdges (declared : List Text) : List Line → List Finding
  | [] => []
  | line :: more =>
    match EdgeDecl.ofLine? line.text with
    | none => ofRejected .edge line ++ inEdges declared more
    | some decl =>
      ofEnd declared line decl.source ++ ofEnd declared line decl.target ++ inEdges declared more

end Finding

def findings (source : Text) : List Finding :=
  let s := sections source
  let (found, declared) := Finding.inNodes [] s.nodeLines
  found ++ Finding.inEdges declared s.edgeLines

end Flowchart
