import Flowchart.Chart.Basic
import Flowchart.Dot.Identifier
import Flowchart.Text.Digit

/-!
DOT documents. A document is a list of statements, and a chart becomes one statement for its own
attributes, one for what its nodes share, one for each node, one for each edge, and one for each
attribution at the end. Every name and value in a statement is printed as one identifier.
-/

namespace Flowchart.Dot

structure Attribute where
  name : Text
  value : Text
deriving DecidableEq, Repr

/-- A statement of a document. -/
inductive Statement where
  /-- What holds for the whole graph. -/
  | graphDefaults (attributes : List Attribute)
  /-- What holds for every node that does not say otherwise. -/
  | nodeDefaults (attributes : List Attribute)
  /-- A node. -/
  | node (id : Text) (attributes : List Attribute)
  /-- An edge. -/
  | edge (source target : Text) (attributes : List Attribute)
deriving DecidableEq, Repr

def Attribute.print (a : Attribute) : Text := quote a.name ++ '=' :: quote a.value

/-- A list of attributes in brackets. -/
def printAttributes (attributes : List Attribute) : Text :=
  '[' :: ([' '].intercalate (attributes.map Attribute.print) ++ [']'])

/-- A statement as it is written. An edge without attributes has no brackets. -/
def Statement.print : Statement → Text
  | graphDefaults attributes => "graph ".toList ++ printAttributes attributes
  | nodeDefaults attributes => "node ".toList ++ printAttributes attributes
  | node id attributes => quote id ++ ' ' :: printAttributes attributes
  | edge source target [] => quote source ++ " -> ".toList ++ quote target
  | edge source target (a :: more) =>
    quote source ++ " -> ".toList ++ quote target ++ ' ' :: printAttributes (a :: more)

/-- A document with the given statements, one to a line. -/
def printDocument (statements : List Statement) : Text :=
  "digraph G \x7b\n".toList ++ statements.flatMap (fun s => "    ".toList ++ s.print ++ ['\n']) ++ "\x7d\n".toList

def nodeStatement (n : Chart.Node) : Statement :=
  .node n.id
    ([⟨"label".toList, n.label⟩, ⟨"shape".toList, n.shape.name⟩, ⟨"style".toList, n.drawing.name⟩]
      ++ (n.color.map (⟨"color".toList, ·⟩)).toList ++ (n.fontColor.map (⟨"fontcolor".toList, ·⟩)).toList)

def edgeStatement (e : Chart.Edge) : Statement :=
  .edge e.source e.target (e.label.map (⟨"label".toList, ·⟩)).toList

def statements (c : Chart) : List Statement :=
  .graphDefaults [⟨"rankdir".toList, c.attributes.direction.name⟩]
    :: .nodeDefaults [⟨"fontname".toList, c.attributes.fontName⟩,
         ⟨"fontsize".toList, Text.decimal c.attributes.fontSize.toNat⟩,
         ⟨"shape".toList, c.attributes.nodeShape.name⟩]
    :: (c.flowNodes.map nodeStatement ++ c.edges.map edgeStatement ++ c.attributions.map nodeStatement)

/-- The document for a chart. -/
def document (c : Chart) : Text := printDocument (statements c)

end Flowchart.Dot
