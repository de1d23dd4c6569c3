import Flowchart.Chart.Attributes
import Flowchart.Source.Records

/-!
Charts. A chart lists styled nodes and edges in the order of their declarations and ends with a node that
says who made it, the *attribution*. Edges are not checked against the nodes.

`ofDecls` builds a chart from declarations and `ofSource` from a source text.
-/

namespace Flowchart

namespace Chart

/-- How the body of a node is drawn. -/
inductive Drawing where
  | filled
  | italic
deriving DecidableEq, Repr

def Drawing.name : Drawing → Text
  | filled => "filled".toList
  | italic => "italic".toList

/-- A node as it is drawn. -/
structure Node where
  id : Text
  label : Text
  shape : Shape
  drawing : Drawing
  color : Option Text
  fontColor : Option Text
deriving DecidableEq, Repr

structure Edge where
  source : Text
  target : Text
  label : Option Text
deriving DecidableEq, Repr

def attributionId : Text := "watermark".toList

def attributionLabel : Text := "Made by Mandeep Singh".toList

namespace Node

/-- A declared node in the style of its kind. -/
def styled (decl : Source.NodeDecl) : Node :=
  let style := NodeStyle.ofKind decl.kind
  { id := decl.id, label := decl.label, shape := style.shape, drawing := .filled
    color := some style.fill, fontColor := none }

/-- The node that says who made the chart. -/
def attribution : Node :=
  { id := attributionId, label := attributionLabel, shape := .plaintext, drawing := .italic
    color := none, fontColor := some "gray".toList }

/-- Whether a node is an attribution: it has the id and is bare text. -/
def isAttribution (n : Node) : Bool := n.id = attributionId && n.shape = .plaintext

@[simp] theorem isAttribution_attribution : attribution.isAttribution = true := by decide

@[simp] theorem isAttribution_styled (decl : Source.NodeDecl) : (styled decl).isAttribution = false := by
  simp [isAttribution, styled, NodeStyle.shape_ofKind_ne_plaintext]

end Node

/-- A declared edge, its condition as the label. -/
def Edge.ofDecl (decl : Source.EdgeDecl) : Edge :=
  { source := decl.source, target := decl.target, label := decl.condition }

end Chart

/-- A flowchart that is ready to be drawn. -/
structure Chart where
  attributes : Attributes
  nodes : List Chart.Node
  edges : List Chart.Edge
deriving DecidableEq, Repr

namespace Chart

/-- The chart of some declarations. -/
def ofDecls (attributes : Attributes) (nodes : List Source.NodeDecl) (edges : List Source.EdgeDecl) : Chart :=
  { attributes, nodes := nodes.map Node.styled ++ [Node.attribution], edges := edges.map Edge.ofDecl }

/-- The chart of a source text. -/
def ofSource (attributes : Attributes) (source : Text) : Chart :=
  let r := Source.records source
  ofDecls attributes r.nodes r.edges

def node? (c : Chart) (id : Text) : Option Node := c.nodes.find? fun n => n.id = id

/-- The nodes other than attributions. -/
def flowNodes (c : Chart) : List Node := c.nodes.filter fun n => !n.isAttribution

def attributions (c : Chart) : List Node := c.nodes.filter Node.isAttribution

end Chart

end Flowchart
