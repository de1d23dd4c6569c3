import Flowchart.Dot.Reader

/-!
What a DOT document draws. Its statements take effect in their order. A node that is named for the first time
gets the attributes that hold for all nodes at that point; a statement about a node gives it attributes, and
the later of two values of one attribute counts. An edge makes the nodes at its ends if they are missing.
-/

namespace Flowchart.Dot

/-- Gives an attribute a value, in place of the one it had. -/
def setAttribute (a : Attribute) : List Attribute → List Attribute
  | [] => [a]
  | b :: more => if b.name = a.name then a :: more else b :: setAttribute a more

/-- Gives attributes their values, in the order of a list. -/
def setAttributes (old new : List Attribute) : List Attribute := new.foldl (fun as a => setAttribute a as) old

def valueOf? (name : Text) (attributes : List Attribute) : Option Text :=
  (attributes.find? fun a => a.name = name).map Attribute.value

namespace Picture

structure Node where
  id : Text
  attributes : List Attribute
deriving DecidableEq, Repr

structure Edge where
  source : Text
  target : Text
  attributes : List Attribute
deriving DecidableEq, Repr

end Picture

/-- What is drawn, and what holds for the nodes to come. -/
structure Picture where
  attributes : List Attribute := []
  nodeDefaults : List Attribute := []
  nodes : List Picture.Node := []
  edges : List Picture.Edge := []
deriving DecidableEq, Repr

namespace Picture

def node? (p : Picture) (id : Text) : Option Node := p.nodes.find? fun n => n.id = id

/-- Makes the node of an id, if it is missing. -/
def name (p : Picture) (id : Text) : Picture :=
  if (p.node? id).isSome then p else { p with nodes := p.nodes ++ [⟨id, p.nodeDefaults⟩] }

/-- Gives the node of an id some attributes. -/
def describe (p : Picture) (id : Text) (attributes : List Attribute) : Picture :=
  { p with
    nodes := p.nodes.map fun n =>
      if n.id = id then { n with attributes := setAttributes n.attributes attributes } else n }

/-- The effect of a statement. -/
def add (p : Picture) : Statement → Picture
  | .graphDefaults attributes => { p with attributes := setAttributes p.attributes attributes }
  | .nodeDefaults attributes => { p with nodeDefaults := setAttributes p.nodeDefaults attributes }
  | .node id attributes => (p.name id).describe id attributes
  | .edge source target attributes =>
    let p := (p.name source).name target
    { p with edges := p.edges ++ [⟨source, target, attributes⟩] }

/-- What some statements draw. -/
def ofStatements (statements : List Statement) : Picture := statements.foldl add {}

def ofDocument? (document : Text) : Option Picture := (read? document).map ofStatements

end Picture

end Flowchart.Dot
