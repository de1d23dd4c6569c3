import Flowchart.Source.Declaration

/-!
Declarations as source text. A declaration takes one line, and an empty line stands between nodes and edges
if there are edges. A blank stands between parentheses that would be empty, since empty parentheses are no
condition.
-/

namespace Flowchart.Source

def NodeDecl.print (d : NodeDecl) : Text := d.id ++ '=' :: '>' :: (d.kind.token ++ ':' :: ' ' :: d.label)

def printCondition : Option Text → Text
  | none => []
  | some [] => ['(', ' ', ')']
  | some condition => '(' :: (condition ++ [')'])

def EdgeDecl.print (d : EdgeDecl) : Text := d.source ++ printCondition d.condition ++ '-' :: '>' :: d.target

/-- The source text of some declarations. -/
def print (nodes : List NodeDecl) (edges : List EdgeDecl) : Text :=
  ['\n'].intercalate
    (nodes.map NodeDecl.print ++ if edges = [] then [] else [] :: edges.map EdgeDecl.print)

end Flowchart.Source
