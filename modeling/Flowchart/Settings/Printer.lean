import Flowchart.Settings.Basic
import Flowchart.Toml.Quoted

/-!
Settings as a document. Every setting is written, in the section that it belongs to, whether it has its
default value or not.
-/

namespace Flowchart.Settings

/-- A line that gives a key a value. -/
def printEntry (key value : Text) : Text := key ++ " = ".toList ++ value ++ ['\n']

/-- A line that opens a section, with an empty line before it. -/
def printHeader (name : Text) : Text := '\n' :: '[' :: (name ++ [']', '\n'])

def printFlag (b : Bool) : Text := if b then "true".toList else "false".toList

def document (s : Settings) : Text :=
  printHeader "graph".toList
    ++ printEntry "rankdir".toList (Toml.quote s.chart.direction.name)
    ++ printEntry "fontname".toList (Toml.quote s.chart.fontName)
    ++ printEntry "fontsize".toList (Text.decimal s.chart.fontSize.toNat)
    ++ printEntry "node_shape".toList (Toml.quote s.chart.nodeShape.name)
    ++ printHeader "engine".toList
    ++ printEntry "program".toList (Toml.quote s.engine.program)
    ++ printEntry "cleanup".toList (printFlag s.engine.cleanup)

/-- The document for the default settings. -/
def defaultDocument : Text := document {}

end Flowchart.Settings
