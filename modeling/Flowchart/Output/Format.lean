import Flowchart.Text.Basic

/-!
Output formats. An image format is one that a rendering engine makes; the page format is an image together
with a page that shows it.
-/

namespace Flowchart

/-- The formats that an engine makes. -/
inductive ImageFormat where
  | png
  | svg
  | pdf
deriving DecidableEq, Repr

/-- The formats that a chart can be saved in. -/
inductive OutputFormat where
  | image (format : ImageFormat)
  /-- An image and a page that shows it. -/
  | page
deriving DecidableEq, Repr

def ImageFormat.extension : ImageFormat → Text
  | png => "png".toList
  | svg => "svg".toList
  | pdf => "pdf".toList

namespace OutputFormat

/-- The file extension of an output format, which is its name too. -/
def extension : OutputFormat → Text
  | image format => format.extension
  | page => "html".toList

/-- The image that has to be made for an output format. -/
def imageFormat : OutputFormat → ImageFormat
  | image format => format
  | page => .png

def all : List OutputFormat := [.image .png, .image .svg, .image .pdf, .page]

/-- The output format of a name, in upper or lower case. -/
def ofName? (name : Text) : Option OutputFormat := all.find? fun f => f.extension = name.map Char.toLower

/-- What is said of a name that no format has. -/
def unknownMessage (name : Text) : Text :=
  "unknown output format '".toList ++ name ++ "' (expected png, svg, pdf or html)".toList

theorem mem_all (f : OutputFormat) : f ∈ all := by
  rcases f with (_ | _ | _) | _ <;> simp [all]

theorem ofName?_eq_some {name : Text} {f : OutputFormat} :
    ofName? name = some f ↔ f.extension = name.map Char.toLower := by
  constructor
  · intro h
    simpa using List.find?_some h
  · intro h
    unfold ofName?
    rw [← h]
    rcases f with (_ | _ | _) | _ <;> decide

end OutputFormat

end Flowchart
