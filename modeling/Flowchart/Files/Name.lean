import Flowchart.Text.Basic

/-!
The names in a path, as texts: the last one, the path of the directory before it, and the path of a name in a
directory. Nothing is looked up.
-/

namespace Flowchart.Files

/-- Drops slashes from the end of a path. -/
def dropSlashes (path : Text) : Text :=
  let kept := (path.reverse.dropWhile (· = '/')).reverse
  if kept = [] ∧ path ≠ [] then ['/'] else kept

def lastName (path : Text) : Text :=
  let path := dropSlashes path
  if path = ['/'] then path else ((Text.splitAt '/' path).getLast?).getD []

/-- The path of the directory that a path is in. -/
def directoryOf (path : Text) : Text :=
  let path := dropSlashes path
  if '/' ∈ path then
    if path = ['/'] then path else dropSlashes (path.take (path.length - (lastName path).length))
  else ['.']

/-- The path of a name in a directory. -/
def inDirectory (directory name : Text) : Text :=
  if directory.getLast? = some '/' then directory ++ name else directory ++ '/' :: name

/-- The path from a directory to a place, where both are told by the names on the way from the same start. -/
def wayBetween (directory place : List Text) : Text :=
  match directory, place with
  | d :: ds, p :: ps =>
    if d = p then wayBetween ds ps else ['/'].intercalate ((d :: ds).map (fun _ => ['.', '.']) ++ p :: ps)
  | [], [] => ['.']
  | ds, ps => ['/'].intercalate (ds.map (fun _ => ['.', '.']) ++ ps)

end Flowchart.Files
