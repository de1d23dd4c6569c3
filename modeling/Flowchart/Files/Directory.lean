import Flowchart.Files.Access
import Flowchart.Text.Octet

/-!
Directories and what stands below them: looking at a place, listing the names in a directory, making and
removing directories, and moving whatever stands at a place to another one.
-/

namespace Flowchart.Files.Tree

def isFile (t : Tree) (path : Text) : Bool :=
  match t.look path with
  | .ok (_, .file _) => true
  | _ => false

def isDirectory (t : Tree) (path : Text) : Bool :=
  match t.look path with
  | .ok (_, .directory _) => true
  | _ => false

/-- The way from a place to one below it. -/
def wayBelow? (p q : Place) : Option (List Text) :=
  if p.origin = q.origin then
    match p.names.isPrefixOf? q.names with
    | some [] => none
    | way? => way?
  else none

/-- The names in a directory, in their order. -/
def names (t : Tree) (p : Place) : List Text :=
  (t.entries.filterMap fun (q, _) =>
    match wayBelow? p q with
    | some [name] => some name
    | _ => none).mergeSort Text.precedes

/-- Whether anything stands in a directory. -/
def holdsAny (t : Tree) (p : Place) : Bool := t.entries.any fun (q, _) => (wayBelow? p q).isSome

/-- Takes away what stands at a place and everything below it. -/
def clear (t : Tree) (p : Place) : Tree :=
  { t with entries := t.entries.filter fun (q, _) => q ≠ p && (wayBelow? p q).isNone }

/-- Makes one directory. -/
def addDirectory (t : Tree) (path : Text) (mode : Nat) : Except Fault Tree := do
  let place ← t.locate path false
  if (t.get? place).isSome then .error .alreadyThere else .ok (t.put place (.directory mode))

/-- Removes a directory that is empty. -/
def removeDirectory (t : Tree) (path : Text) : Except Fault Tree := do
  let place ← t.locate path false
  match t.get? place with
  | none => .error .notFound
  | some (.directory _) =>
    if (pathNames path).getLast? = some ['.'] then .error .invalid
    else if t.holdsAny place ∨ place.names = [] then .error .notEmpty
    else .ok (t.erase place)
  | some _ => .error .notDirectory

/-- Moves everything below a place, and the entry at it, to another place. -/
def graft (t : Tree) (p q : Place) : Tree :=
  { t with
    entries := (t.clear q).entries.map fun (r, e) =>
      if r = p then (q, e)
      else match wayBelow? p r with
        | some way => ({ q with names := q.names ++ way }, e)
        | none => (r, e) }

/-- Moves what a path leads to to another path. A file may take the place of a file and a directory that of
an empty directory; links are moved themselves. -/
def rename (t : Tree) (source target : Text) : Except Fault Tree := do
  let (p, entry) ← t.look source false
  let q ← t.locate target false
  if p = q ∨ (t.get? q = some entry ∧ t.fileAt? p ≠ none) then .ok t
  else match entry, t.get? q with
    | .directory _, some (.directory _) | .directory _, none =>
      if (wayBelow? p q).isSome then .error .invalid
      else if t.holdsAny q then .error .notEmpty
      else .ok (t.graft p q)
    | .directory _, some _ => .error .notDirectory
    | _, some (.directory _) => .error .isDirectory
    | _, _ => if endsInSlash target then .error .notDirectory else .ok (t.graft p q)

/-! ### Listing -/

/-- Everything in a directory and below it, under a path, with the content of files. Links are followed. -/
def listBelow (t : Tree) : Nat → Place → Text → List (Text × Option Bytes)
  | 0, _, _ => []
  | depth + 1, directory, path =>
    (t.names directory).flatMap fun name =>
      let path := path ++ name
      let place := (t.follow true (maxLinks + 1) directory [name]).toOption.getD (directory.child name)
      match t.get? place with
      | some (.file n) => [(path, some (t.fileNumbered n).content)]
      | some (.directory _) => (path, none) :: t.listBelow depth place (path ++ ['/'])
      | _ => [(path, some [])]

/-- Everything below the working directory with the content of files, in the order of paths. -/
def listing (t : Tree) : List (Text × Option Bytes) :=
  (t.listBelow 64 .here []).mergeSort fun a b => Text.precedes a.1 b.1

/-! ### Names as octets -/

/-- The tree with other names. -/
def renameAll (f : Text → Text) (t : Tree) : Tree :=
  { t with
    entries := t.entries.map fun (p, e) =>
      ({ p with names := p.names.map f }, match e with
        | .link target => .link (f target)
        | e => e) }

/-- The tree with its names taken apart into octets. -/
def spreadNames (t : Tree) : Tree := { t.renameAll Text.spread with spread := true }

/-- The tree with its names put together from octets. -/
def gatherNames (t : Tree) : Tree := { t.renameAll Text.gather with spread := false }

end Flowchart.Files.Tree
