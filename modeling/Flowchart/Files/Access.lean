import Flowchart.Files.Tree
import Flowchart.Text.Blank

/-!
Access to files by path. A path is followed name by name from the working directory or the root; every step
needs a directory to start from, and where a link stands the way goes on along its target.

Writing makes the file or replaces what it holds; it never makes a directory. It has two parts. A file that cannot
be opened stays as it is, and so does the tree; a file that is opened is empty, and if the system takes no more
bytes before the end then only the first of them are in it. So `write` gives a tree beside its result. Reading and
removing change nothing if they are refused.
-/

namespace Flowchart.Files

open Text

/-- The greatest length of a name, in bytes. -/
def maxName : Nat := 255

/-- The greatest length of a path, in bytes. -/
def maxPath : Nat := 4095

/-- How many links may stand on the way to a place. -/
def maxLinks : Nat := 40

def pathNames (path : Text) : List Text := (Text.splitAt '/' path).filter fun name => name ≠ []

/-- Whether a path ends in a name that could be a file, and not in a slash or in dots. -/
def endsInName (path : Text) : Bool :=
  match (Text.splitAt '/' path).getLast? with
  | none => false
  | some name => name ≠ [] && name ≠ ['.'] && name ≠ ['.', '.']

def endsInSlash (path : Text) : Bool := path.getLast? = some '/'

/-- Where a path starts that is followed from a directory. -/
def startOf (directory : Place) (path : Text) : Place := if path.head? = some '/' then .root else directory

/-- How far a way leads without following a link. -/
inductive Walk where
  | arrived (p : Place)
  /-- A link stands in a directory on the way, with the names behind it. -/
  | link (directory : Place) (target : Text) (rest : List Text)

namespace Tree

/-- One step from a directory. -/
def step (t : Tree) (here : Place) (name : Text) : Except Fault Place :=
  match t.get? here with
  | none => .error .notFound
  | some (.directory _) =>
    if name = ['.'] then .ok here
    else if name = ['.', '.'] then .ok here.parent
    else if maxName < t.nameSize name then .error .nameTooLong
    else .ok (here.child name)
  | some _ => .error .notDirectory

/-- Goes down some names up to a link. With `last` a link that the last name is counts too. -/
def walk (t : Tree) (last : Bool) (here : Place) : List Text → Except Fault Walk
  | [] => .ok (.arrived here)
  | name :: rest => do
    let next ← t.step here name
    match t.get? next with
    | some (.link target) =>
      if rest = [] ∧ last = false then return .arrived next else return .link here target rest
    | _ => t.walk last next rest

/-- The place that names lead to, along some links at most. -/
def follow (t : Tree) (last : Bool) : Nat → Place → List Text → Except Fault Place
  | 0, _, _ => .error .tooManyLinks
  | links + 1, here, names => do
    match ← t.walk last here names with
    | .arrived p => return p
    | .link directory target rest =>
      if target = [] then .error .notFound
      else t.follow last links (startOf directory target) (pathNames target ++ rest)

/-- The place that a path leads to. There need not be anything there, but there is a directory before it. -/
def locate (t : Tree) (path : Text) (last : Bool := true) : Except Fault Place :=
  if '\x00' ∈ path then .error .nullInPath
  else if path = [] then .error .notFound
  else if maxPath < t.nameSize path then .error .nameTooLong
  else t.follow (last || endsInSlash path) (maxLinks + 1) (startOf .here path) (pathNames path)

/-- What a path leads to. Without `last` a link at its end is not followed. -/
def look (t : Tree) (path : Text) (last : Bool := true) : Except Fault (Place × Entry) := do
  let place ← t.locate path last
  match t.get? place with
  | none => .error .notFound
  | some (.directory mode) => .ok (place, .directory mode)
  | some entry => if endsInSlash path then .error .notDirectory else .ok (place, entry)

/-- The place of the file that is written at a path. There need not be anything there. -/
def target (t : Tree) (path : Text) : Except Fault Place := do
  let place ← t.locate path
  if endsInName path then
    match t.get? place with
    | some (.directory _) => .error .isDirectory
    | some (.link _) => .error .tooManyLinks
    | some (.file _) | some (.device _) | none => .ok place
  else .error .isDirectory

/-- A file that is open for writing: where it is, and how many bytes it takes at most before which fault. -/
structure Opened where
  place : Place
  room? : Option (Nat × Fault)
deriving DecidableEq, Repr

/-- Opens the file at a path for writing. -/
def opened (t : Tree) (path : Text) : Except Fault Opened := do
  let place ← t.target path
  match t.limits.writing? place with
  | none => .ok ⟨place, none⟩
  | some (.full room fault) => .ok ⟨place, some (room, fault)⟩
  | some (.refused fault) => .error fault

/-- Leaves a content at a place, in the file that stands there or else in a new one. A device keeps nothing. -/
def store (t : Tree) (p : Place) (content : Bytes) : Tree :=
  match t.get? p with
  | some (.file n) => t.fill n content
  | some (.device _) => t
  | _ => t.create p content File.usualMode

def write (t : Tree) (path : Text) (content : Bytes) : Except Fault Unit × Tree :=
  match t.opened path with
  | .error fault => (.error fault, t)
  | .ok ⟨place, none⟩ => (.ok (), t.store place content)
  | .ok ⟨place, some (room, fault)⟩ =>
    if content.length ≤ room then (.ok (), t.store place content)
    else (.error fault, t.store place (content.take room))

/-- The number of the file that a path leads to. -/
def fileNumber (t : Tree) (path : Text) : Except Fault Nat := do
  match ← t.look path with
  | (_, .file n) => .ok n
  | (_, .directory _) => .error .isDirectory
  | (_, .device _) | (_, .link _) => .error .invalid

def read (t : Tree) (path : Text) : Except Fault Bytes := do
  let (place, entry) ← t.look path
  match t.limits.reading? place, entry with
  | some fault, _ => .error fault
  | none, .file n => .ok (t.fileNumbered n).content
  | none, .directory _ => .error .isDirectory
  | none, .device _ => .ok []
  | none, .link _ => .error .tooManyLinks

def readText (t : Tree) (path : Text) : Except Fault Text := do
  match decode? (← t.read path) with
  | some text => .ok text
  | none => .error .notUtf8

/-- Removes a file from its place; a link is not followed. -/
def remove (t : Tree) (path : Text) : Except Fault Tree := do
  match ← t.look path false with
  | (_, .directory _) => .error .isDirectory
  | (place, _) =>
    match t.limits.removing? place with
    | some fault => .error fault
    | none => .ok (t.erase place)

def setMode (t : Tree) (n mode : Nat) : Tree := t.putFile n { t.fileNumbered n with mode }

/-- Makes the directories on the way down some names. -/
def makeWay (t : Tree) (here : Place) : List Text → Except Fault Tree
  | [] => .ok t
  | name :: more => do
    let place ← t.follow true (maxLinks + 1) here [name]
    match t.get? place with
    | none => (t.put place (.directory directoryMode)).makeWay place more
    | some (.directory _) => t.makeWay place more
    | some _ => .error .notDirectory

/-- Makes a directory and those that it stands in. -/
def makeDirectory (t : Tree) (path : Text) : Except Fault Tree := t.makeWay (startOf .here path) (pathNames path)

/-- Places a file in the tree together with the directories it stands in; a program may be started then. -/
def place (t : Tree) (path : Text) (content : Bytes) (program : Bool) : Except Fault Tree := do
  let t ← t.makeWay (startOf .here path) (pathNames path).dropLast
  match t.write path content with
  | (.error fault, _) => .error fault
  | (.ok (), t) => if program then return t.setMode (← t.fileNumber path) File.programMode else return t

end Tree

end Flowchart.Files
