import Flowchart.Files.Fault
import Flowchart.Text.Utf8

/-!
The tree of files that a program works on. A place is told by the way to it: up from the working directory
or down from the root. Entries are found by place, so that `get?` is all there is to know of where things
stand; `get?_put` and `get?_erase` say what a change does to it.

What a file holds is kept apart from its place, under a number, since one file may stand at several places.
`fileNumbered_putFile` says what a change does to the files.

What the system refuses is no matter of what stands in the tree alone: rights, quotas and the state of a disk
decide about it too. All of that is taken together as the `Limits` of a tree, about which nothing is assumed. The
mode of a file is read where a program is started and where modes are changed or shown.

Names and paths are Unicode texts. A name of bytes that are no UTF-8 does not occur.
-/

namespace Flowchart.Files

/-- Where the way to a place starts. -/
inductive Origin where
  | root
  /-- Some levels above the working directory. -/
  | above (levels : Nat)
deriving DecidableEq, Repr

/-- A place in the tree: the names on the way down from its origin. -/
structure Place where
  origin : Origin
  names : List Text
deriving DecidableEq, Repr

namespace Place

def here : Place := ⟨.above 0, []⟩

def root : Place := ⟨.root, []⟩

def child (p : Place) (name : Text) : Place := { p with names := p.names ++ [name] }

/-- The directory that holds a place; the root holds itself. -/
def parent (p : Place) : Place :=
  match p.names, p.origin with
  | [], .root => p
  | [], .above levels => ⟨.above (levels + 1), []⟩
  | _ :: _, origin => ⟨origin, p.names.dropLast⟩

def path (p : Place) : Text :=
  match p.origin with
  | .root => '/' :: ['/'].intercalate p.names
  | .above levels => ['/'].intercalate (List.replicate levels ['.', '.'] ++ p.names)

end Place

/-! ### Files and entries -/

/-- What a file holds and what is known of it. -/
structure File where
  content : Bytes
  /-- Who may do what with the file, in groups of three bits. -/
  mode : Nat
  /-- When the content was written, in nanoseconds. -/
  written : Int
deriving DecidableEq, Repr

namespace File

/-- The mode of a file that is written first. -/
def usualMode : Nat := 0o644

/-- The mode of a program that is placed in a tree. -/
def programMode : Nat := 0o755

def isExecutable (f : File) : Bool := f.mode &&& 0o111 ≠ 0

end File

/-- What stands in the tree like a file and keeps nothing. -/
inductive Device where
  /-- Nothing is read from it. -/
  | null
  /-- Zeros are read from it without an end. -/
  | zeros
deriving DecidableEq, Repr

/-- What stands at a place. -/
inductive Entry where
  /-- The file of the given number. -/
  | file (number : Nat)
  | directory (mode : Nat)
  /-- A link to where a path leads from its directory. -/
  | link (target : Text)
  | device (d : Device)
deriving DecidableEq, Repr

/-- What may stop a write. -/
inductive Obstacle where
  /-- The file is not opened. -/
  | refused (fault : Fault)
  /-- The file is opened, which makes it or empties it, and takes so many bytes at most. -/
  | full (room : Nat) (fault : Fault)
deriving DecidableEq, Repr

/-- What the system refuses to do with what stands at a place. -/
structure Limits where
  reading? : Place → Option Fault := fun _ => none
  writing? : Place → Option Obstacle := fun _ => none
  removing? : Place → Option Fault := fun _ => none

/-- A tree of files. -/
structure Tree where
  entries : List (Place × Entry)
  /-- The files by number. -/
  files : List (Nat × File)
  /-- The time, in nanoseconds. -/
  time : Int
  /-- Whether names and paths are texts of octets. -/
  spread : Bool
  limits : Limits := {}

namespace Tree

/-- The mode of a directory that is made. -/
def directoryMode : Nat := 0o755

/-- The time at which a tree starts: the first second of the year 2026. -/
def startTime : Int := 1767225600 * Int.pow 10 9

/-- The time that passes with every change, in nanoseconds. -/
def tick : Int := Int.pow 10 6

/-- The tree with nothing in the working directory. -/
def empty : Tree := ⟨[], [], startTime, false, {}⟩

/-- The length of a name or a path in bytes. -/
def nameSize (t : Tree) (name : Text) : Nat := if t.spread then name.length else Text.byteSize name

/-- What stands at a place. The origins of places are directories. -/
def get? (t : Tree) (p : Place) : Option Entry :=
  if p.names = [] then some (.directory directoryMode) else (t.entries.find? fun e => e.1 = p).map Prod.snd

/-- Puts an entry at a place. -/
def put (t : Tree) (p : Place) (e : Entry) : Tree :=
  { t with entries := (p, e) :: t.entries.filter fun e => e.1 ≠ p }

/-- Takes the entry away from a place. -/
def erase (t : Tree) (p : Place) : Tree := { t with entries := t.entries.filter fun e => e.1 ≠ p }

/-- The file of a number; where there is none it is empty. -/
def fileNumbered (t : Tree) (n : Nat) : File := (t.files.lookup n).getD ⟨[], File.usualMode, startTime⟩

def putFile (t : Tree) (n : Nat) (f : File) : Tree :=
  { t with files := (n, f) :: t.files.filter fun g => g.1 ≠ n }

def fileAt? (t : Tree) (p : Place) : Option File :=
  match t.get? p with
  | some (.file n) => some (t.fileNumbered n)
  | _ => none

/-- A number that no file has and no entry speaks of. -/
def freshNumber (t : Tree) : Nat :=
  let spoken := t.entries.map fun e => match e.2 with
    | .file n => n
    | _ => 0
  (spoken ++ t.files.map Prod.fst).foldl max 0 + 1

/-- Writes what a file of a number holds. -/
def fill (t : Tree) (n : Nat) (content : Bytes) : Tree :=
  { t.putFile n { t.fileNumbered n with content, written := t.time } with time := t.time + tick }

/-- Puts a new file at a place. -/
def create (t : Tree) (p : Place) (content : Bytes) (mode : Nat) : Tree :=
  let n := t.freshNumber
  { (t.putFile n ⟨content, mode, t.time⟩).put p (.file n) with time := t.time + tick }

private theorem find?_filter_ne (entries : List (Place × Entry)) {p q : Place} (h : q ≠ p) :
    (entries.filter fun e => e.1 ≠ p).find? (fun e => e.1 = q) = entries.find? fun e => e.1 = q := by
  induction entries with
  | nil => rfl
  | cons e rest ih =>
    by_cases hp : e.1 = p
    · simp only [hp, ne_eq, not_true_eq_false, decide_false, Bool.false_eq_true, not_false_eq_true,
        List.filter_cons_of_neg, List.find?_cons]
      simp [Ne.symm h, ← ih]
    · by_cases hq : e.1 = q
      · simp [hq, h]
      · simpa [hp, hq] using ih

theorem get?_put (t : Tree) (p q : Place) (e : Entry) (hp : p.names ≠ []) :
    (t.put p e).get? q = if q = p then some e else t.get? q := by
  by_cases hq : q = p
  · subst hq
    simp [get?, put, hp]
  · by_cases hn : q.names = []
    · simp [get?, hn, hq]
    · simp only [get?, put, hn, hq, if_false]
      rw [List.find?_cons_of_neg (by simpa using Ne.symm hq), find?_filter_ne t.entries hq]

theorem get?_erase (t : Tree) (p q : Place) (hp : p.names ≠ []) :
    (t.erase p).get? q = if q = p then none else t.get? q := by
  by_cases hq : q = p
  · subst hq
    simp [get?, erase, hp]
  · by_cases hn : q.names = []
    · simp [get?, hn, hq]
    · simp only [get?, erase, hn, hq, if_false]
      rw [find?_filter_ne t.entries hq]

private theorem lookup_filter_ne (files : List (Nat × File)) {m n : Nat} (h : m ≠ n) :
    (files.filter fun g => g.1 ≠ n).lookup m = files.lookup m := by
  induction files with
  | nil => rfl
  | cons f rest ih =>
    obtain ⟨k, f⟩ := f
    by_cases hk : k = n
    · subst hk
      have : (m == k) = false := by simpa using h
      simpa [List.lookup_cons, this] using ih
    · simp only [ne_eq, hk, not_false_eq_true, decide_true, List.filter_cons_of_pos, List.lookup_cons]
      cases m == k with
      | false => simpa using ih
      | true => rfl

theorem fileNumbered_putFile (t : Tree) (m n : Nat) (f : File) :
    (t.putFile n f).fileNumbered m = if m = n then f else t.fileNumbered m := by
  by_cases h : m = n
  · subst h
    simp [fileNumbered, putFile]
  · have : (m == n) = false := by simpa using h
    simp only [fileNumbered, putFile, List.lookup_cons, this, h, if_false]
    rw [lookup_filter_ne t.files h]

@[simp] theorem get?_putFile (t : Tree) (n : Nat) (f : File) (p : Place) : (t.putFile n f).get? p = t.get? p := rfl

@[simp] theorem get?_fill (t : Tree) (n : Nat) (content : Bytes) (p : Place) :
    (t.fill n content).get? p = t.get? p := rfl

theorem fileNumbered_fill (t : Tree) (m n : Nat) (content : Bytes) :
    (t.fill n content).fileNumbered m =
      if m = n then { t.fileNumbered n with content, written := t.time } else t.fileNumbered m :=
  fileNumbered_putFile t m n _

end Tree

end Flowchart.Files
