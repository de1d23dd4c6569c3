import Flowchart.Files.Directory

/-!
Running processes. A process works on a tree of files from a directory and has descriptors, each of which
leads to a stream; processes that run one after the other share the tree and the streams. All texts here are
texts of octets.

What one process writes for another one to read is kept until the writer is done. A writer that would go on
for ever is cut short when there is no more room, and it is noted when the reader misses what follows.
-/

namespace Flowchart

open Files

/-- Whether what is to be read is all there is. -/
inductive Supply where
  | whole
  /-- The writer has been cut short. -/
  | cut
  /-- The writer has been cut short, and the reader has come to the end. -/
  | missed
deriving DecidableEq, Repr

inductive Stream where
  /-- What has been written, the last part first, and how much room is left if there is a bound. Writing
  more than that makes the stream overflow. -/
  | sink (parts : List Bytes) (room : Option Nat) (overflows : Bool)
  /-- What is left to be read. -/
  | source (left : Bytes) (supply : Supply)
  /-- A file, and where it is read or written next. -/
  | file (number : Nat) (position : Nat) (append : Bool)
  /-- A directory, of which nothing is read. -/
  | directory
  | device (d : Device)

/-- A stream that nobody reads, with room for everything. -/
def Stream.store : Stream := .sink [] none false

/-- What processes share: the files, the streams, and the signals that have been sent and not yet taken. -/
structure World where
  tree : Tree
  streams : Array Stream
  /-- The processes that run, by number, the last one first. -/
  running : List Nat
  /-- The number of the next process. -/
  next : Nat
  /-- Signals, and the processes that they are sent to. -/
  signals : List (Nat × Nat)
  /-- Whether something has been written that there is no reader for. -/
  burst : Bool

/-- A process: what it shares with others, the way to its directory with a slash behind it, the streams that
its descriptors lead to, and what the modes of files it makes leave out. -/
structure Process where
  world : World
  directory : Text
  descriptors : List (Nat × Nat)
  mask : Nat := 0o022

namespace World

def stream (w : World) (n : Nat) : Stream := w.streams.getD n (.device .null)

def setStream (w : World) (n : Nat) (s : Stream) : World := { w with streams := w.streams.setIfInBounds n s }

/-- Adds a stream and gives its number. -/
def addStream (w : World) (s : Stream) : World × Nat := ({ w with streams := w.streams.push s }, w.streams.size)

/-- What has been written to a stream that nobody reads. -/
def written (w : World) (n : Nat) : Bytes :=
  match w.stream n with
  | .sink parts _ _ => parts.reverse.flatten
  | _ => []

/-- Whether a stream that nobody reads has overflowed. -/
def overflows (w : World) (n : Nat) : Bool :=
  match w.stream n with
  | .sink _ _ overflows => overflows
  | _ => false

/-- Whether a reader has missed what a writer would have written to a stream. -/
def misses (w : World) (n : Nat) : Bool :=
  match w.stream n with
  | .source _ .missed => true
  | _ => false

/-- Puts bytes over a content from a position on; a gap before them is filled with zeros. -/
def overwrite (content : Bytes) (position : Nat) (b : Bytes) : Bytes :=
  content.take position ++ List.replicate (position - content.length) 0 ++ b
    ++ content.drop (position + b.length)

def write (w : World) (n : Nat) (b : Bytes) : World :=
  if b = [] then w
  else match w.stream n with
    | .sink parts none overflows => w.setStream n (.sink (b :: parts) none overflows)
    | .sink parts (some room) overflows =>
      if b.length ≤ room then w.setStream n (.sink (b :: parts) (some (room - b.length)) overflows)
      else { w.setStream n (.sink (b.take room :: parts) (some 0) true) with burst := true }
    | .file number position append =>
      let content := (w.tree.fileNumbered number).content
      let start := if append then content.length else position
      { w.setStream n (.file number (start + b.length) append) with
        tree := w.tree.fill number (overwrite content start b) }
    | _ => w

/-- How many zeros are read at most at once. -/
def maxZeros : Nat := Nat.pow 2 17

/-- What is left to be read from a stream. -/
def left (w : World) (n : Nat) : Bytes :=
  match w.stream n with
  | .source left _ => left
  | .file number position _ => (w.tree.fileNumbered number).content.drop position
  | .device .zeros => List.replicate maxZeros 0
  | _ => []

/-- Reads at most so many bytes from a stream. -/
def read (w : World) (n count : Nat) : World × Bytes :=
  match w.stream n with
  | .source left supply =>
    let found := left.take count
    let supply := if supply = .cut ∧ found.length < count then .missed else supply
    (w.setStream n (.source (left.drop count) supply), found)
  | .file number position append =>
    let found := ((w.tree.fileNumbered number).content.drop position).take count
    (w.setStream n (.file number (position + found.length) append), found)
  | .device .zeros => (w, List.replicate (min count maxZeros) 0)
  | _ => (w, [])

/-- Reads all that is left of a stream. -/
def readAll (w : World) (n : Nat) : World × Bytes := w.read n ((w.left n).length + 1)

/-- Starts a process and gives its number. -/
def start (w : World) : World × Nat := ({ w with running := w.next :: w.running, next := w.next + 1 }, w.next)

def finish (w : World) (process : Nat) : World := { w with running := w.running.filter (· ≠ process) }

/-- Sends a signal to a process, if it runs. -/
def send? (w : World) (process signal : Nat) : Option World :=
  if process ∈ w.running then
    some (if signal = 0 then w else { w with signals := w.signals ++ [(process, signal)] })
  else none

/-- Takes the signals that have been sent to a process. -/
def takeSignals (w : World) (process : Nat) : World × List Nat :=
  let (mine, others) := w.signals.partition fun s => s.1 = process
  ({ w with signals := others }, mine.map Prod.snd)

end World

namespace Process

/-- The path from where the tree starts. -/
def path (p : Process) (t : Text) : Text :=
  if t = [] ∨ t.head? = some '/' then t else p.directory ++ t

def tree (p : Process) : Tree := p.world.tree

def setTree (p : Process) (t : Tree) : Process := { p with world := { p.world with tree := t } }

def look (p : Process) (path : Text) (last : Bool := true) : Except Fault (Place × Entry) :=
  p.tree.look (p.path path) last

/-- The mode of what the process makes. -/
def modeFor (p : Process) (mode : Nat) : Nat := mode &&& (0o777 ^^^ (p.mask &&& 0o777))

/-- The mode of the files that the process makes. -/
def fileMode (p : Process) : Nat := p.modeFor 0o666

/-- The mode of the directories that the process makes. -/
def directoryMode (p : Process) : Nat := p.modeFor 0o777

def stream? (p : Process) (descriptor : Nat) : Option Nat := p.descriptors.lookup descriptor

/-- Lets a descriptor lead to a stream. -/
def attach (p : Process) (descriptor stream : Nat) : Process :=
  { p with descriptors := (descriptor, stream) :: p.descriptors.filter (·.1 ≠ descriptor) }

def close (p : Process) (descriptor : Nat) : Process :=
  { p with descriptors := p.descriptors.filter (·.1 ≠ descriptor) }

/-- Writes bytes to a descriptor; they are lost if it is closed. -/
def writeBytes (p : Process) (descriptor : Nat) (b : Bytes) : Process :=
  match p.stream? descriptor with
  | some n => { p with world := p.world.write n b }
  | none => p

def write (p : Process) (descriptor : Nat) (t : Text) : Process := p.writeBytes descriptor (Text.octets t)

/-- What is left to be read from a descriptor. -/
def left (p : Process) (descriptor : Nat) : Bytes := ((p.stream? descriptor).map p.world.left).getD []

/-- Reads at most so many bytes from a descriptor. -/
def readBytes (p : Process) (descriptor count : Nat) : Process × Bytes :=
  match p.stream? descriptor with
  | some n =>
    let (w, b) := p.world.read n count
    ({ p with world := w }, b)
  | none => (p, [])

/-- Reads all that is left of a descriptor. -/
def readAll (p : Process) (descriptor : Nat) : Process × Text :=
  let (p, b) := p.readBytes descriptor ((p.left descriptor).length + 1)
  (p, Text.ofOctets b)

/-- How much can be written to a descriptor before its stream overflows. -/
def room (p : Process) (descriptor : Nat) : Option Nat :=
  match (p.stream? descriptor).map p.world.stream with
  | some (.sink _ room _) => room
  | _ => none

/-- The descriptor that a path stands for. -/
def device? (path : Text) : Option Nat :=
  match String.ofList path with
  | "/dev/stdin" => some 0
  | "/dev/stdout" => some 1
  | "/dev/stderr" => some 2
  | _ =>
    match "/dev/fd/".toList.isPrefixOf? path <|> "/proc/self/fd/".toList.isPrefixOf? path with
    | some digits => if digits ≠ [] ∧ digits.all Char.isDigit then some (Text.natOfDigits 10 digits) else none
    | none => none

/-- Opens a stream that has been found. -/
def openStream (p : Process) (s : Stream) : Process × Nat :=
  let (w, n) := p.world.addStream s
  ({ p with world := w }, n)

/-- The stream of a path that stands for a descriptor. -/
def deviceStream (p : Process) (descriptor : Nat) : Except Fault (Nat × Stream) :=
  match p.stream? descriptor with
  | some n => .ok (n, p.world.stream n)
  | none => .error .notFound

/-- Opens a stream for what a path leads to, to be read from. -/
def openToRead (p : Process) (path : Text) : Except Fault (Process × Nat) :=
  match device? path with
  | some descriptor => do
    match ← p.deviceStream descriptor with
    | (_, .file n _ _) => return p.openStream (.file n 0 false)
    | (n, _) => return (p, n)
  | none => do
    match (← p.look path).2 with
    | .file n => return p.openStream (.file n 0 false)
    | .directory _ | .link _ => return p.openStream .directory
    | .device d => return p.openStream (.device d)

/-- Opens a stream for what a path leads to, to be written to. The file is made if there is none. With
`keep` its content stays. -/
def openToWrite (p : Process) (path : Text) (keep append : Bool) : Except Fault (Process × Nat) :=
  let openFile (n : Nat) := (if keep then p else p.setTree (p.tree.fill n [])).openStream (.file n 0 append)
  match device? path with
  | some descriptor => do
    match ← p.deviceStream descriptor with
    | (_, .file n _ _) => return openFile n
    | (n, _) => return (p, n)
  | none => do
    let place ← p.tree.locate (p.path path)
    if !endsInName path then .error .isDirectory
    else match p.tree.get? place with
      | some (.directory _) => .error .isDirectory
      | some (.link _) => .error .tooManyLinks
      | some (.device d) => return p.openStream (.device d)
      | some (.file n) => return openFile n
      | none =>
        let t := p.tree.create place [] p.fileMode
        match t.get? place with
        | some (.file n) => return (p.setTree t).openStream (.file n 0 append)
        | _ => .error .notFound

/-- Reads all of what a path leads to. -/
def read (p : Process) (path : Text) : Except Fault (Process × Text) := do
  let (p, n) ← p.openToRead path
  match p.world.stream n with
  | .directory => .error .isDirectory
  | _ =>
    let (w, b) := p.world.readAll n
    return ({ p with world := w }, Text.ofOctets b)

/-- Writes a text to what a path leads to. -/
def store (p : Process) (path : Text) (append : Bool) (t : Text) : Except Fault Process := do
  let (p, n) ← p.openToWrite path append append
  return { p with world := p.world.write n (Text.octets t) }

end Process

end Flowchart
