import Flowchart.CommandLine.Run
import Flowchart.Finding.Drawing
import Flowchart.Shell.Run

/-!
The command line itself. What a run may look at is loaded into a tree of files: the directory that it is
started in, and the files that its arguments name. When the run is over its streams are written and the
files that it changed are stored. Programs are looked for in the directory `bin`.
-/

namespace Flowchart.CommandLine

open Files

/-- Whether a file that holds some bytes may be started: if it begins as a script does. -/
def isScript (content : Bytes) : Bool := (Text.encode ['#', '!']).isPrefixOf content

/-- The mode of a file that holds some bytes. -/
def modeOf (content : Bytes) : Nat := if isScript content then File.programMode else File.usualMode

/-- Loads what stands in a directory. What cannot be read is left out. -/
partial def load (t : Tree) (directory : Place) (entries : List IO.FS.DirEntry) : IO Tree :=
  entries.foldlM (fun t entry => do
    let place := directory.child entry.fileName.toList
    if (← entry.path.symlinkMetadata).type == .dir then
      load (t.put place (.directory Tree.directoryMode)) place (← entry.path.readDir).toList
    else
      match ← (IO.FS.readBinFile entry.path).toBaseIO with
      | .ok content => return t.create place content.toList (modeOf content.toList)
      | .error _ => return t) t

/-- Loads the files that arguments name and that are not in the tree yet. -/
def loadNamed (t : Tree) (arguments : List String) : IO Tree :=
  arguments.foldlM (fun t (path : String) => do
    if (t.read path.toList).toOption.isSome then return t
    match ← (IO.FS.readBinFile path).toBaseIO with
    | .ok content => return (t.place path.toList content.toList (isScript content.toList)).toOption.getD t
    | .error _ => return t) t

/-- Stores the files by which a tree differs from the one before. Links are left as they are. -/
def store (before after : Tree) : IO Unit := do
  for (place, entry) in after.entries.reverse do
    match entry with
    | .file n =>
      let content := (after.fileNumbered n).content
      if (before.fileAt? place).map File.content ≠ some content then
        IO.FS.createDirAll (String.ofList place.parent.path)
        IO.FS.writeBinFile (String.ofList place.path) content.toByteArray
    | .directory _ => if (before.get? place).isNone then IO.FS.createDirAll (String.ofList place.path)
    | .link _ | .device _ => pure ()
  for (place, _) in before.entries do
    if (after.get? place).isNone then IO.FS.removeFile (String.ofList place.path)

/-- Runs the program on the files around it. -/
def execute (arguments : List String) : IO UInt32 := do
  let asked := Asked.ofArguments (arguments.map String.toList)
  let stdin ← IO.getStdin
  let input ← if ← stdin.isTty then pure Input.terminal
    else if asked.readsInput then (Input.bytes ·.toList) <$> stdin.readBinToEnd
    else pure (Input.bytes [])
  let before ← loadNamed (← load Tool.system .here (← (← IO.currentDir).readDir).toList) arguments
  let outcome := run Report.draw (Shell.launch "bin".toList) (arguments.map String.toList) input before
  store before outcome.tree
  (← IO.getStdout).write (Text.encode outcome.out).toByteArray
  (← IO.getStderr).write (Text.encode outcome.err).toByteArray
  return outcome.code.toUInt32

end Flowchart.CommandLine

/-- Runs the program; the result is its exit code. -/
def main (arguments : List String) : IO UInt32 := Flowchart.CommandLine.execute arguments
