import Flowchart.Tool.Lines

/-!
The tool that copies an input to an output block by block, and converts it on the way. Its operands are names
with values.
-/

namespace Flowchart.Tool

open Files

/-- A size: a number with a letter that multiplies it, or several of them with an `x` between them. -/
def blockSize? (t : Text) : Option Nat :=
  let factor (t : Text) : Option Nat :=
    let digits := t.takeWhile Char.isDigit
    match digits, t.drop digits.length with
    | [], _ => none
    | digits, ['c'] => some (Text.natOfDigits 10 digits)
    | digits, ['w'] => some (2 * Text.natOfDigits 10 digits)
    | _, _ => amount? t
  (Text.splitAt 'x' t).foldl (fun product part => do return (← product) * (← factor part)) (some 1)

/-- What is copied, from where to where. -/
structure Copy where
  source : Option Text := none
  target : Option Text := none
  inputSize : Nat := 512
  outputSize : Nat := 512
  /-- The size of records that lines are made to. -/
  recordSize : Nat := 0
  count : Option Nat := none
  skip : Nat := 0
  seek : Nat := 0
  conversions : List Text := []
  inputFlags : List Text := []
  outputFlags : List Text := []
  status : Text := []

def conversionNames : List String :=
  ["ascii", "ebcdic", "ibm", "block", "unblock", "lcase", "ucase", "sparse", "swab", "sync", "excl", "nocreat", "notrunc",
   "noerror", "fdatasync", "fsync"]

def flagNames : List String :=
  ["append", "direct", "directory", "dsync", "sync", "fullblock", "nonblock", "noatime", "nocache", "noctty", "nofollow",
   "count_bytes", "skip_bytes", "seek_bytes"]

/-- Reads one operand. What is wrong with the call is told with a hint, and what is wrong with a number without. -/
def Copy.read (y : Copy) (operand : Text) : Except (Text × Bool) Copy := do
  let (name, value) ← match Text.cut? '=' operand with
    | some parts => .ok parts
    | none => .error ("unrecognized operand ".toList ++ quoted operand, true)
  let number (least : Nat) : Except (Text × Bool) Nat :=
    match blockSize? value with
    | some n => if least ≤ n then .ok n else .error ("invalid number: ".toList ++ quoted value, false)
    | none => .error ("invalid number: ".toList ++ quoted value, false)
  let known (names : List String) (what : String) : Except (Text × Bool) (List Text) :=
    let given := Text.splitAt ',' value
    match given.find? fun g => !names.contains (String.ofList g) with
    | some wrong => .error (what.toList ++ ": ".toList ++ quoted wrong, true)
    | none => .ok given
  match String.ofList name with
  | "if" => return { y with source := some value }
  | "of" => return { y with target := some value }
  | "bs" => let n ← number 1; return { y with inputSize := n, outputSize := n }
  | "ibs" => return { y with inputSize := ← number 1 }
  | "obs" => return { y with outputSize := ← number 1 }
  | "cbs" => return { y with recordSize := ← number 1 }
  | "count" =>
    let bytes := value.getLast? = some 'B'
    match blockSize? (if bytes then value.dropLast else value) with
    | some n => return { y with count := some n, inputFlags := y.inputFlags ++ if bytes then ["count_bytes".toList] else [] }
    | none => .error ("invalid number: ".toList ++ quoted value, false)
  | "skip" | "iseek" => return { y with skip := ← number 0 }
  | "seek" | "oseek" => return { y with seek := ← number 0 }
  | "conv" => return { y with conversions := y.conversions ++ (← known conversionNames "invalid conversion") }
  | "iflag" => return { y with inputFlags := y.inputFlags ++ (← known flagNames "invalid input flag") }
  | "oflag" => return { y with outputFlags := y.outputFlags ++ (← known flagNames "invalid output flag") }
  | "status" =>
    if ["none", "noxfer", "progress"].contains (String.ofList value) then return { y with status := value }
    else .error ("invalid status level: ".toList ++ quoted value, true)
  | _ => .error ("unrecognized operand ".toList ++ quoted operand, true)

/-- Whether a conversion is asked for. -/
def Copy.converts (y : Copy) (name : String) : Bool := y.conversions.contains name.toList

/-- Changes places of every two octets. -/
def swapped : Text → Text
  | a :: b :: rest => b :: a :: swapped rest
  | rest => rest

/-- The lines of a text as records of the same size. -/
def asRecords (size : Nat) (t : Text) : Text :=
  (plainLines t).flatMap fun line => left size (line.take size)

/-- Records of the same size as lines. -/
def asLines (size : Nat) (t : Text) : Text :=
  (Text.chunksOf size t).flatMap fun record => (record.reverse.dropWhile (· = ' ')).reverse ++ ['\n']

def Copy.convert (y : Copy) (blocks : List Text) : Text :=
  let blocks := if y.converts "sync" then
      let fill := if y.converts "block" || y.converts "unblock" then ' ' else '\x00'
      blocks.map fun block => block ++ List.replicate (y.inputSize - block.length) fill
    else blocks
  let t := (if y.converts "swab" then blocks.map swapped else blocks).flatten
  let t := if y.converts "ucase" then t.map Char.toUpper else if y.converts "lcase" then t.map Char.toLower else t
  if y.recordSize = 0 then t
  else if y.converts "block" then asRecords y.recordSize t
  else if y.converts "unblock" then asLines y.recordSize t
  else t

/-- The words for blocks: the full ones and the last one. -/
def blockCount (size length : Nat) : Text :=
  Text.decimal (length / size) ++ '+' :: (if length % size = 0 then ['0'] else ['1'])

def Copy.summary (y : Copy) (taken written : Nat) : Text :=
  if y.status = "none".toList then []
  else
    blockCount y.inputSize taken ++ " records in\n".toList ++ blockCount y.outputSize written ++ " records out\n".toList
      ++ (if y.status = "noxfer".toList then []
        else Text.decimal written ++ (if written = 1 then " byte" else " bytes").toList ++ " copied, 0.0001 s, ".toList
          ++ Text.decimal (written / 100) ++ '.' :: Text.decimal (written / 10 % 10) ++ " kB/s\n".toList)

/-- Opens the input: the process, and the stream that is read. -/
def Copy.openSource (y : Copy) (p : Process) : Except Text (Process × Option Nat) :=
  match y.source with
  | none => .ok (p, p.stream? 0)
  | some path =>
    match p.openToRead path with
    | .ok (p, n) => .ok (p, some n)
    | .error fault => .error ("failed to open ".toList ++ quoted path ++ told fault)

/-- Opens the output: the process, and the stream that is written. What stands before the place where it is
written first stays. -/
def Copy.openTarget (y : Copy) (seek : Nat) (p : Process) : Except Text (Process × Option Nat) :=
  match y.target with
  | none => .ok (p, p.stream? 1)
  | some path =>
    let refused (fault : Fault) : Text := "failed to open ".toList ++ quoted path ++ told fault
    let isThere := (p.look path).toOption.isSome
    if y.converts "excl" && isThere then .error (refused .alreadyThere)
    else if y.converts "nocreat" && !isThere then .error (refused .notFound)
    else
      let keep := y.converts "notrunc" || seek ≠ 0
      match p.openToWrite path keep (y.outputFlags.contains "append".toList) with
      | .error fault => .error (refused fault)
      | .ok (p, n) =>
        match p.world.stream n with
        | .file number _ append =>
          let content := (p.tree.fileNumbered number).content
          let content := if y.converts "notrunc" || seek = 0 then content
            else content.take seek ++ List.replicate (seek - content.length) 0
          let p := p.setTree (p.tree.fill number content)
          .ok ({ p with world := p.world.setStream n (.file number seek append) }, some n)
        | _ => .ok (p, some n)

def copyBlocks : Service :=
  withOptions { letters := "" } 1 fun o c p =>
    match o.operands.foldlM (fun (y : Copy) operand => y.read operand) {} with
    | .error (message, true) => c.refuse message 1 p
    | .error (message, false) => c.fail message 1 p
    | .ok y =>
      let flagged (name : String) : Bool := (y.inputFlags ++ y.outputFlags).contains name.toList
      let skip := if flagged "skip_bytes" then y.skip else y.skip * y.inputSize
      let seek := if flagged "seek_bytes" then y.seek else y.seek * y.outputSize
      match y.openSource p with
      | .error message => c.fail message 1 p
      | .ok (p, source?) =>
        match y.openTarget seek p with
        | .error message => c.fail message 1 p
        | .ok (p, target?) =>
          let name := y.source.getD "standard input".toList
          match source?.map fun n => (n, p.world.stream n) with
          | some (_, .directory) =>
            let p := c.complain ("error reading ".toList ++ quoted name ++ told .isDirectory) p
            ends 1 (p.write 2 (y.summary 0 0))
          | none => c.fail ("error reading ".toList ++ quoted name ++ ": Bad file descriptor".toList) 1 p
          | some (n, _) =>
            let (w, before) := p.world.read n skip
            let p := { p with world := w }
            let p := if before.length < skip ∧ y.source.isSome then
                c.complain (name ++ ": cannot skip to specified offset".toList) p
              else p
            let most := y.count.map fun k => if flagged "count_bytes" then k else k * y.inputSize
            let (w, taken) := p.world.read n (most.getD ((p.world.left n).length + 1))
            let out := Text.octets (y.convert (Text.chunksOf y.inputSize (Text.ofOctets taken)))
            let w := match target? with
              | some n => w.write n out
              | none => w
            ends 0 (({ p with world := w } : Process).write 2 (y.summary taken.length out.length))

end Flowchart.Tool
