import Flowchart.Rules.Format
import Flowchart.Rules.Record
import Flowchart.Rules.Table
import Flowchart.Tool.Basic

/-!
What a program of rules works on: values and tables by name, a record, and streams. What is written is kept until
there is enough of it, until something else could read it, or until the end.
-/

namespace Flowchart.Rules

open Files

/-- What a name of a function stands for in a call. -/
inductive Slot where
  | value (v : Value)
  | table (n : Nat)

/-- What records are read from: what has been taken in, and the stream that more comes from. -/
structure Source where
  left : Text := []
  stream : Option Nat := none

/-- Something that is open to be read from. -/
structure Input where
  name : Text
  isCommand : Bool
  source : Source
  /-- The status of a command that has been run. -/
  status : Nat := 0

/-- Something that is open to be written to. A command is run when it is closed. -/
structure Output where
  name : Text
  isCommand : Bool
  stream : Nat := 0
  /-- What waits to be written, the last part first. -/
  waiting : List Text := []

/-- The state of a program that runs. -/
structure Machine where
  process : Process
  values : Array Value
  tables : Array Table
  frame : Array Slot := #[]
  record : Record := {}
  /-- The numbers of the rules that reach from a record to another one and have begun. -/
  begun : List Nat := []
  waiting : List Text := []
  waitingSize : Nat := 0
  inputs : List Input := []
  /-- The outputs, the last one first. -/
  outputs : List Output := []
  main : Option Source := none
  /-- The number of the next argument. -/
  nextArgument : Nat := 1
  /-- Whether an argument has been read from. -/
  hasRead : Bool := false
  expressions : List (Text × Regex) := []
  status : Nat := 0

/-- Why a program does not go on with what it does. -/
inductive Stop where
  | next
  | nextFile
  | leave
  | continue
  | return (v : Value)
  | exit
  /-- Something is wrong. -/
  | fault (message : Text)
  /-- Nobody reads what is written. -/
  | broken

abbrev Running := ExceptT Stop (StateM Machine)

abbrev Setting := Tool.Call

/-! ### Values -/

def Machine.known (m : Machine) (k : Known) : Value := m.values.getD k.number .unset

/-- The text of a known name that is no number. -/
def Machine.knownText (m : Machine) (k : Known) : Text :=
  (m.known k).toText (fractionText "%.6g".toList)

def Machine.textOf (m : Machine) (v : Value) : Text :=
  match v with
  | .text t | .either t _ => t
  | .unset => []
  | .number x => numberText (fractionText (m.knownText .CONVFMT)) x

/-- The text of a value where it is printed. -/
def Machine.printedText (m : Machine) (v : Value) : Text :=
  match v with
  | .number x => numberText (fractionText (m.knownText .OFMT)) x
  | v => m.textOf v

def textOf (v : Value) : Running Text := return (← get).textOf v

/-- Sets the value of a known name. -/
def setKnown (k : Known) (v : Value) : Running Unit :=
  modify fun m => { m with values := m.values.setIfInBounds k.number v }

/-- Stops with what is wrong, and where. -/
def failAt {α : Type} (message : Text) : Running α := do
  let m ← get
  throw (.fault ("run time error: ".toList ++ message ++ "\n\tFILENAME=\"".toList ++ m.knownText .FILENAME
    ++ "\" FNR=".toList ++ m.knownText .FNR ++ " NR=".toList ++ m.knownText .NR))

/-- Lifts what is wrong with an expression for texts. -/
def orFail {α : Type} (found : Except Text α) : Running α :=
  match found with
  | .ok a => return a
  | .error message => failAt message

def regexOf (t : Text) : Running Regex := do
  let m ← get
  match m.expressions.lookup t with
  | some r => return r
  | none =>
    let r ← orFail (regexOf? t)
    set { m with expressions := (t, r) :: m.expressions.take 20 }
    return r

/-! ### The record -/

/-- The record, divided into fields. -/
def dividedRecord : Running Record := do
  let m ← get
  if m.record.isDivided then return m.record
  else
    let d ← orFail (Divider.ofText (m.knownText .FS))
    let r := m.record.divided d m.textOf
    set { m with record := r }
    return r

def fieldCount : Running Nat := return (← dividedRecord).fields.size

/-- Changes the fields of the record. -/
def changeFields (change : Record → Record) : Running Unit := do
  let r ← dividedRecord
  let m ← get
  set { m with record := (change r).rejoined (m.knownText .OFS) m.textOf }

def setRecord (v : Value) : Running Unit := modify fun m => { m with record := .ofValue v }

/-- The value of a field; the whole record is the field zero. -/
def fieldAt (n : Int) : Running Value := do
  if n < 0 then failAt ("negative field index $".toList ++ Tool.signedDigits n)
  else if n = 0 then return (← get).record.whole
  else return ((← dividedRecord).fields[n.toNat - 1]?).getD (.text [])

def setField (n : Int) (v : Value) : Running Unit :=
  if n < 0 then failAt ("negative field index $".toList ++ Tool.signedDigits n)
  else if n = 0 then setRecord v
  else changeFields fun r => r.withField n.toNat v

/-- The value of a name of the program. -/
def sharedValue (n : Nat) : Running Value := do
  if n = Known.NF.number then return .ofNat (← fieldCount) else return (← get).values.getD n .unset

def setShared (n : Nat) (v : Value) : Running Unit := do
  if n = Known.NF.number then
    let count := v.toInt
    if count < 0 then failAt "negative value assigned to NF".toList
    else changeFields fun r => r.resized count.toNat
  else
    -- the fields of the record are those of the divider that it was read with
    if n = Known.FS.number then let _ ← dividedRecord
    modify fun m => { m with values := m.values.setIfInBounds n v }

/-! ### Output -/

/-- How much is kept before it is written. -/
def bufferSize : Nat := 4096

/-- Ends a program whose output nobody reads. -/
def checkReader : Running Unit := do
  if (← get).process.world.burst then throw .broken

/-- Writes what waits for the standard output. -/
def flushMain : Running Unit := do
  modify fun m =>
    { m with process := m.process.write 1 m.waiting.reverse.flatten, waiting := [], waitingSize := 0 }
  checkReader

def Output.flushed (o : Output) (p : Process) : Output × Process :=
  if o.isCommand ∨ o.waiting = [] then (o, p)
  else ({ o with waiting := [] }, { p with world := p.world.write o.stream (Text.octets o.waiting.reverse.flatten) })

def flushFiles : Running Unit :=
  modify fun m =>
    let (outputs, p) := m.outputs.foldr (fun o (outputs, p) =>
      let (o, p) := o.flushed p
      (o :: outputs, p)) ([], m.process)
    { m with outputs, process := p }

def flushAll : Running Unit := do
  flushFiles
  flushMain

def write (t : Text) : Running Unit := do
  let size ← modifyGet fun m =>
    let size := m.waitingSize + t.length
    (size, { m with waiting := t :: m.waiting, waitingSize := size })
  if bufferSize ≤ size then flushMain

/-- The status of a command that has ended. -/
def exitNumber : Exit → Nat
  | .code n => n
  | .signal n _ => 256 + n

/-- Runs a command with a stream to read from, or to write to. -/
def runCommand (c : Setting) (command : Text) (input output : Option Nat) (name : Option Text) : Running Nat := do
  let m ← get
  let p := match input with
    | some n => m.process.attach 0 n
    | none => m.process
  let p := match output with
    | some n => p.attach 1 n
    | none => p
  match c.start p "/bin/sh".toList (["-c".toList, command] ++ name.toList) c.environment with
  | .error _ => return 127
  | .ok (exit, after) =>
    set { m with process := { m.process with world := after.world } }
    return exitNumber exit

/-- Closes an output; gives the status of its command. -/
def closeOutput (c : Setting) (o : Output) : Running Nat := do
  if o.isCommand then
    let m ← get
    let (w, n) := m.process.world.addStream (.source (Text.octets o.waiting.reverse.flatten) .whole)
    set { m with process := { m.process with world := w } }
    runCommand c o.name (some n) none none
  else
    modify fun m => { m with process := (o.flushed m.process).2 }
    return 0

def openOutput (d : Direction) (name : Text) : Running Output := do
  if d = .command then
    flushAll
    return ⟨name, true, 0, []⟩
  else
    let m ← get
    match m.process.openToWrite name (d = .append) (d = .append) with
    | .ok (p, n) =>
      set { m with process := p }
      return ⟨name, false, n, []⟩
    | .error fault =>
      throw (.fault ("cannot open \"".toList ++ name ++ "\" for output (".toList ++ fault.name ++ [')']))

/-- Writes to an output, which is opened if it is not open. -/
def writeTo (d : Direction) (name t : Text) : Running Unit := do
  let isCommand : Bool := d = .command
  if !isCommand && (name = ['-'] || name = "/dev/stdout".toList) then write t
  else if !isCommand && name = "/dev/stderr".toList then
    modify fun m => { m with process := m.process.write 2 t }
  else
    let isIt (o : Output) : Bool := o.name = name && o.isCommand = isCommand
    if !(← get).outputs.any isIt then
      let o ← openOutput d name
      modify fun m => { m with outputs := o :: m.outputs }
    modify fun m =>
      { m with outputs := m.outputs.map fun o => if isIt o then { o with waiting := t :: o.waiting } else o }

/-- Closes everything of a name; gives the status of a command, or nothing if nothing was open. -/
def close (c : Setting) (name : Text) : Running (Option Nat) := do
  let m ← get
  let (outputs, others) := m.outputs.partition fun o => o.name = name
  let (inputs, rest) := m.inputs.partition fun i => i.name = name
  set { m with outputs := others, inputs := rest }
  let status ← outputs.foldlM (fun _ o => some <$> closeOutput c o) (none : Option Nat)
  return status <|> inputs.head?.map fun i => if i.isCommand then i.status else 0

def closeAll (c : Setting) : Running Unit := do
  let outputs := (← get).outputs
  modify fun m => { m with outputs := [] }
  for o in outputs do
    let _ ← closeOutput c o
  flushMain

/-! ### Input -/

/-- Takes in more of a source, if there is more. -/
def Source.fill (s : Source) (p : Process) : Source × Process :=
  match s.stream with
  | none => (s, p)
  | some n =>
    let (w, b) := p.world.read n bufferSize
    if b = [] then ({ s with stream := none }, p)
    else ({ s with left := s.left ++ Text.ofOctets b }, { p with world := w })

def Source.record (e : Ending) : Nat → Source → Process → Option Text × Source × Process
  | 0, s, p => (none, s, p)
  | fuel + 1, s, p =>
    match e.cut? s.stream.isNone s.left with
    | some (t, rest) => (some t, { s with left := rest }, p)
    | none =>
      if s.stream.isNone then (none, { s with left := [] }, p)
      else
        let (s, p) := s.fill p
        s.record e fuel p

/-- How often a source can be filled for one record. -/
def mostFills : Nat := Nat.pow 2 40

def recordOf (s : Source) : Running (Option Text × Source) := do
  let m ← get
  let e ← orFail (Ending.ofText (m.knownText .RS))
  let (t, s, p) := s.record e mostFills m.process
  set { m with process := p }
  return (t, s)

/-- The source that a path leads to. -/
def openSource (p : Process) (path : Text) : Except Fault (Source × Process) :=
  if path = ['-'] ∨ path = "/dev/stdin".toList then
    match p.stream? 0 with
    | some n => .ok ({ stream := some n }, p)
    | none => .ok ({}, p)
  else (p.read path).map fun (p, t) => ({ left := t }, p)

/-- What is said of a path that cannot be read. -/
def unreadable (path : Text) (fault : Fault) : Text :=
  if fault = .isDirectory then "read error (Is a directory)".toList
  else "cannot open \"".toList ++ path ++ "\" (".toList ++ fault.name ++ [')']

/-- The name and the value of an argument that assigns. -/
def assignment? (t : Text) : Option (Text × Text) :=
  match Text.cut? '=' t with
  | some (name, value) =>
    if (name.head?.map fun c => c.isAlpha || c == '_').getD false ∧ name.all isWordPart then some (name, value) else none
  | none => none

def assignArgument (names : Array Text) (name value : Text) : Running Unit := do
  let value := Value.ofInput (unescaped (value.length + 1) value)
  match names.idxOf? name with
  | some n => setShared n value
  | none => return ()

/-- Opens the next file that is named by an argument, or the standard input if there is none. -/
def openNext (names : Array Text) : Nat → Running Bool
  | 0 => return false
  | fuel + 1 => do
    let m ← get
    let start (path : Text) : Running Bool := do
      let m ← get
      match openSource m.process path with
      | .ok (s, p) =>
        set { m with process := p, main := some s, hasRead := true }
        setKnown .FILENAME (.text path)
        setKnown .FNR (.number 0)
        return true
      | .error fault => throw (.fault (unreadable path fault))
    if (m.known .ARGC).toInt ≤ m.nextArgument then
      if m.hasRead then return false else start ['-']
    else
      let table := m.tables.getD Known.ARGV.number .empty
      let key := Key.number m.nextArgument
      let (table, isThere) := table.contains key
      let (table, value) := if isThere then table.get key else (table, .unset)
      set { m with
        tables := m.tables.setIfInBounds Known.ARGV.number table
        nextArgument := m.nextArgument + 1 }
      match m.textOf value with
      | [] => openNext names fuel
      | path =>
        match assignment? path with
        | some (name, value) =>
          assignArgument names name value
          openNext names fuel
        | none => start path

/-- The next record of the arguments. -/
def mainRecord (names : Array Text) : Nat → Running (Option Text)
  | 0 => return none
  | fuel + 1 => do
    match (← get).main with
    | none => if ← openNext names (fuel + 1) then mainRecord names fuel else return none
    | some s =>
      let (t, s) ← recordOf s
      match t with
      | some t =>
        modify fun m => { m with main := some s }
        for k in [Known.NR, Known.FNR] do
          setKnown k (.number (((← get).known k).toNumber + 1))
        return some t
      | none =>
        modify fun m => { m with main := none }
        mainRecord names fuel

/-- How many arguments are gone through for one record. -/
def mostArguments : Nat := Nat.pow 2 40

/-- What comes from an input that is opened if it is not open; a status tells what stands in the way. -/
def recordFrom (c : Setting) (isCommand : Bool) (name : Text) : Running (Except Int Text) := do
  let isIt (i : Input) : Bool := i.name = name && i.isCommand = isCommand
  let m ← get
  let opened : Option Input ← match m.inputs.find? isIt with
    | some i => pure (some i)
    | none =>
      if isCommand then do
        flushAll
        let m ← get
        let (w, n) := m.process.world.addStream (.sink [] (some (Nat.pow 2 20)) false)
        set { m with process := { m.process with world := w } }
        let status ← runCommand c name none (some n) none
        let m ← get
        let w := { m.process.world with burst := false }
        set { m with process := { m.process with world := w } }
        pure (some ⟨name, true, { left := Text.ofOctets (w.written n) }, status⟩)
      else match openSource m.process name with
        | .ok (s, p) =>
          set { m with process := p }
          pure (some ⟨name, false, s, 0⟩)
        | .error .isDirectory => throw (.fault (unreadable name .isDirectory))
        | .error _ => pure none
  match opened with
  | none => return .error (-1)
  | some i =>
    let (t, s) ← recordOf i.source
    modify fun m => { m with inputs := { i with source := s } :: m.inputs.filter fun j => !isIt j }
    match t with
    | some t => return .ok t
    | none => return .error 0

end Flowchart.Rules
