import Flowchart.Rules.Machine

/-!
Running programs of rules. Expressions have values and statements change the machine; a loop or a rule is left by
stopping. The rules for the start are run first, then those whose patterns fit for each record, and at last those
for the end.
-/

namespace Flowchart.Rules

/-! ### Calculating -/

def Operation.value (o : Operation) (a b : Float) : Float :=
  match o with
  | add => a + b
  | subtract => a - b
  | multiply => a * b
  | divide => a / b
  | remainder => ((Binary64.ofFloat a).remainder (Binary64.ofFloat b)).toFloat
  | power => Float.pow a b

/-- Whether a relation holds of values that compare in some way; values in no order are only different. -/
def Relation.holds (r : Relation) (o : Option Ordering) : Bool :=
  match r, o with
  | different, none => true
  | _, none => false
  | equal, some o => o = .eq
  | different, some o => o ≠ .eq
  | less, some o => o = .lt
  | atMost, some o => o ≠ .gt
  | greater, some o => o = .gt
  | atLeast, some o => o ≠ .lt

/-- A number without what stands behind its point. -/
def wholePart (x : Float) : Float := if x < 0 then x.ceil else x.floor

/-- The part of a text that starts at a place and has a length, both as numbers. -/
def part (t : Text) (start : Int) (size : Option Int) : Text :=
  let (start, size) := if start ≤ 0 then (1, size.map (· - start)) else (start, size)
  let rest := t.drop (start - 1).toNat
  match size with
  | some n => rest.take n.toNat
  | none => rest

/-- The place of a text in another one, from one on; zero if there is none. -/
def placeOf (t : Text) : Nat → Text → Nat
  | n, s => if t.isPrefixOf s then n else match s with
    | [] => 0
    | _ :: rest => placeOf t (n + 1) rest

/-! ### Loops -/

/-- Takes a step again and again, as long as it says so. -/
def again (step : Running Bool) : Nat → Running Unit
  | 0 => return ()
  | n + 1 => do if ← step then again step n

/-- How often a loop turns at most. -/
def mostTurns : Nat := Nat.pow 2 40

/-- Takes a turn of a loop; gives whether the loop goes on. -/
def turn (body : Running Unit) : Running Bool := fun m =>
  match body m with
  | (.ok _, m) => (.ok true, m)
  | (.error .continue, m) => (.ok true, m)
  | (.error .leave, m) => (.ok false, m)
  | (.error stop, m) => (.error stop, m)

/-- Takes turns for some keys, as long as the turns say so. -/
def eachKey (step : Text → Running Bool) : List Text → Running Unit
  | [] => return ()
  | key :: keys => do if ← step key then eachKey step keys

/-- Runs the body of a function, and gives what it returns. -/
def returned (body : Running Unit) : Running Value := fun m =>
  match body m with
  | (.ok _, m) => (.ok .unset, m)
  | (.error (.return v), m) => (.ok v, m)
  | (.error stop, m) => (.error stop, m)

/-! ### Expressions and statements -/

/-- Something that can be assigned to, where all that leads to it is known. -/
inductive Spot where
  | name (n : Name)
  | field (n : Int)
  | element (table : Nat) (key : Key)

/-- The table that a name stands for. -/
def tableOf (n : Name) : Running Nat := do
  match n with
  | .shared n => return n
  | .own n =>
    match (← get).frame[n]? with
    | some (.table t) => return t
    | _ => return 0

def valueOf (n : Name) : Running Value := do
  match n with
  | .shared n => sharedValue n
  | .own n =>
    match (← get).frame[n]? with
    | some (.value v) => return v
    | _ => return .unset

def withTable {α : Type} (n : Nat) (change : Table → Table × α) : Running α :=
  modifyGet fun m =>
    let t := m.tables.getD n .empty
    let m := { m with tables := m.tables.setIfInBounds n .empty }
    let (t, a) := change t
    (a, { m with tables := m.tables.setIfInBounds n t })

def Spot.value : Spot → Running Value
  | name n => valueOf n
  | field n => fieldAt n
  | element table key => withTable table fun t => t.get key

def Spot.set : Spot → Value → Running Unit
  | name (.shared n), v => setShared n v
  | name (.own n), v => modify fun m => { m with frame := m.frame.setIfInBounds n (.value v) }
  | field n, v => setField n v
  | element table key, v => withTable table fun t => (t.set key v, ())

def keyOf (vs : List Value) : Running Key := do
  let m ← get
  match vs with
  | [v] => return .ofValue (fractionText (m.knownText .CONVFMT)) v
  | vs => return .text ((m.knownText .SUBSEP).intercalate (vs.map m.textOf))

/-- How a program and its call are known while it runs. -/
structure Context where
  program : Program
  setting : Setting

/-- Reads a record into a spot, or as the record; gives what that returns. -/
def receive (found : Except Int Text) (place : Option Spot) : Running Value := do
  match found with
  | .error status => return .number (Float.ofInt status)
  | .ok t =>
    let v := Value.ofInput t
    match place with
    | some s => s.set v
    | none => setRecord v
    return .number 1

/-- Whether an expression for texts matches the record. -/
def fitsRecord (r : Regex) : Running Bool := do return r.matchesIn (← textOf (← get).record.whole)

/-- The value of a function of one number. -/
def numeric (f : Float → Float) (v : Value) : Value := .number (f v.toNumber)

/-- The value of a function that every program knows and that changes no name. -/
def plainValue (x : Context) (b : Builtin) (vs : List Value) : Running Value := do
  match b, vs with
  | .length, [] => return .ofNat (← textOf (← get).record.whole).length
  | .length, v :: _ => return .ofNat (← textOf v).length
  | .substr, [v, start] => return .text (part (← textOf v) start.toInt none)
  | .substr, v :: start :: size :: _ => return .text (part (← textOf v) start.toInt (some size.toInt))
  | .index, v :: w :: _ =>
    let t ← textOf w
    let s ← textOf v
    return .ofNat (if t = [] then 0 else placeOf t 1 s)
  | .sprintf, format :: vs =>
    let m ← get
    let format ← textOf format
    match formatted m.textOf format vs with
    | (t, none) => return .text t
    | (_, some fault) => failAt (fault.message "sprintf".toList format)
  | .tolower, v :: _ => return .text ((← textOf v).map Char.toLower)
  | .toupper, v :: _ => return .text ((← textOf v).map Char.toUpper)
  | .int, v :: _ => return numeric wholePart v
  | .sqrt, v :: _ => return numeric Float.sqrt v
  | .exp, v :: _ => return numeric Float.exp v
  | .log, v :: _ => return numeric Float.log v
  | .sin, v :: _ => return numeric Float.sin v
  | .cos, v :: _ => return numeric Float.cos v
  | .atan2, v :: w :: _ => return .number (Float.atan2 v.toNumber w.toNumber)
  | .system, v :: _ =>
    flushAll
    return .ofNat (← runCommand x.setting (← textOf v) none none (some "sh".toList))
  | .close, v :: _ =>
    match ← close x.setting (← textOf v) with
    | some status => return .ofNat status
    | none => return .number (-1)
  | .fflush, [] =>
    flushMain
    return .number 0
  | .fflush, v :: _ =>
    let name ← textOf v
    if (← get).outputs.any fun o => o.name = name then
      flushFiles
      return .number 0
    else if name = "/dev/stdout".toList ∨ name = [] then
      flushMain
      return .number 0
    else return .number (-1)
  | _, _ => return .unset

mutual

def value (x : Context) : Nat → Expr → Running Value
  | 0, _ => throw (.fault "program limit exceeded: eval stack size=1024".toList)
  | fuel + 1, e =>
    match e with
    | .number n => return .number n
    | .text t => return .text t
    | .regex r => return .ofBool (← fitsRecord r)
    | .name n => valueOf n
    | .element table keys => do (← spot x fuel (.element table keys)).value
    | .field e => do fieldAt (← value x fuel e).toInt
    | .assign operation target e => do
      let place ← spot x fuel target
      let v ← value x fuel e
      let v ← match operation with
        | none => pure v
        | some o => do pure (.number (o.value (← place.value).toNumber v.toNumber))
      place.set v
      return v
    | .step isUp isNew target => do
      let place ← spot x fuel target
      let before := (← place.value).toNumber
      let after := if isUp then before + 1 else before - 1
      place.set (.number after)
      return .number (if isNew then after else before)
    | .negative e => return numeric (fun n => -n) (← value x fuel e)
    | .positive e => return numeric id (← value x fuel e)
    | .not e => return .ofBool !(← value x fuel e).holds
    | .operate o a b => do
      let v ← value x fuel a
      let w ← value x fuel b
      return .number (o.value v.toNumber w.toNumber)
    | .join a b => do
      let v ← value x fuel a
      let w ← value x fuel b
      return .text ((← textOf v) ++ (← textOf w))
    | .compare r a b => do
      let v ← value x fuel a
      let w ← value x fuel b
      return .ofBool (r.holds (v.compare (fractionText ((← get).knownText .CONVFMT)) w))
    | .fits isNegated a b => do
      let v ← value x fuel a
      let r ← pattern x fuel b
      return .ofBool (r.matchesIn (← textOf v) != isNegated)
    | .within keys table => do
      let key ← keyOf (← values x fuel keys)
      let n ← tableOf table
      return .ofBool (← withTable n fun t => t.contains key)
    | .both a b => do
      if (← value x fuel a).holds then return .ofBool (← value x fuel b).holds else return .ofBool false
    | .either a b => do
      if (← value x fuel a).holds then return .ofBool true else return .ofBool (← value x fuel b).holds
    | .choose c a b => do if (← value x fuel c).holds then value x fuel a else value x fuel b
    | .call f arguments => do
      match x.program.functions[f]? with
      | some function => do
        let slots ← handed x fuel arguments function.tables
        let size ← modifyGet fun m => (m.tables.size, m)
        let own ← (function.tables.drop slots.length).foldlM (fun slots isTable =>
          if isTable then
            modifyGet fun m => (slots.push (.table m.tables.size), { m with tables := m.tables.push .empty })
          else return slots.push (.value .unset)) slots.toArray
        let frame ← modifyGet fun m => (m.frame, { m with frame := own })
        let result ← returned (exec x fuel function.body)
        modify fun m => { m with frame, tables := m.tables.shrink size }
        return result
      | none => return .unset
    | .builtin b arguments => builtin x fuel b arguments
    | .getRecord target => do
      match ← mainRecord x.program.names mostArguments with
      | some t => receive (.ok t) (← maybeSpot x fuel target)
      | none => receive (.error 0) none
    | .getFromFile path target => do
      let name ← textOf (← value x fuel path)
      let place ← maybeSpot x fuel target
      receive (← recordFrom x.setting false name) place
    | .getFromCommand command target => do
      let name ← textOf (← value x fuel command)
      let place ← maybeSpot x fuel target
      receive (← recordFrom x.setting true name) place
    | .row es => do
      let vs ← values x fuel es
      return .text (← keyOf vs).toText
termination_by structural fuel => fuel

def values (x : Context) : Nat → List Expr → Running (List Value)
  | 0, _ => return []
  | _ + 1, [] => return []
  | fuel + 1, e :: es => do
    let v ← value x fuel e
    return v :: (← values x fuel es)
termination_by structural fuel => fuel

/-- What a function is handed: tables as they are, and values. -/
def handed (x : Context) : Nat → List Expr → List Bool → Running (List Slot)
  | 0, _, _ => return []
  | fuel + 1, es, tables =>
    match es, tables with
    | e :: es, isTable :: tables => do
      let slot ← match isTable, e with
        | true, .name n => do pure (.table (← tableOf n))
        | _, e => do pure (.value (← value x fuel e))
      return slot :: (← handed x fuel es tables)
    | _, _ => return []
termination_by structural fuel => fuel

/-- The spot that an expression leads to. -/
def spot (x : Context) : Nat → Expr → Running Spot
  | 0, _ => return .field 0
  | fuel + 1, e =>
    match e with
    | .name n => return .name n
    | .element table keys => do
      let key ← keyOf (← values x fuel keys)
      let n ← tableOf table
      withTable n fun t => ((t.get key).1, ())
      return .element n key
    | .field e => return .field (← value x fuel e).toInt
    | _ => return .field 0
termination_by structural fuel => fuel

/-- The spot that an expression leads to, if there is one. -/
def maybeSpot (x : Context) : Nat → Option Expr → Running (Option Spot)
  | 0, _ => return none
  | fuel + 1, e =>
    match e with
    | some e => some <$> spot x fuel e
    | none => return none
termination_by structural fuel => fuel

/-- The expression for texts that an expression is, or that its value is. -/
def pattern (x : Context) : Nat → Expr → Running Regex
  | 0, _ => return .empty
  | fuel + 1, e =>
    match e with
    | .regex r => return r
    | e => do regexOf (← textOf (← value x fuel e))
termination_by structural fuel => fuel

/-- The value of a function that every program knows. -/
def builtin (x : Context) : Nat → Builtin → List Expr → Running Value
  | 0, _, _ => return .unset
  | fuel + 1, b, arguments =>
    match b, arguments with
    | .length, [.name n] => do
      let size (n : Nat) : Running Nat := do return ((← get).tables.getD n .empty).size
      match n with
      | .own k =>
        match (← get).frame[k]? with
        | some (.table t) => return .ofNat (← size t)
        | _ => return .ofNat (← textOf (← valueOf n)).length
      | .shared k =>
        let count ← size k
        if count = 0 then return .ofNat (← textOf (← valueOf n)).length else return .ofNat count
    | .split, e :: .name n :: separator => do
      let t ← textOf (← value x fuel e)
      let divider ← match separator with
        | .regex .empty :: _ => pure .each
        | .regex r :: _ => pure (.regex r)
        | e :: _ => do orFail (Divider.ofText (← textOf (← value x fuel e)))
        | [] => do orFail (Divider.ofText ((← get).knownText .FS))
      let parts := divider.fields t
      let table ← tableOf n
      withTable table fun _ => (.ofParts (parts.map Value.ofInput), ())
      return .ofNat parts.length
    | .search, e :: p :: _ => do
      let t ← textOf (← value x fuel e)
      let r ← pattern x fuel p
      let (start, size) : Int × Int := match r.find? (.ofText t) with
        | some m => (m.start + 1, m.stop - m.start)
        | none => (0, -1)
      setKnown .RSTART (.number (Float.ofInt start))
      setKnown .RLENGTH (.number (Float.ofInt size))
      return .number (Float.ofInt start)
    | .sub, p :: e :: target | .gsub, p :: e :: target => do
      let r ← pattern x fuel p
      let replacement ← textOf (← value x fuel e)
      let place ← match target with
        | e :: _ => spot x fuel e
        | [] => pure (.field 0)
      let t ← textOf (← place.value)
      let (t, count) := replaced r (b = .gsub) replacement t
      if count ≠ 0 then place.set (.text t)
      return .ofNat count
    | b, arguments => do plainValue x b (← values x fuel arguments)
termination_by structural fuel => fuel

def exec (x : Context) : Nat → Stmt → Running Unit
  | 0, _ => throw (.fault "program limit exceeded: eval stack size=1024".toList)
  | fuel + 1, s =>
    match s with
    | .expr e => do let _ ← value x fuel e
    | .print es target => do
      let vs ← values x fuel es
      let m ← get
      let t := if vs.isEmpty then m.textOf m.record.whole else (m.knownText .OFS).intercalate (vs.map m.printedText)
      put x fuel target (t ++ m.knownText .ORS)
    | .format es target => do
      match ← values x fuel es with
      | [] => return ()
      | format :: vs =>
        let m ← get
        let format := m.textOf format
        let (t, fault) := formatted m.textOf format vs
        put x fuel target t
        match fault with
        | some fault => failAt (fault.message "printf".toList format)
        | none => return ()
    | .when c a b => do
      if (← value x fuel c).holds then exec x fuel a
      else match b with
        | some b => exec x fuel b
        | none => return ()
    | .repeatWhile c body =>
      again (do if (← value x fuel c).holds then turn (exec x fuel body) else return false) mostTurns
    | .repeatUntil body c =>
      again (do if ← turn (exec x fuel body) then return (← value x fuel c).holds else return false) mostTurns
    | .loop start c step body => do
      match start with
      | some s => exec x fuel s
      | none => pure ()
      again
        (do
          let goes ← match c with
            | some c => do pure (← value x fuel c).holds
            | none => pure true
          if !goes then return false
          else if ← turn (exec x fuel body) then
            match step with
            | some s => exec x fuel s
            | none => pure ()
            return true
          else return false)
        mostTurns
    | .forKeys target table body => do
      let n ← tableOf table
      let keys ← withTable n fun t => t.keys
      eachKey (fun key => do
        (Spot.name target).set (.text key)
        turn (exec x fuel body)) keys
    | .block body => sequence x fuel body
    | .next => throw .next
    | .nextFile => throw .nextFile
    | .exit e => do
      match e with
      | some e => do
        let n := (← value x fuel e).toInt
        modify fun m => { m with status := (n.emod 256).toNat }
      | none => pure ()
      throw .exit
    | .return e => do
      let v ← match e with
        | some e => value x fuel e
        | none => pure .unset
      throw (.return v)
    | .leave => throw .leave
    | .continue => throw .continue
    | .delete table keys => do
      let key ← keyOf (← values x fuel keys)
      let n ← tableOf table
      withTable n fun t => (t.erase key, ())
    | .clear table => do
      let n ← tableOf table
      withTable n fun _ => (.empty, ())
termination_by structural fuel => fuel

/-- Runs statements one after the other. -/
def sequence (x : Context) : Nat → List Stmt → Running Unit
  | 0, _ => throw (.fault "program limit exceeded: eval stack size=1024".toList)
  | fuel + 1, ss =>
    match ss with
    | [] => return ()
    | s :: ss => do
      exec x fuel s
      sequence x fuel ss
termination_by structural fuel => fuel

/-- Writes a text to where a statement says. -/
def put (x : Context) : Nat → Option (Direction × Expr) → Text → Running Unit
  | 0, _, _ => return ()
  | fuel + 1, target, t =>
    match target with
    | none => write t
    | some (d, e) => do writeTo d (← textOf (← value x fuel e)) t
termination_by structural fuel => fuel

end

/-! ### Programs -/

def depth : Nat := 20000

def Rule.act (x : Context) (r : Rule) : Running Unit := do
  match r.action with
  | some s => exec x depth s
  | none => exec x depth (.print [] none)

/-- Whether a rule is for the record. -/
def Rule.isFor (x : Context) (r : Rule) (number : Nat) : Running Bool := do
  match r.pattern with
  | .start | .finish => return false
  | .always => return true
  | .when e => return (← value x depth e).holds
  | .range first last =>
    let begins ← if (← get).begun.contains number then pure true else do pure (← value x depth first).holds
    if begins then
      let ends := (← value x depth last).holds
      modify fun m =>
        { m with begun := if ends then m.begun.filter (· ≠ number) else number :: m.begun.filter (· ≠ number) }
    return begins

def runRules (x : Context) : List (Rule × Nat) → Running Unit
  | [] => return ()
  | (r, number) :: more => do
    if ← r.isFor x number then r.act x
    runRules x more

/-- Deals with the next record; gives whether there is one. -/
def runRecord (x : Context) (rules : List (Rule × Nat)) : Running Bool := do
  match ← mainRecord x.program.names mostArguments with
  | none => return false
  | some t =>
    setRecord (.ofInput t)
    fun m => match runRules x rules m with
      | (.error .next, m) => (.ok true, m)
      | (.error .nextFile, m) => (.ok true, { m with main := none })
      | (.ok _, m) => (.ok true, m)
      | (.error stop, m) => (.error stop, m)

/-- Whether a pattern is for the start. -/
def Pattern.isStart : Pattern → Bool
  | start => true
  | _ => false

/-- Whether a pattern is for the end. -/
def Pattern.isFinish : Pattern → Bool
  | finish => true
  | _ => false

/-- Runs a part of a program up to where it exits. -/
def upToExit (part : Running Unit) : Running Unit := fun m =>
  match part m with
  | (.error .exit, m) => (.ok (), m)
  | result => result

def Program.run (x : Context) : Running Unit := do
  let rules := x.program.rules
  let finish := rules.filter fun r => r.pattern.isFinish
  let others := rules.zipIdx.filter fun (r, _) => !r.pattern.isFinish && !r.pattern.isStart
  upToExit do
    for r in rules do
      if r.pattern.isStart then r.act x
    if !others.isEmpty || !finish.isEmpty then again (runRecord x others) mostTurns
  upToExit do
    for r in finish do
      r.act x

/-- The machine that a program starts with. -/
def Machine.start (p : Program) (c : Setting) (process : Process) (arguments : List Text)
    (assignments : List (Text × Value)) : Machine :=
  let given : List (Known × Value) :=
    [(.NF, .number 0), (.NR, .number 0), (.FNR, .number 0), (.FS, .text [' ']), (.OFS, .text [' ']), (.RS, .text ['\n']),
     (.ORS, .text ['\n']), (.FILENAME, .text []), (.SUBSEP, .text ['\x1c']), (.RSTART, .number 0), (.RLENGTH, .number (-1)),
     (.CONVFMT, .text "%.6g".toList), (.OFMT, .text "%.6g".toList), (.ARGC, .ofNat (arguments.length + 1))]
  let values := given.foldl (fun values (k, v) => values.setIfInBounds k.number v) (Array.replicate p.names.size .unset)
  let values := assignments.foldl (fun values (name, v) =>
    match p.names.idxOf? name with
    | some n => values.setIfInBounds n v
    | none => values) values
  let argv := ((c.name :: arguments).zipIdx).foldl (fun (t : Table) (a, n) => t.set (.number n) (.ofInput a)) .empty
  let environ := c.environment.foldl (fun (t : Table) (name, v) => t.set (.text name) (.ofInput v)) .empty
  let tables := ((Array.replicate p.names.size .empty).setIfInBounds Known.ARGV.number argv).setIfInBounds
    Known.ENVIRON.number environ
  { process, values, tables }

end Flowchart.Rules
