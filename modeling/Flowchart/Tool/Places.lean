import Flowchart.Files.Mode
import Flowchart.Files.Name
import Flowchart.Time.Calendar
import Flowchart.Tool.Lines

/-!
Tools that change what stands at a path: they remove it, make directories and files, and set the mode of a
file, its time or its size.
-/

namespace Flowchart.Tool

open Files

/-! ### Removing -/

structure Removing where
  recursive : Bool
  force : Bool
  empty : Bool
  verbose : Bool

/-- Removes what stands at a path: for a directory, first what is in it. -/
def removeOne (y : Removing) : Nat → Process → Text → Except Text Process
  | 0, _, path => .error ("cannot remove ".toList ++ quoted path ++ told .tooManyLinks)
  | depth + 1, p, path =>
    let cannot (fault : Fault) : Except Text Process :=
      if y.force ∧ (fault = .notFound ∨ fault = .notDirectory) then .ok p
      else .error ("cannot remove ".toList ++ quoted path ++ told fault)
    let said (what : String) (p : Process) := if y.verbose then
      p.write 1 ("removed ".toList ++ what.toList ++ quoted path ++ ['\n']) else p
    match p.look path false with
    | .error fault => cannot fault
    | .ok (place, .directory _) =>
      if y.recursive then
        if (lastName path = ['.'] ∨ lastName path = ['.', '.']) then
          .error ("refusing to remove '.' or '..' directory: skipping ".toList ++ quoted path)
        else if place = .root then
          .error ("it is dangerous to operate recursively on '/'\n".toList
            ++ "rm: use --no-preserve-root to override this failsafe".toList)
        else do
          let p ← (p.tree.names place).foldlM (fun p name => removeOne y depth p (inDirectory path name)) p
          return said "directory " (p.setTree (p.tree.erase place))
      else if y.empty then
        match p.tree.removeDirectory (p.path path) with
        | .ok t => .ok (said "directory " (p.setTree t))
        | .error fault => cannot fault
      else cannot .isDirectory
    | .ok _ =>
      match p.tree.remove (p.path path) with
      | .ok t => .ok (said "" (p.setTree t))
      | .error fault => cannot fault

/-- How deep directories are removed. -/
def maxRemoved : Nat := 128

def remove : Service :=
  withOptions
    { letters := "dfirRvIα"
      long := [("force", 'f'), ("recursive", 'r'), ("dir", 'd'), ("verbose", 'v'), ("one-file-system", 'α'),
        ("preserve-root", 'α')] } 1 fun o c p =>
    if o.operands = [] then (if o.has 'f' then ends 0 p else c.refuse "missing operand".toList 1 p)
    else forEach c p o.operands
      (removeOne ⟨o.has 'r' || o.has 'R', o.has 'f', o.has 'd', o.has 'v'⟩ maxRemoved)

def removePlainly : Service :=
  withOptions { letters := "" } 1 fun o c p =>
    match o.operands with
    | [] => c.refuse "missing operand".toList 1 p
    | [path] =>
      match p.tree.remove (p.path path) with
      | .ok t => ends 0 (p.setTree t)
      | .error fault => c.fail ("cannot unlink ".toList ++ quoted path ++ told fault) 1 p
    | _ :: extra :: _ => c.refuse ("extra operand ".toList ++ quoted extra) 1 p

/-! ### Directories -/

/-- Says that a directory has been made. -/
def sayMade (verbose : Bool) (c : Call) (path : Text) (p : Process) : Process :=
  if verbose then p.write 1 (c.name ++ ": created directory ".toList ++ quoted path ++ ['\n']) else p

/-- Makes the directories on the way to a path that are missing; the last one gets the mode. -/
def makeParents (verbose : Bool) (mode : Nat) (c : Call) (p : Process) (done : Text) : List Text → Except Text Process
  | [] => .ok p
  | name :: more =>
    let path := if done = [] then name else inDirectory done name
    let isLast := more.isEmpty
    match p.look path with
    | .ok (_, .directory _) => makeParents verbose mode c p path more
    | .ok _ =>
      .error ("cannot create directory ".toList ++ quoted path ++ told (if isLast then .alreadyThere else .notDirectory))
    | .error _ =>
      match p.tree.addDirectory (p.path path) (if isLast then mode else p.directoryMode ||| 0o300) with
      | .ok t => makeParents verbose mode c (sayMade verbose c path (p.setTree t)) path more
      | .error fault => .error ("cannot create directory ".toList ++ quoted path ++ told fault)

def makeDirectories : Service :=
  withOptions
    { letters := "pvZ", valued := "m", long := [("parents", 'p'), ("verbose", 'v'), ("mode", 'm')] } 1 fun o c p =>
    match o.operands, (o.value? 'm').map Mode.change? with
    | [], _ => c.refuse "missing operand".toList 1 p
    | _, some none => c.fail ("invalid mode ".toList ++ quoted ((o.value? 'm').getD [])) 1 p
    | operands, change? =>
      let mode := match change? with
        | some (some change) => change.apply p.mask true 0o777
        | _ => p.directoryMode
      forEach c p operands fun p path =>
        if o.has 'p' ∧ path ≠ [] then
          makeParents (o.has 'v') mode c p (if path.head? = some '/' then ['/'] else []) (pathNames path)
        else match p.tree.addDirectory (p.path path) mode with
          | .ok t => .ok (sayMade (o.has 'v') c path (p.setTree t))
          | .error fault => .error ("cannot create directory ".toList ++ quoted path ++ told fault)

/-- Removes empty directories, with `p` also those that they are in. -/
def removeDirectories : Service :=
  withOptions
    { letters := "pvι", long := [("parents", 'p'), ("verbose", 'v'), ("ignore-fail-on-non-empty", 'ι')] } 1 fun o c p =>
    if o.operands = [] then c.refuse "missing operand".toList 1 p
    else forEach c p o.operands fun p path =>
      let ways := if o.has 'p' then
        ((List.range (pathNames path).length).reverse.map fun n => ['/'].intercalate ((pathNames path).take (n + 1)))
        else [path]
      (ways.zipIdx).foldlM (fun p (path, k) =>
        let p := if o.has 'v' then p.write 1 (c.name ++ ": removing directory, ".toList ++ quoted path ++ ['\n']) else p
        match p.tree.removeDirectory (p.path path) with
        | .ok t => .ok (p.setTree t)
        | .error fault =>
          if fault = .notEmpty ∧ o.has 'ι' then .ok p
          else .error ((if k = 0 then "failed to remove " else "failed to remove directory ").toList ++ quoted path
            ++ told fault)) p

/-! ### Times -/

/-- Sets the time of what a path leads to. -/
def setTime (t : Tree) (n : Nat) (moment : Int) : Tree := t.putFile n { t.fileNumbered n with written := moment }

/-- Makes files that are missing, and sets the time of those that are there. -/
def touch : Service :=
  withOptions
    { letters := "acmfh", valued := "dtrτ"
      long := [("no-create", 'c'), ("date", 'd'), ("reference", 'r'), ("time", 'τ'), ("no-dereference", 'h')] } 1
    fun o c p =>
    let moment : Except Text (Option Int) :=
      match o.value? 'r', o.value? 'd', o.value? 't' with
      | some path, _, _ =>
        match p.look path with
        | .ok (place, _) => .ok (some (((p.tree.fileAt? place).map File.written).getD Tree.startTime))
        | .error fault => .error ("failed to get attributes of ".toList ++ quoted path ++ told fault)
      | none, some words, _ =>
        match Time.read? p.tree.time words with
        | some m => .ok (some m)
        | none => .error ("invalid date format ".toList ++ quoted words)
      | none, none, some digits =>
        match Time.stamp? p.tree.time digits with
        | some m => .ok (some m)
        | none => .error ("invalid date format ".toList ++ quoted digits)
      | none, none, none => .ok none
    match moment, o.operands with
    | .error message, _ => c.fail message 1 p
    | .ok _, [] => c.refuse "missing file operand".toList 1 p
    | .ok moment, operands =>
      let passed (p : Process) (n : Nat) : Process :=
        if o.has 'a' && !o.has 'm' then p
        else p.setTree { setTime p.tree n (moment.getD p.tree.time) with time := p.tree.time + Tree.tick }
      forEach c p operands fun p path =>
        match p.look path with
        | .ok (_, .file n) => .ok (passed p n)
        | .ok _ => .ok p
        | .error fault =>
          if o.has 'c' then .ok p
          else if fault = .notFound ∧ endsInSlash path then .error ("setting times of ".toList ++ quoted path ++ told fault)
          else match p.openToWrite path true false with
            | .ok (p, stream) =>
              match p.world.stream stream with
              | .file n _ _ => .ok (passed p n)
              | _ => .ok p
            | .error fault => .error ("cannot touch ".toList ++ quoted path ++ told fault)

/-! ### Modes -/

def setModeAt (t : Tree) (place : Place) (mode : Nat) : Tree :=
  match t.get? place with
  | some (.file n) => t.setMode n mode
  | some (.directory _) => if place.names = [] then t else t.put place (.directory mode)
  | _ => t

/-- The mode of what stands at a place. -/
def modeAt (t : Tree) (place : Place) : Nat :=
  match t.get? place with
  | some (.file n) => (t.fileNumbered n).mode
  | some (.directory mode) => mode
  | some (.link _) => 0o777
  | some (.device _) => 0o666
  | none => 0

def shownMode (mode : Nat) : Text := Mode.octal 4 mode ++ " (".toList ++ Mode.letters mode ++ [')']

/-- Sets the mode of what stands at a path, and with `R` of everything below it. -/
def changeModeOf (o : Options) (asOption : Bool) (change : Mode.Change) (c : Call) :
    Nat → Process → Text → Process × Bool
  | 0, p, _ => (p, false)
  | depth + 1, p, path =>
    match p.look path with
    | .error fault =>
      (if o.has 'f' then p else c.complain ("cannot access ".toList ++ quoted path ++ told fault) p, false)
    | .ok (place, entry) =>
      let isDirectory := match entry with
        | .directory _ => true
        | _ => false
      let before := modeAt p.tree place
      let mode := change.apply p.mask isDirectory before
      let p := p.setTree (setModeAt p.tree place mode)
      let p := if o.has 'v' ∨ (o.has 'c' ∧ before ≠ mode) then
          p.write 1 ("mode of ".toList ++ quoted path ++
            (if before = mode then " retained as ".toList ++ shownMode mode
             else " changed from ".toList ++ shownMode before ++ " to ".toList ++ shownMode mode) ++ ['\n'])
        else p
      let plain := change.apply 0 isDirectory before
      let surprising := asOption && mode &&& (0o7777 ^^^ plain) ≠ 0
      let p := if surprising then
          c.complain (named path ++ ": new mode is ".toList ++ Mode.letters mode ++ ", not ".toList ++ Mode.letters plain) p
        else p
      if o.has 'R' ∧ isDirectory then
        (p.tree.names place).foldl (fun (p, fine) name =>
          match p.look (inDirectory path name) false with
          | .ok (_, .link _) => (p, fine)
          | _ =>
            let (p, done) := changeModeOf o asOption change c depth p (inDirectory path name)
            (p, fine && done)) (p, !surprising)
      else (p, !surprising)

/-- Sets modes. A mode that starts with a dash may stand where an option does. -/
def changeMode : Service := fun c p =>
  let isMode := fun a : Text => match a with
    | '-' :: m :: _ => "rwxXstugo,0".toList.contains m
    | _ => false
  let known : Known :=
    { letters := "Rvcf", valued := "ρ"
      long := [("recursive", 'R'), ("verbose", 'v'), ("changes", 'c'), ("quiet", 'f'), ("silent", 'f'), ("reference", 'ρ')] }
  let given := c.arguments.takeWhile (· ≠ ['-', '-'])
  let modes := given.filter isMode
  withOptions known 1 (fun o c p =>
    let (mode?, paths) := match o.value? 'ρ', modes, o.operands with
      | some path, _, operands =>
        (((p.look path).toOption.map fun (place, _) => Mode.octal 4 (modeAt p.tree place)), operands)
      | none, [], mode :: paths => (some mode, paths)
      | none, [], [] => (none, [])
      | none, modes, operands => (some ([','].intercalate modes), operands)
    match mode?, paths with
    | none, [] => c.refuse "missing operand".toList 1 p
    | none, _ =>
      c.fail ("failed to get attributes of ".toList ++ quoted ((o.value? 'ρ').getD []) ++ told .notFound) 1 p
    | some mode, [] => c.refuse ("missing operand after ".toList ++ quoted mode) 1 p
    | some mode, paths =>
      match Mode.change? mode with
      | none => c.refuse ("invalid mode: ".toList ++ quoted mode) 1 p
      | some change =>
        let (p, fine) := paths.foldl (fun (p, fine) path =>
          let (p, done) := changeModeOf o (!modes.isEmpty) change c maxRemoved p path
          (p, fine && done)) (p, true)
        ends (statusOf fine) p)
    { c with arguments := given.filter (!isMode ·) ++ c.arguments.drop given.length } p

/-! ### Sizes -/

/-- Makes files as long as a size says, which may be told by the size they have. -/
def truncate : Service :=
  withOptions
    { letters := "co", valued := "sr", long := [("no-create", 'c'), ("size", 's'), ("reference", 'r')] } 1 fun o c p =>
    let reference := (o.value? 'r').bind fun path => ((p.read path).toOption).map fun (_, t) => t.length
    let size? : Option (Nat → Nat) :=
      match o.value? 's', reference with
      | none, some n => some fun _ => n
      | none, none => none
      | some t, reference =>
        let t := t.dropWhile Text.isSpace
        let (sign, digits) := match t with
          | c :: rest => if "+-<>/%".toList.contains c then (some c, rest) else (none, t)
          | [] => (none, [])
        (amount? digits).map fun n size =>
          let size := reference.getD size
          match sign with
          | some '+' => size + n
          | some '-' => size - n
          | some '<' => min size n
          | some '>' => max size n
          | some '/' => if n = 0 then size else size / n * n
          | some '%' => if n = 0 then size else (size + n - 1) / n * n
          | _ => n
    match size?, o.operands with
    | none, _ =>
      match o.value? 's', o.value? 'r' with
      | some t, _ => c.fail ("Invalid number: ".toList ++ quoted t) 1 p
      | none, some path => c.fail ("cannot stat ".toList ++ quoted path ++ told .notFound) 1 p
      | none, none => c.refuse "you must specify either '--size' or '--reference'".toList 1 p
    | some _, [] => c.refuse "missing file operand".toList 1 p
    | some size, operands =>
      forEach c p operands fun p path =>
        if o.has 'c' && (p.look path).toOption.isNone then .ok p
        else match p.openToWrite path true false with
          | .error fault => .error ("cannot open ".toList ++ quoted path ++ " for writing".toList ++ told fault)
          | .ok (p, stream) =>
            match p.world.stream stream with
            | .file n _ _ =>
              let content := (p.tree.fileNumbered n).content
              let length := size content.length
              .ok (p.setTree (p.tree.fill n (content.take length ++ List.replicate (length - content.length) 0)))
            | _ => .ok p

/-! ### Names that are not there -/

/-- A text in place of the last letters `X` of a template, in the first way that gives a name which is not
there. -/
def freshName (p : Process) (template suffix : Text) : Text :=
  let start := (template.reverse.dropWhile (· = 'X')).reverse
  let width := template.length - start.length
  let letter (n : Nat) : Char := Char.ofNat ('a'.toNat + n % 26)
  let rec marks (seed : Nat) : Nat → Text
    | 0 => []
    | k + 1 => letter (seed + 7 * k) :: marks (seed / 26) k
  let tries := (List.range 676).map fun seed => start ++ marks (seed + 11) width ++ suffix
  (tries.find? fun path => (p.look path false).toOption.isNone).getD template

/-- Makes a file or a directory with a name that is not there, and writes its path. -/
def makeTemporary : Service :=
  withOptions
    { letters := "dqut", valued := "pσ", loose := "τ"
      long := [("directory", 'd'), ("quiet", 'q'), ("dry-run", 'u'), ("tmpdir", 'τ'), ("suffix", 'σ')] } 1 fun o c p =>
    let template := o.operands.head?.getD "tmp.XXXXXXXXXX".toList
    let directory := if let some d := o.value? 'p' then some d
      else if o.has 'τ' then some (match o.value? 'τ' with
        | some [] | none => "/tmp".toList
        | some d => d)
      else if o.has 't' ∨ o.operands = [] then some ((c.environment.lookup "TMPDIR".toList).getD "/tmp".toList)
      else none
    let whole := match directory with
      | some d => inDirectory d template
      | none => template
    let suffix := (whole.reverse.takeWhile (· ≠ 'X')).reverse
    let body := whole.take (whole.length - suffix.length)
    match o.operands with
    | _ :: _ :: _ => c.refuse "too many templates".toList 1 p
    | _ =>
      if !("XXX".toList.isPrefixOf body.reverse) then
        c.fail ("too few X's in template ".toList ++ quoted template) 1 p
      else
        let path := freshName p body suffix
        let made := if o.has 'u' then .ok p
          else if o.has 'd' then (p.tree.addDirectory (p.path path) (p.modeFor 0o700)).map p.setTree
          else (p.tree.locate (p.path path)).bind fun place =>
            if (p.tree.get? place.parent).isSome then .ok (p.setTree (p.tree.create place [] 0o600)) else .error .notFound
        match made with
        | .ok p => ends 0 (p.write 1 (path ++ ['\n']))
        | .error fault =>
          if o.has 'q' then ends 1 p
          else c.fail ("failed to create ".toList ++ (if o.has 'd' then "directory" else "file").toList
            ++ " via template ".toList ++ quoted whole ++ told fault) 1 p

end Flowchart.Tool
