import Flowchart.Files.Mode
import Flowchart.Files.Name
import Flowchart.Tool.Basic

/-!
Tools that copy, move and link what stands at a path: each source goes to a target, or into a directory that
is the target of all of them.
-/

namespace Flowchart.Tool

open Files

/-! ### Sources and targets -/

/-- Where the operands of a tool lead to: each source and its target. -/
inductive Pairs where
  | pairs (ps : List (Text × Text))
  /-- What is wrong with the operands, and whether it is the way the tool is used. -/
  | wrong (message : Text) (usage : Bool)

/-- Pairs the sources among some operands with targets: in the directory that the last operand is, or else
at it. With `plain` the last operand is the target itself, and with `linked` a link to a directory is one. -/
def pairsOf (p : Process) (operands : List Text) (directory? : Option Text) (plain linked : Bool) : Pairs :=
  let into (sources : List Text) (directory : Text) : Pairs :=
    .pairs (sources.map fun s => (s, inDirectory directory (lastName s)))
  match directory? with
  | some directory =>
    if operands = [] then .wrong "missing file operand".toList true
    else match p.look directory with
      | .ok (_, .directory _) => into operands directory
      | .ok _ => .wrong ("target directory ".toList ++ quoted directory ++ told .notDirectory) false
      | .error fault => .wrong ("target directory ".toList ++ quoted directory ++ told fault) false
  | none =>
    match operands with
    | [] => .wrong "missing file operand".toList true
    | [source] => .wrong ("missing destination file operand after ".toList ++ quoted source) true
    | operands =>
      let target := (operands.getLast?).getD []
      let sources := operands.dropLast
      match sources, plain with
      | [source], true => .pairs [(source, target)]
      | _, true => .wrong ("extra operand ".toList ++ quoted (sources.tail.head?.getD [])) true
      | _, false =>
        match p.look target linked with
        | .ok (_, .directory _) => into sources target
        | .ok _ =>
          match sources with
          | [source] => .pairs [(source, target)]
          | _ => .wrong ("target ".toList ++ quoted target ++ told .notDirectory) false
        | .error fault =>
          match sources with
          | [source] =>
            if fault = .notDirectory then .wrong ("cannot stat ".toList ++ quoted target ++ told fault) false
            else .pairs [(source, target)]
          | _ => .wrong ("target ".toList ++ quoted target ++ told fault) false

/-- Deals with each pair; the status tells whether all was done. -/
def forPairs (c : Call) (p : Process) (step : Process → Text → Text → Except Text Process) : Pairs → Exit × Process
  | .wrong message true => c.refuse message 1 p
  | .wrong message false => c.fail message 1 p
  | .pairs ps =>
    let (p, fine) := ps.foldl (fun (p, fine) (source, target) =>
      match step p source target with
      | .ok p => (p, fine)
      | .error message => (c.complain message p, false)) (p, true)
    ends (statusOf fine) p

/-- The start of a path up to the second of two slashes that belong to a name that is put in a directory. -/
def arrow (source target : Text) : Text := quoted source ++ " -> ".toList ++ quoted target

/-! ### Copying -/

structure Copying where
  recursive : Bool
  verbose : Bool
  /-- Whether modes and times are kept. -/
  keeps : Bool
  /-- Whether links are copied as links, at the top and below. -/
  linksAtTop : Bool
  linksBelow : Bool
  /-- Whether a target that is there is removed first. -/
  removes : Bool
  /-- Whether a file gets another name instead of a copy, or a link to it. -/
  hard : Bool
  symbolic : Bool

/-- When the file at a place was written. -/
def writtenAt (t : Tree) (place : Place) : Option Int := (t.fileAt? place).map File.written

/-- Copies a file or a link, or a directory and what is in it. -/
def copyOne (y : Copying) : Nat → Bool → Process → Text → Text → Except Text Process
  | 0, _, _, source, _ => .error ("cannot stat ".toList ++ quoted source ++ told .tooManyLinks)
  | depth + 1, isTop, p, source, target => do
    let said (p : Process) := if y.verbose then p.write 1 (arrow source target ++ ['\n']) else p
    let cannotMake (fault : Fault) := "cannot create regular file ".toList ++ quoted target ++ told fault
    let asLink := if isTop then y.linksAtTop else y.linksBelow
    if (Process.device? source).isSome then
      let (p, t) ← (p.read source).mapError fun fault => "cannot stat ".toList ++ quoted source ++ told fault
      return said (← (p.store target false t).mapError cannotMake)
    else
      let (place, entry) ← (p.look source !asLink).mapError fun fault => "cannot stat ".toList ++ quoted source ++ told fault
      let there ← (p.tree.locate (p.path target) false).mapError fun fault => match entry with
        | .directory _ => "cannot create directory ".toList ++ quoted target ++ told fault
        | _ => cannotMake fault
      let found := p.tree.get? there
      let reached := (p.look target).toOption
      match entry with
      | .directory mode =>
        if !y.recursive then .error ("-r not specified; omitting directory ".toList ++ quoted source)
        else
          let reachedPlace := (reached.map Prod.fst).getD there
          if reachedPlace = place ∨ (Tree.wayBelow? place reachedPlace).isSome then
            .error ("cannot copy a directory, ".toList ++ quoted source ++ ", into itself, ".toList ++ quoted target)
          else
            let inside (p : Process) : Except Text Process := do
              let (p, errors) := (p.tree.names place).foldl (fun (p, errors) name =>
                match copyOne y depth false p (inDirectory source name) (inDirectory target name) with
                | .ok p => (p, errors)
                | .error message => (p, errors ++ [message])) (p, ([] : List Text))
              if errors = [] then return p else .error (['\n'].intercalate errors)
            match found, reached with
            | none, _ => inside (said (p.setTree (p.tree.put there (.directory (if y.keeps then mode else p.modeFor mode)))))
            | some _, some (_, .directory _) => inside p
            | some _, _ =>
              .error ("cannot overwrite non-directory ".toList ++ quoted target ++ " with directory ".toList ++ quoted source)
      | .link path =>
        match found with
        | some (.directory _) =>
          .error ("cannot overwrite directory ".toList ++ quoted target ++ " with non-directory".toList)
        | _ =>
          if there = place then .error (quoted source ++ " and ".toList ++ quoted target ++ " are the same file".toList)
          else return said (p.setTree (p.tree.put there (.link path)))
      | .device d =>
        let b := p.world.addStream (.device d)
        let content := b.1.left b.2
        return said (← (p.store target false (Text.ofOctets content)).mapError cannotMake)
      | .file n =>
        let f := p.tree.fileNumbered n
        match found, reached with
        | _, some (_, .directory _) =>
          .error ("cannot overwrite directory ".toList ++ quoted target ++ " with non-directory".toList)
        | some _, none =>
          .error ("not writing through dangling symlink ".toList ++ quoted target)
        | some existing, some (_, .file m) =>
          let alone := existing ≠ .file m
          if m = n ∧ !(y.removes ∧ there ≠ place) then
            if y.hard then return p
            else .error (quoted source ++ " and ".toList ++ quoted target ++ " are the same file".toList)
          else if y.hard ∨ y.symbolic then
            if y.removes then return said (p.setTree (p.tree.put there (if y.hard then .file n else .link source)))
            else .error (("cannot create ".toList ++ (if y.hard then "hard" else "symbolic").toList ++ " link ".toList
              ++ quoted target ++ (if y.hard then " to ".toList ++ quoted source else []) ++ told .alreadyThere))
          else if y.removes ∧ (alone ∨ m = n) then
            return said (p.setTree (p.tree.create there f.content (if y.keeps then f.mode else p.modeFor f.mode)))
          else
            let t := p.tree.fill m f.content
            return said (p.setTree (if y.keeps then t.putFile m { f with content := f.content } else t))
        | some _, some _ => return said (← (p.store target false (Text.ofOctets f.content)).mapError cannotMake)
        | none, _ =>
          if endsInSlash target then .error (cannotMake .notDirectory)
          else if y.hard then return said (p.setTree (p.tree.put there (.file n)))
          else if y.symbolic then
            if source.head? ≠ some '/' ∧ '/' ∈ target ∧ (Text.splitAt '/' target).length ≠ 1 then
              .error (quoted target ++ ": can make relative symbolic links only in current directory".toList)
            else return said (p.setTree (p.tree.put there (.link source)))
          else
            let t := p.tree.create there f.content (if y.keeps then f.mode else p.modeFor f.mode)
            match t.get? there, y.keeps with
            | some (.file k), true => return said (p.setTree (t.putFile k f))
            | _, _ => return said (p.setTree t)

/-- How deep directories are copied. -/
def maxCopied : Nat := 64

def copy : Service :=
  withOptions
    { letters := "aRrfipnvTduLPHlsbxδ", valued := "tS", loose := "π"
      long := [("archive", 'a'), ("recursive", 'r'), ("force", 'f'), ("verbose", 'v'), ("no-target-directory", 'T'),
        ("target-directory", 't'), ("no-clobber", 'n'), ("update", 'u'), ("dereference", 'L'), ("no-dereference", 'P'),
        ("link", 'l'), ("symbolic-link", 's'), ("preserve", 'π'), ("interactive", 'i'), ("remove-destination", 'δ')] }
    1 fun o c p =>
    let recursive := o.has 'r' || o.has 'R' || o.has 'a'
    let asLinks := match o.last? "LPHda" with
      | some 'L' => (false, false)
      | some 'H' => (false, true)
      | some _ => (true, true)
      | none => (recursive, recursive)
    let y : Copying := ⟨recursive, o.has 'v', o.has 'p' || o.has 'a' || o.has 'π', asLinks.1, asLinks.2,
      o.has 'f' || o.has 'δ', o.has 'l', o.has 's'⟩
    let older (p : Process) (source target : Text) : Bool :=
      match p.look source, p.look target with
      | .ok (s, _), .ok (t, _) =>
        match writtenAt p.tree s, writtenAt p.tree t with
        | some m, some n => m ≤ n
        | _, _ => false
      | _, _ => false
    forPairs c p (fun p source target =>
      if o.has 'n' && (p.look target).toOption.isSome then .ok p
      else if o.has 'u' && older p source target then .ok p
      else copyOne y maxCopied true p source target) (pairsOf p o.operands (o.value? 't') (o.has 'T') true)

/-! ### Moving -/

def moveOne (verbose : Bool) (p : Process) (source target : Text) : Except Text Process := do
  let cannot (fault : Fault) := "cannot move ".toList ++ quoted source ++ " to ".toList ++ quoted target ++ told fault
  let (place, entry) ← (p.look source false).mapError fun fault => "cannot stat ".toList ++ quoted source ++ told fault
  let there ← (p.tree.locate (p.path target) false).mapError cannot
  let isDirectory := match entry with
    | .directory _ => true
    | _ => false
  let found := p.tree.get? there
  if there = place then .error (quoted source ++ " and ".toList ++ quoted target ++ " are the same file".toList)
  else match found, isDirectory with
    | some (.directory _), false =>
      .error ("cannot overwrite directory ".toList ++ quoted target ++ " with non-directory".toList)
    | some (.file _), true | some (.link _), true | some (.device _), true =>
      .error ("cannot overwrite non-directory ".toList ++ quoted target ++ " with directory ".toList ++ quoted source)
    | _, _ =>
      let renamed := if found = some entry ∧ !isDirectory then .ok (p.tree.erase place)
        else p.tree.rename (p.path source) (p.path target)
      match renamed with
      | .ok t =>
        let p := p.setTree t
        return if verbose then p.write 1 ("renamed ".toList ++ arrow source target ++ ['\n']) else p
      | .error .invalid =>
        .error ("cannot move ".toList ++ quoted source ++ " to a subdirectory of itself, ".toList ++ quoted target)
      | .error .notEmpty => .error ("cannot overwrite ".toList ++ quoted target ++ told .notEmpty)
      | .error fault => .error (cannot fault)

def move : Service :=
  withOptions
    { letters := "fivnTub", valued := "tS"
      long := [("force", 'f'), ("verbose", 'v'), ("no-target-directory", 'T'), ("target-directory", 't'),
        ("no-clobber", 'n'), ("update", 'u'), ("interactive", 'i')] } 1 fun o c p =>
    forPairs c p (fun p source target =>
      if o.has 'n' && (p.look target).toOption.isSome then .error ("not replacing ".toList ++ quoted target)
      else moveOne (o.has 'v') p source target) (pairsOf p o.operands (o.value? 't') (o.has 'T') true)

/-! ### Linking -/

/-- The names on the way to a place from the root, where the working directory has the given ones. -/
def wayFromRoot (place : Place) : List Text :=
  match place.origin with
  | .root => place.names
  | .above levels => "\x00".toList :: List.replicate levels ['.', '.'] ++ place.names

/-- Gives a file another name, or makes a link to a path. -/
def linkOne (o : Options) (p : Process) (source target : Text) : Except Text Process := do
  let symbolic := o.has 's'
  let kind := (if symbolic then "symbolic link " else "hard link ").toList
  let said (p : Process) : Process := if o.has 'v' then
    p.write 1 (quoted target ++ (if symbolic then " -> " else " => ").toList ++ quoted source ++ ['\n']) else p
  let cannot (fault : Fault) : Text := "failed to create ".toList ++ kind ++ quoted target ++
    (if symbolic ∨ fault = .alreadyThere then [] else " => ".toList ++ quoted source) ++ told fault
  let entry ←
    if symbolic then
      let place? := (p.tree.locate (p.path target) false).toOption
      let path := if o.has 'r' then
          match place?, (p.tree.locate (p.path source)).toOption with
          | some place, some there => wayBetween (wayFromRoot place.parent) (wayFromRoot there)
          | _, _ => source
        else source
      if path = [] then .error (cannot .notFound) else pure (Entry.link path)
    else
      match p.look source (o.has 'L') with
      | .error fault => .error ("failed to access ".toList ++ quoted source ++ told fault)
      | .ok (_, .directory _) => .error (named source ++ ": hard link not allowed for directory".toList)
      | .ok (_, entry) => pure entry
  match p.tree.locate (p.path target) false with
  | .error fault => .error (cannot fault)
  | .ok there =>
    match p.tree.get? there with
    | none =>
      if endsInSlash target then .error (cannot .notFound) else return said (p.setTree (p.tree.put there entry))
    | some (.directory _) =>
      if o.has 'f' then .error (quoted target ++ ": cannot overwrite directory".toList) else .error (cannot .alreadyThere)
    | some found =>
      let same := found = entry ∨ (p.tree.locate (p.path source) false).toOption = some there
      if o.has 'f' then
        if same ∧ (!symbolic ∨ (p.tree.locate (p.path source) false).toOption = some there) then
          if !symbolic ∧ (p.tree.locate (p.path source) false).toOption ≠ some there then return said p
          else .error (quoted source ++ " and ".toList ++ quoted target ++ " are the same file".toList)
        else return said (p.setTree (p.tree.put there entry))
      else .error (cannot .alreadyThere)

def link : Service :=
  withOptions
    { letters := "sfnvTrLPbidF", valued := "tS"
      long := [("symbolic", 's'), ("force", 'f'), ("no-dereference", 'n'), ("verbose", 'v'), ("relative", 'r'),
        ("no-target-directory", 'T'), ("target-directory", 't'), ("logical", 'L'), ("physical", 'P')] } 1 fun o c p =>
    let pairs := match o.operands, o.value? 't' with
      | [source], none =>
        if o.has 'T' then .wrong ("missing destination file operand after ".toList ++ quoted source) true
        else Pairs.pairs [(source, "./".toList ++ lastName source)]
      | operands, directory? => pairsOf p operands directory? (o.has 'T') (!o.has 'n')
    forPairs c p (linkOne o) pairs

def linkPlainly : Service :=
  withOptions { letters := "" } 1 fun o c p =>
    match o.operands with
    | [] => c.refuse "missing operand".toList 1 p
    | [source] => c.refuse ("missing operand after ".toList ++ quoted source) 1 p
    | [source, target] =>
      let cannot (fault : Fault) : Exit × Process :=
        c.fail ("cannot create link ".toList ++ quoted target ++ " to ".toList ++ quoted source ++ told fault) 1 p
      match p.look source false, p.tree.locate (p.path target) false with
      | .error fault, _ | _, .error fault => cannot fault
      | .ok (_, .directory _), _ => cannot .notPermitted
      | .ok (_, entry), .ok there =>
        if (p.tree.get? there).isSome then cannot .alreadyThere else ends 0 (p.setTree (p.tree.put there entry))
    | _ :: _ :: extra :: _ => c.refuse ("extra operand ".toList ++ quoted extra) 1 p

/-! ### Installing -/

/-- Copies files to where they are used and sets their mode, or makes directories. -/
def install : Service :=
  withOptions
    { letters := "dDvTcpsbC", valued := "mtog"
      long := [("mode", 'm'), ("directory", 'd'), ("verbose", 'v'), ("target-directory", 't'),
        ("no-target-directory", 'T')] } 1 fun o c p =>
    match (Mode.change? ((o.value? 'm').getD "755".toList)) with
    | none => c.fail ("invalid mode ".toList ++ quoted ((o.value? 'm').getD [])) 1 p
    | some change =>
      let mode := change.apply 0 false 0
      if o.has 'd' then
        if o.operands = [] then c.refuse "missing file operand".toList 1 p
        else forEach c p o.operands fun p path =>
          match p.tree.makeDirectory (p.path path) with
          | .error fault => .error ("cannot create directory ".toList ++ quoted path ++ told fault)
          | .ok t =>
            match t.look (p.path path) with
            | .ok (place, .directory _) => .ok (p.setTree (t.put place (.directory mode)))
            | _ => .ok (p.setTree t)
      else
        let p := if o.has 'D' then
            match o.value? 't', o.operands.getLast? with
            | some directory, _ => p.setTree ((p.tree.makeDirectory (p.path directory)).toOption.getD p.tree)
            | none, some target =>
              p.setTree ((p.tree.makeDirectory (p.path (directoryOf target))).toOption.getD p.tree)
            | none, none => p
          else p
        forPairs c p (fun p source target =>
          match p.read source with
          | .error .isDirectory => .error ("omitting directory ".toList ++ quoted source)
          | .error fault => .error ("cannot stat ".toList ++ quoted source ++ told fault)
          | .ok (p, t) =>
            let cannot (fault : Fault) := "cannot create regular file ".toList ++ quoted target ++ told fault
            match p.tree.locate (p.path target) false with
            | .error fault => .error (cannot fault)
            | .ok there =>
              match p.tree.get? there with
              | some (.directory _) =>
                .error ("cannot overwrite directory ".toList ++ quoted target ++ " with non-directory".toList)
              | found =>
                let said := if o.has 'v' then
                  (if found.isSome then "removed ".toList ++ quoted target ++ ['\n'] else [])
                    ++ arrow source target ++ ['\n'] else []
                .ok ((p.setTree (p.tree.create there (Text.octets t) mode)).write 1 said))
          (pairsOf p o.operands (o.value? 't') (o.has 'T') true)

end Flowchart.Tool
