import Flowchart.Tool.Copying
import Flowchart.Tool.Order
import Flowchart.Tool.Places

/-!
Tools that tell what stands at a path: they list directories, tell what is known of files, and follow links.
-/

namespace Flowchart.Tool

open Files

/-! ### What is known of an entry -/

/-- The letter for what an entry is. -/
def kindLetter : Entry → Char
  | .file _ => '-'
  | .directory _ => 'd'
  | .link _ => 'l'
  | .device _ => 'c'

/-- The words for what an entry is. -/
def kindWords (t : Tree) : Entry → String
  | .file n => if (t.fileNumbered n).content = [] then "regular empty file" else "regular file"
  | .directory _ => "directory"
  | .link _ => "symbolic link"
  | .device _ => "character special file"

/-- How many bytes a directory takes. -/
def directorySize : Nat := 4096

def sizeOf (t : Tree) : Entry → Nat
  | .file n => (t.fileNumbered n).content.length
  | .directory _ => directorySize
  | .link target => target.length
  | .device _ => 0

def namesOf (t : Tree) (place : Place) : Entry → Nat
  | .file n => t.entries.countP fun e => e.2 = .file n
  | .directory _ =>
    2 + (t.names place).countP fun name => match t.get? (place.child name) with
      | some (.directory _) => true
      | _ => false
  | _ => 1

def writtenOf (t : Tree) : Entry → Int
  | .file n => (t.fileNumbered n).written
  | _ => Tree.startTime

def modeOf (t : Tree) : Entry → Nat
  | .file n => (t.fileNumbered n).mode
  | .directory mode => mode
  | .link _ => 0o777
  | .device _ => 0o666

/-- The mark behind a name for what it is. -/
def classMark (t : Tree) (onlyDirectories : Bool) : Entry → Text
  | .directory _ => ['/']
  | .file n => if !onlyDirectories ∧ (t.fileNumbered n).isExecutable then ['*'] else []
  | .link _ => if onlyDirectories then [] else ['@']
  | .device _ => []

/-! ### Listing -/

/-- Something that is listed: the name that is shown, where it stands and what it is. -/
structure Listed where
  name : Text
  place : Place
  entry : Entry

/-- The options that a listing knows. -/
def listingOptions : Known :=
  { letters := "1aAdFpCqURrtSXLmNxBcuvfQHb", valued := "wTσ"
    long := [("all", 'a'), ("almost-all", 'A'), ("directory", 'd'), ("recursive", 'R'), ("reverse", 'r'),
      ("dereference", 'L'), ("classify", 'F'), ("sort", 'σ'), ("ignore-backups", 'B'), ("literal", 'N'),
      ("quote-name", 'Q'), ("tabsize", 'T'), ("width", 'w')] }

/-- Puts what is listed in the order that the options ask for. -/
def arranged (o : Options) (t : Tree) (ls : List Listed) : List Listed :=
  let byName := ls.mergeSort fun a b => octetOrder a.name b.name ≠ .gt
  let ending (name : Text) : Text :=
    if '.' ∈ name.tail then (name.reverse.takeWhile (· ≠ '.')).reverse else []
  let sort := match o.last? "tSXvUσ" with
    | some 'σ' => match (o.value? 'σ').getD [] |> String.ofList with
      | "time" => 't'
      | "size" => 'S'
      | "extension" => 'X'
      | "version" => 'v'
      | _ => ' '
    | some c => c
    | none => ' '
  let sorted := match sort with
    | 't' => byName.mergeSort fun a b => writtenOf t b.entry ≤ writtenOf t a.entry
    | 'S' => byName.mergeSort fun a b => sizeOf t b.entry ≤ sizeOf t a.entry
    | 'X' => byName.mergeSort fun a b => octetOrder (ending a.name) (ending b.name) ≠ .gt
    | 'v' => byName.mergeSort fun a b => versionOrder a.name b.name ≠ .gt
    | _ => byName
  if o.has 'r' then sorted.reverse else sorted

def rowsOf (o : Options) (t : Tree) (ls : List Listed) : List Text :=
  ls.map fun l =>
    (if o.has 'Q' then '"' :: l.name ++ ['"'] else l.name)
      ++ (if o.has 'F' then classMark t false l.entry else if o.has 'p' then classMark t true l.entry else [])

/-- Rows as they are written: one on a line, or all on one line with commas between them. -/
def layOut (o : Options) (rows : List Text) : Text :=
  if o.has 'm' then
    if rows.isEmpty then [] else ", ".toList.intercalate rows ++ ['\n']
  else joined rows

/-- The listing of a directory, and with `R` of those below it, under their paths. -/
def listDirectory (o : Options) (t : Tree) : Nat → Text → Place → List (Text × Text)
  | 0, _, _ => []
  | depth + 1, path, place =>
    let hidden := o.has 'a' || o.has 'A' || o.has 'f'
    let names := (t.names place).filter fun name =>
      (hidden || name.head? ≠ some '.') && !(o.has 'B' && name.getLast? = some '~')
    let dots := if o.has 'a' || o.has 'f' then
      [Listed.mk ['.'] place (.directory (modeAt t place)), ⟨['.', '.'], place.parent, .directory (modeAt t place.parent)⟩]
      else []
    let found := names.filterMap fun name =>
      let there := if o.has 'L' then (t.follow true (maxLinks + 1) place [name]).toOption.getD (place.child name)
        else place.child name
      (t.get? there).map fun entry => Listed.mk name there entry
    let ls := arranged o t (dots ++ found)
    let below := if o.has 'R' then
      ls.flatMap fun l =>
        match l.entry with
        | .directory _ =>
          if l.name = ['.'] ∨ l.name = ['.', '.'] then []
          else listDirectory o t depth (inDirectory path l.name) l.place
        | _ => []
      else []
    (path, layOut o (rowsOf o t ls)) :: below

/-- Writes the names of what stands at its operands and in directories. -/
def list : Service :=
  withOptions listingOptions 2 fun o c p =>
    let operands := if o.operands = [] then [['.']] else o.operands
    let (p, found, fine) := operands.foldl (fun (p, found, fine) path =>
      let follows := !(o.has 'd' || o.has 'F') || o.has 'L' || o.has 'H'
      let result := if follows ∧ !o.has 'L' ∧ (p.look path).toOption.isNone then p.look path false else p.look path follows
      match result with
      | .error fault => (c.complain ("cannot access ".toList ++ quoted path ++ told fault) p, found, false)
      | .ok (place, entry) => (p, found ++ [Listed.mk path place entry], fine)) (p, ([] : List Listed), true)
    let t := p.tree
    let isListed (l : Listed) : Bool := match l.entry with
      | .directory _ => !o.has 'd'
      | _ => false
    let (directories, files) := (arranged o t found).partition isListed
    let blocks := (if files.isEmpty then [] else [layOut o (rowsOf o t files)])
      ++ (directories.flatMap fun l => listDirectory o t maxRemoved l.name l.place).map fun (path, rows) =>
        (if 1 < operands.length ∨ o.has 'R' then named path ++ ":\n".toList else []) ++ rows
    ends (if fine then 0 else 2) (p.write 1 (['\n'].intercalate blocks))

/-! ### Facts -/

/-- A fact about an entry by the letter for it. -/
def fact (t : Tree) (path : Text) (place : Place) (entry : Entry) (letter : Char) : Option Text :=
  let digits (n : Nat) : Text := Text.decimal n
  match letter with
  | 'n' => some path
  | 'N' => some (match entry with
    | .link target => quoted path ++ " -> ".toList ++ quoted target
    | _ => if isPlainWord path then '\'' :: path ++ ['\''] else quoted path)
  | 's' => some (digits (sizeOf t entry))
  | 'a' => some (Mode.octal 1 (modeOf t entry))
  | 'A' => some (kindLetter entry :: Mode.letters (modeOf t entry))
  | 'f' =>
    let kind := match entry with
      | .file _ => 0o100000
      | .directory _ => 0o040000
      | .link _ => 0o120000
      | .device _ => 0o020000
    some (Nat.toDigits 16 (kind + modeOf t entry))
  | 'F' => some (kindWords t entry).toList
  | 'h' => some (digits (namesOf t place entry))
  | 'u' | 'g' => some ['0']
  | 'U' | 'G' => some "root".toList
  | _ => none

/-- Facts in a format. Flags and a width may stand behind the percent sign. -/
def facts (t : Tree) (path : Text) (place : Place) (entry : Entry) (escapes : Bool) : Nat → Text → Text
  | 0, _ => []
  | _ + 1, [] => []
  | fuel + 1, '%' :: rest =>
    let go := facts t path place entry escapes fuel
    let flags := rest.takeWhile fun c => "-0+ #".toList.contains c
    let behind := rest.drop flags.length
    let width := behind.takeWhile Char.isDigit
    match behind.drop width.length with
    | '%' :: more => '%' :: go more
    | c :: more =>
      let t := (fact t path place entry c).getD ['?']
      let n := Text.natOfDigits 10 width
      let t := if c = 'a' ∧ '#' ∈ flags ∧ t.head? ≠ some '0' then '0' :: t else t
      (if '-' ∈ flags then left n t
        else if '0' ∈ flags ∧ t.all Char.isDigit then List.replicate (n - t.length) '0' ++ t else right n t) ++ go more
    | [] => ['%']
  | fuel + 1, '\\' :: c :: rest =>
    if escapes then
      (match c with
        | 'n' => ['\n']
        | 't' => ['\t']
        | '\\' => ['\\']
        | '"' => ['"']
        | '0' => ['\x00']
        | c => ['\\', c]) ++ facts t path place entry escapes fuel rest
    else '\\' :: facts t path place entry escapes fuel (c :: rest)
  | fuel + 1, c :: rest => c :: facts t path place entry escapes fuel rest

/-- Tells what is known of files, in a format. -/
def status : Service :=
  withOptions
    { letters := "L", valued := "cπ", long := [("format", 'c'), ("printf", 'π'), ("dereference", 'L')] } 1 fun o c p =>
    if o.operands = [] then c.refuse "missing operand".toList 1 p
    else forEach c p o.operands fun p path =>
      match p.look path (o.has 'L') with
      | .error fault => .error ("cannot statx ".toList ++ quoted path ++ told fault)
      | .ok (place, entry) =>
        let t := match o.last? "cπ" with
          | some 'π' =>
            let f := (o.value? 'π').getD []
            facts p.tree path place entry true (f.length + 1) f
          | _ =>
            let f := (o.value? 'c').getD "%n".toList
            facts p.tree path place entry false (f.length + 1) f ++ ['\n']
        .ok (p.write 1 t)

/-! ### Links -/

def wholePath (place : Place) : Text :=
  match place.origin with
  | .root => place.path
  | .above _ => '/' :: place.path

/-- Writes where links lead, or the whole path of what a path leads to. -/
def readLink : Service :=
  withOptions
    { letters := "femnqszv"
      long := [("canonicalize", 'f'), ("canonicalize-existing", 'e'), ("canonicalize-missing", 'm'), ("no-newline", 'n'),
        ("quiet", 'q'), ("silent", 's'), ("verbose", 'v'), ("zero", 'z')] } 1 fun o c p =>
    if o.operands = [] then c.refuse "missing operand".toList 1 p
    else
      let mark := if o.has 'z' then ['\x00'] else if o.has 'n' ∧ o.operands.length = 1 then [] else ['\n']
      let (p, fine) := o.operands.foldl (fun (p, fine) path =>
        let fail (fault : Fault) : Process × Bool :=
          (if o.has 'v' then c.complain (named path ++ told fault) p else p, false)
        if o.has 'f' || o.has 'e' || o.has 'm' then
          match p.tree.locate (p.path path) with
          | .error fault => if o.has 'm' then (p.write 1 ('/' :: p.path path ++ mark), fine) else fail fault
          | .ok place =>
            if o.has 'e' && (p.tree.get? place).isNone then fail .notFound
            else if !o.has 'm' && (p.tree.get? place.parent).isNone then fail .notFound
            else (p.write 1 (wholePath place ++ mark), fine)
        else match p.look path false with
          | .ok (_, .link target) => (p.write 1 (target ++ mark), fine)
          | .ok _ => fail .invalid
          | .error fault => fail fault) (p, true)
      ends (statusOf fine) p

/-- Writes the whole paths of what paths lead to. -/
def realPath : Service :=
  withOptions
    { letters := "emsqzLP", valued := "ρβ"
      long := [("canonicalize-existing", 'e'), ("canonicalize-missing", 'm'), ("no-symlinks", 's'), ("quiet", 'q'),
        ("relative-to", 'ρ'), ("relative-base", 'β'), ("zero", 'z')] } 1 fun o c p =>
    if o.operands = [] then c.refuse "missing operand".toList 1 p
    else
      let (p, fine) := o.operands.foldl (fun (p, fine) path =>
        let fail (fault : Fault) : Process × Bool :=
          (if o.has 'q' then p else c.complain (named path ++ told fault) p, false)
        match p.tree.locate (p.path path) with
        | .error fault => if o.has 'm' then (p.write 1 ('/' :: p.path path ++ ['\n']), fine) else fail fault
        | .ok place =>
          if o.has 'e' && (p.tree.get? place).isNone then fail .notFound
          else
            let base := (o.value? 'ρ').bind fun d => (p.tree.locate (p.path d)).toOption
            let t := match base with
              | some directory => wayBetween (wayFromRoot directory) (wayFromRoot place)
              | none => wholePath place
            (p.write 1 (t ++ [if o.has 'z' then '\x00' else '\n']), fine)) (p, true)
      ends (statusOf fine) p

end Flowchart.Tool
