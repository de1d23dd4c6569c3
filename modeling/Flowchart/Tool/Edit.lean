import Flowchart.Editing.Reader
import Flowchart.Editing.Run
import Flowchart.Tool.Start

/-!
The tool that edits its inputs by a script, and writes the result or puts it in the place of the files.
-/

namespace Flowchart.Tool

open Files

/-- A part of a script: where it comes from, and its text. -/
structure ScriptPart where
  /-- The file, or the number of the expression. -/
  source : Text ⊕ Nat
  text : Text

/-- The parts of a script that the options give. -/
def scriptParts (p : Process) : Nat → List (Char × Text) → Except Text (List ScriptPart)
  | _, [] => .ok []
  | n, ('e', t) :: more => do return ⟨.inr n, t⟩ :: (← scriptParts p (n + 1) more)
  | n, ('f', path) :: more =>
    match take p path with
    | .ok (_, t) => do
      let t := Text.dropLastIf '\n' t
      return ⟨.inl path, t⟩ :: (← scriptParts p n more)
    | .error fault => .error ("couldn't open file ".toList ++ path ++ told fault)
  | n, _ :: more => scriptParts p n more

/-- Where a script cannot be read: the part, and how much of it has been read. -/
def placeIn (parts : List ScriptPart) (read : Nat) : Option (ScriptPart × Nat) :=
  match parts with
  | [] => none
  | [part] => some (part, read)
  | part :: more => if read ≤ part.text.length then some (part, read) else placeIn more (read - part.text.length - 1)

/-- What is said of a script that cannot be read. -/
def scriptFault (parts : List ScriptPart) (total : Nat) (f : Editing.Fault) : Text :=
  match f.left with
  | none =>
    if "unmatched".toList.isPrefixOf f.reason then
      match parts.getLast? with
      | some ⟨.inr n, _⟩ => "-e expression #".toList ++ Text.decimal n ++ ", char 0: ".toList ++ f.reason
      | some ⟨.inl path, _⟩ => "file ".toList ++ path ++ " line 0: ".toList ++ f.reason
      | none => f.reason
    else f.reason
  | some left =>
    match placeIn parts (total - left) with
    | some (⟨.inr n, _⟩, read) =>
      "-e expression #".toList ++ Text.decimal n ++ ", char ".toList ++ Text.decimal read ++ ": ".toList ++ f.reason
    | some (⟨.inl path, t⟩, read) =>
      "file ".toList ++ path ++ " line ".toList ++ Text.decimal ((t.take read).count '\n' + 1) ++ ": ".toList ++ f.reason
    | none => f.reason

/-- The lines of a text that comes from a file of a number. -/
def inputLines (mark : Char) (file : Nat) (t : Text) : List Editing.InputLine :=
  (piecesOf mark t).map fun piece => ⟨unmarked mark piece, piece.getLast? = some mark, file⟩

def editingOptions : Known :=
  { letters := "nErszu", valued := "efl", loose := "iπ"
    long := [("quiet", 'n'), ("silent", 'n'), ("expression", 'e'), ("file", 'f'), ("regexp-extended", 'E'),
      ("separate", 's'), ("null-data", 'z'), ("unbuffered", 'u'), ("in-place", 'i'), ("line-length", 'l'), ("posix", 'π'),
      ("debug", 'π'), ("follow-symlinks", 'π'), ("sandbox", 'π')] }

def openOutputs (p : Process) : List Text → Except Text (Process × List (Text × Nat))
  | [] => .ok (p, [])
  | path :: more =>
    if path = "/dev/stdout".toList then openOutputs p more
    else match p.openToWrite path false false with
      | .error fault => .error ("couldn't open file ".toList ++ path ++ told fault)
      | .ok (p, n) => do
        let (p, others) ← openOutputs p more
        return (p, (path, n) :: others)

/-- Reads the inputs of a script: the lines of all files, and whether all could be read. -/
def editedInputs (mark : Char) (inPlace : Bool) (c : Call) (p : Process) (operands : List Text) :
    Process × List Editing.InputLine × Bool :=
  (operands.zipIdx).foldl (fun (p, ls, fine) (operand, k) =>
    let complain (message : Text) : Process × List Editing.InputLine × Bool := (c.complain message p, ls, false)
    if operand = ['-'] ∧ !inPlace then (p, ls ++ inputLines mark k (Text.ofOctets (p.left 0)), fine)
    else match p.read operand with
      | .ok (p, t) => (p, ls ++ inputLines mark k t, fine)
      | .error .isDirectory =>
        if inPlace then complain ("couldn't edit ".toList ++ operand ++ ": not a regular file".toList)
        else complain ("read error on ".toList ++ operand ++ told .isDirectory)
      | .error fault => complain ("can't read ".toList ++ operand ++ told fault)) (p, [], true)

/-- Puts an edited text in the place of a file; with a suffix the file is kept under another name. -/
def putInPlace (p : Process) (path suffix text : Text) : Process :=
  match p.look path with
  | .ok (place, .file n) =>
    let f := p.tree.fileNumbered n
    let name := lastName path
    let other := if '*' ∈ suffix then suffix.flatMap fun c => if c = '*' then name else [c] else name ++ suffix
    let backup := if '/' ∈ other then other
      else if '/' ∈ path then inDirectory (directoryOf path) other else other
    let t := if suffix = [] then p.tree else match p.tree.locate (p.path backup) with
      | .ok there => p.tree.put there (.file n)
      | .error _ => p.tree
    p.setTree (t.create place (Text.octets text) f.mode)
  | _ => p

/-- Takes from the standard input what has been read of it. -/
def consume (p : Process) (lines left : List Editing.InputLine) (file : Nat) : Process :=
  let size (ls : List Editing.InputLine) : Nat :=
    ((ls.filter fun l => l.file = file).map fun l => l.text.length + if l.ended then 1 else 0).foldl (· + ·) 0
  if size left = 0 then (p.readAll 0).1
  else
    let used := size lines - size left
    (p.readBytes 0 ((used + 4095) / 4096 * 4096)).1

def edit : Service := fun c p =>
  let usage : Text := "Usage: ".toList ++ c.name ++ " [OPTION]... \x7bscript-only-if-no-other-script\x7d [input-file]...\n".toList
  match readOptions editingOptions false {} (c.arguments.length + 1) c.arguments with
  | .error message => ends 1 (p.write 2 (c.name ++ ": ".toList ++ message ++ '\n' :: usage))
  | .ok o =>
    let given := o.given.filter fun g => g.1 = 'e' || g.1 = 'f'
    match given, o.operands with
    | [], [] => ends 1 (p.write 2 usage)
    | given, operands =>
      let parts := if given = [] then .ok [ScriptPart.mk (.inr 1) (operands.head?.getD [])] else scriptParts p 1 given
      let operands := if given = [] then operands.tail else operands
      match parts with
      | .error message => c.fail message 1 p
      | .ok parts =>
        let text := ['\n'].intercalate (parts.map ScriptPart.text)
        match Editing.Script.read ⟨o.has 'E' || o.has 'r'⟩ text with
        | .error fault => c.fail (scriptFault parts text.length fault) 1 p
        | .ok script =>
          match openOutputs p script.targets.eraseDups with
          | .error message => c.fail message 4 p
          | .ok (p, outputs) =>
            let inPlace := o.has 'i'
            let mark := if o.has 'z' then '\x00' else '\n'
            let names := inputs operands
            let (p, lines, fine) := editedInputs mark inPlace c p names
            let setting : Editing.Setting :=
              { script
                quiet := o.has 'n' || "#n\n".toList.isPrefixOf (text ++ ['\n'])
                separate := inPlace || o.has 's'
                mark
                width := ((o.value? 'l').bind natural?).getD 70
                names := names.toArray
                contents := fun path =>
                  (p.read (if path = "/dev/stdin".toList then path else path)).toOption.map Prod.snd }
            let s := setting.start lines
            let standard := names.idxOf? ['-']
            let p := match standard with
              | some k => if inPlace then p else consume p lines s.waiting k
              | none => p
            let written := s.written.reverse
            let p := written.foldl (fun p (target, t) =>
              match target with
              | .main _ => if inPlace then p else p.write 1 t
              | .file path =>
                match outputs.lookup path with
                | some n => { p with world := p.world.write n (Text.octets t) }
                | none => p) p
            let p := if inPlace then
                (names.zipIdx).foldl (fun p (path, k) =>
                  if lines.any (fun l => l.file = k) then
                    let t := (written.filter fun w => w.1 = .main k).flatMap Prod.snd
                    -- lines that have not been read stay as they are
                    let rest := (s.waiting.filter fun l => l.file = k).flatMap fun l =>
                      l.text ++ if l.ended then [mark] else []
                    putInPlace p path ((o.value? 'i').getD []) (t ++ rest)
                  else p) p
              else p
            if s.lacksRegex then
              c.fail "-e expression #1, char 0: no previous regular expression".toList 1 p
            else
              let failed := if inPlace then 4 else 2
              ends (match s.status with
                | some n => if n = 0 ∧ !fine then failed else n
                | none => if fine then 0 else failed) p

end Flowchart.Tool
