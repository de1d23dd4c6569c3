import Flowchart.Output.Format

/-!
Command line options. Arguments are read from left to right: long options stand alone or with a value behind
an equals sign or in the next argument, short ones may stand together, and behind two dashes every argument
is a path. An option that is given twice, a value that is missing or refused and a second path are misuse;
a request for help counts only if nothing before it is wrong.

Command lines are read by a library, which is no part of the program. Of it is assumed what it documents: how the
options that the program declares may be written, that an option may be given once, and that a value may not look like
an option. Which options these are, and what they are for, is up to the program.
-/

namespace Flowchart.CommandLine

/-- What the arguments ask for. -/
structure Options where
  input? : Option Text := none
  format? : Option OutputFormat := none
  output? : Option Text := none
  config? : Option Text := none
  emitDot : Bool := false
  check : Bool := false
  keepSource : Bool := false
  verbose : Bool := false
deriving DecidableEq, Repr

namespace Options

def format (o : Options) : OutputFormat := o.format?.getD (.image .png)

def output (o : Options) : Text := o.output?.getD "generated_flowchart".toList

end Options

/-- An option without a value. -/
inductive Flag where
  | emitDot
  | check
  | keepSource
  | verbose
deriving DecidableEq, Repr

/-- An option with a value. -/
inductive Setting where
  | format
  | output
  | config
deriving DecidableEq, Repr

/-- What is read from an argument. -/
inductive Item where
  | flag (f : Flag)
  | setting (s : Setting) (value : Text)
  | path (value : Text)
  | help
  | misuse
deriving DecidableEq, Repr

/-! ### Reading arguments -/

def Flag.ofName? (name : Text) : Option Flag :=
  ([("emit-dot".toList, .emitDot), ("check".toList, .check), ("keep-source".toList, .keepSource),
    ("verbose".toList, .verbose)] : List (Text × Flag)).lookup name

def Setting.ofName? (name : Text) : Option Setting :=
  ([("format".toList, .format), ("output".toList, .output), ("config".toList, .config)] :
    List (Text × Setting)).lookup name

def Setting.ofLetter? (c : Char) : Option Setting :=
  ([('f', .format), ('o', .output), ('c', .config)] : List (Char × Setting)).lookup c

/-- Whether an argument cannot be the value of the option before it. -/
def looksLikeOption (argument : Text) : Bool := argument.head? = some '-' && argument ≠ ['-']

/-- Reads a long option, its dashes left out, with the setting that waits for a value. -/
def long (t : Text) : List Item × Option Setting :=
  let (name, value?) := match Text.cut? '=' t with
    | some (name, value) => (name, some value)
    | none => (t, none)
  match Flag.ofName? name, Setting.ofName? name, value? with
  | some f, _, none => ([.flag f], none)
  | none, some s, some value => ([.setting s value], none)
  | none, some s, none => ([], some s)
  | none, none, none => (if name = "help".toList then [.help] else [.misuse], none)
  | _, _, _ => ([.misuse], none)

/-- Reads short options that stand together, with the setting that waits for a value. -/
def short : Text → List Item × Option Setting
  | [] => ([], none)
  | c :: rest =>
    if c = 'v' then
      let (items, pending) := short rest
      (.flag .verbose :: items, pending)
    else if c = 'h' then ([.help], none)
    else match Setting.ofLetter? c with
      | none => ([.misuse], none)
      | some s => if rest = [] then ([], some s) else ([.setting s ((['='].isPrefixOf? rest).getD rest)], none)

/-- Reads arguments; `pending` is the setting that waits for a value. -/
def items (pending : Option Setting) : List Text → List Item
  | [] => if pending.isSome then [.misuse] else []
  | argument :: more =>
    match pending with
    | some s => if looksLikeOption argument then [.misuse] else .setting s argument :: items none more
    | none =>
      if argument = ['-', '-'] then more.map .path
      else
        match argument with
        | '-' :: '-' :: t =>
          let (found, pending) := long t
          found ++ items pending more
        | '-' :: c :: t =>
          let (found, pending) := short (c :: t)
          found ++ items pending more
        | _ => .path argument :: items none more

/-! ### What is asked for -/

/-- What a command line asks for. -/
inductive Asked where
  | run (o : Options)
  | help
  | misuse
deriving DecidableEq, Repr

/-- Whether the source text comes from the standard input. -/
def Asked.readsInput : Asked → Bool
  | .run o => o.input?.isNone
  | .help | .misuse => false

/-- Sets a flag, unless it is set. -/
def Options.raise? (o : Options) : Flag → Option Options
  | .emitDot => if o.emitDot then none else some { o with emitDot := true }
  | .check => if o.check then none else some { o with check := true }
  | .keepSource => if o.keepSource then none else some { o with keepSource := true }
  | .verbose => if o.verbose then none else some { o with verbose := true }

/-- Gives a setting its value, unless it has one or refuses this one. -/
def Options.assign? (o : Options) (value : Text) : Setting → Option Options
  | .format => do
    let format ← OutputFormat.ofName? value
    if o.format?.isSome then none else some { o with format? := some format }
  | .output => if o.output?.isSome ∨ value = [] then none else some { o with output? := some value }
  | .config => if o.config?.isSome ∨ value = [] then none else some { o with config? := some value }

/-- Takes the path to read from, unless there is one. -/
def Options.take? (o : Options) (path : Text) : Option Options :=
  if o.input?.isSome ∨ path = [] then none else some { o with input? := some path }

def collect (o : Options) : List Item → Asked
  | [] => .run o
  | item :: more =>
    let next? := match item with
      | .flag f => o.raise? f
      | .setting s value => o.assign? value s
      | .path value => o.take? value
      | .help | .misuse => none
    match next? with
    | some o => collect o more
    | none => if item = .help then .help else .misuse

/-- What the arguments of a command line ask for. -/
def Asked.ofArguments (arguments : List Text) : Asked := collect {} (items none arguments)

end Flowchart.CommandLine
