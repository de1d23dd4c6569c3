import Flowchart.CommandLine.Guide
import Flowchart.CommandLine.Options
import Flowchart.Engine.Graphviz
import Flowchart.Finding.Report
import Flowchart.Session.Basic
import Flowchart.Settings.Decode

/-!
The program as a function. A run takes arguments, the standard input and a tree of files, and leaves an exit
code, what it writes to both its streams and a tree. Settings are loaded first and the source text second;
then the text is checked, or its document printed, or its chart saved. How findings are drawn and what programs do
is not known here: a run is told a reporter and a way to start programs.

What a run logs when it is asked to is no part of its error stream here. Arguments and paths are Unicode texts, so
that a path of bytes that are no UTF-8 cannot be given.
-/

namespace Flowchart.CommandLine

open Files

inductive Input where
  /-- A terminal, where a person would have to type. -/
  | terminal
  | bytes (content : Bytes)
deriving DecidableEq

/-- What a run leaves. -/
structure Outcome where
  code : Nat
  out : Text
  err : Text
  tree : Tree

/-- Why a run fails. -/
inductive Failure where
  /-- The file of settings cannot be read. -/
  | settingsUnreadable (path : Text) (fault : Fault)
  /-- The file of settings gives none. -/
  | settingsRefused (path : Text) (error : SettingsError)
  /-- The source text cannot be read from its file. -/
  | sourceUnreadable (path : Text) (fault : Fault)
  /-- The source text cannot be read from the standard input. -/
  | inputUnreadable (fault : Fault)
  /-- The chart is not saved. -/
  | notSaved (error : SaveError)

def Failure.message : Failure → Text
  | settingsUnreadable path fault =>
    "Error loading config '".toList ++ path ++ "': Failed to read config file: ".toList ++ fault.message
  | settingsRefused path error => "Error loading config '".toList ++ path ++ "': ".toList ++ error.message
  | sourceUnreadable path fault => "Error reading file '".toList ++ path ++ "': ".toList ++ fault.message
  | inputUnreadable fault => "Error reading from stdin: ".toList ++ fault.message
  | notSaved error => "Error: ".toList ++ error.message

def loadSettings (o : Options) (t : Tree) : Except Failure Settings := do
  let settings ← match o.config? with
    | none => .ok {}
    | some path => do
      let document ← (t.readText path).mapError (.settingsUnreadable path)
      (Settings.ofDocument document).mapError (.settingsRefused path)
  return if o.keepSource then { settings with engine := { settings.engine with cleanup := false } } else settings

/-- The source text of a run and its name in reports. -/
def loadSource (o : Options) (input : Input) (t : Tree) : Except Failure (Text × Text) :=
  match o.input? with
  | some path => ((t.readText path).mapError (.sourceUnreadable path)).map fun source => (source, path)
  | none =>
    let bytes := match input with
      | .terminal => []
      | .bytes content => content
    match Text.decode? bytes with
    | some source => .ok (source, "<stdin>".toList)
    | none => .error (.inputUnreadable .notUtf8)

def fail (t : Tree) (f : Failure) : Outcome := ⟨1, [], f.message ++ ['\n'], t⟩

/-- Reports the findings in a source text. -/
def runCheck (reporter : Reporter) (source name : Text) (t : Tree) : Outcome :=
  let found := findings source
  ⟨if found = [] then 0 else 1, [], found.flatMap (Finding.report reporter source name), t⟩

/-- Saves the chart of a source text. -/
def runSave (launch : Launch) (o : Options) (settings : Settings) (source : Text) (t : Tree) : Outcome :=
  let session := (Session.start settings).convert source
  match session.save (Graphviz.engine launch settings.engine) o.format o.output t () with
  | (.ok saved, t, ()) => ⟨0, saved.files.flatMap (· ++ ['\n']), [], t⟩
  | (.error e, t, ()) => fail t (.notSaved e)

/-- Runs with options. -/
def runOptions (reporter : Reporter) (launch : Launch) (o : Options) (input : Input) (t : Tree) : Outcome :=
  if o.input? = none ∧ input = .terminal then ⟨0, introduction, [], t⟩
  else
    match loadSettings o t with
    | .error f => fail t f
    | .ok settings =>
      match loadSource o input t with
      | .error f => fail t f
      | .ok (source, name) =>
        if o.check then runCheck reporter source name t
        else if o.emitDot then ⟨0, Dot.document (Chart.ofSource settings.chart source), [], t⟩
        else runSave launch o settings source t

def run (reporter : Reporter) (launch : Launch) (arguments : List Text) (input : Input) (t : Tree) : Outcome :=
  match Asked.ofArguments arguments with
  | .misuse => ⟨2, [], misuse, t⟩
  | .help => ⟨0, help, [], t⟩
  | .run o => runOptions reporter launch o input t

end Flowchart.CommandLine
