import Flowchart.Rules.Run

/-!
The tool that runs programs of rules on records. The program is its first argument or stands in files; other
arguments name the files to read, or assign values.
-/

namespace Flowchart.Tool

open Rules

/-- What the arguments before the operands say. -/
structure RuleOptions where
  /-- The files that hold the program, with what is in them. -/
  sources : List (Text × Text) := []
  assignments : List (Text × Value) := []
  operands : List Text := []

/-- What is said without a program. -/
def rulesUsage (name : Text) : Text :=
  "Usage: ".toList ++ name ++ " [Options] [Program] [file ...]\n".toList

def ruleOptions (c : Call) (p : Process) (o : RuleOptions) : Nat → List Text → Except Text (RuleOptions × Process)
  | 0, operands => .ok ({ o with operands }, p)
  | fuel + 1, arguments =>
    let withValue (letter : Char) (rest : Text) (more : List Text)
        (use : Text → List Text → Except Text (RuleOptions × Process)) : Except Text (RuleOptions × Process) :=
      match rest, more with
      | [], value :: more => use value more
      | [], [] => .error ("option -".toList ++ letter :: " lacks argument".toList)
      | value, more => use value more
    let assign (name : Text) (value : Value) (more : List Text) : Except Text (RuleOptions × Process) :=
      ruleOptions c p { o with assignments := o.assignments ++ [(name, value)] } fuel more
    match arguments with
    | ['-', '-'] :: more => .ok ({ o with operands := more }, p)
    | ('-' :: 'F' :: rest) :: more =>
      withValue 'F' rest more fun value more => assign "FS".toList (.text (unescaped (value.length + 1) value)) more
    | ('-' :: 'v' :: rest) :: more =>
      withValue 'v' rest more fun value more =>
        match assignment? value with
        | some (name, value) => assign name (.ofInput (unescaped (value.length + 1) value)) more
        | none => .error ("improper assignment: -v ".toList ++ value)
    | ('-' :: 'f' :: rest) :: more =>
      withValue 'f' rest more fun path more =>
        match take p path with
        | .ok (p, t) => ruleOptions c p { o with sources := o.sources ++ [(path, t)] } fuel more
        | .error fault => .error (Rules.unreadable path fault)
    | ('-' :: 'W' :: rest) :: more => withValue 'W' rest more fun _ more => ruleOptions c p o fuel more
    | option@('-' :: _ :: _) :: _ => .error ("not an option: ".toList ++ option)
    | operands => .ok ({ o with operands }, p)

def runRules : Service := fun c p =>
  match ruleOptions c p {} (c.arguments.length + 1) c.arguments with
  | .error message => c.fail message 2 p
  | .ok (o, p) =>
    let (source, operands) : Option Text × List Text := match o.sources, o.operands with
      | [], program :: operands => (some program, operands)
      | [], [] => (none, [])
      | sources, operands => (some (['\n'].intercalate (sources.map Prod.snd)), operands)
    match source with
    | none => ends 2 (p.write 2 (rulesUsage c.name))
    | some t =>
      match Program.read t with
      | .error messages =>
        let place : Text := (o.sources.getLast?.map fun s => s.1 ++ ": ".toList).getD []
        ends 2 (messages.foldl (fun p message => c.complain (place ++ message) p) p)
      | .ok program =>
        let (result, m) := (Program.run ⟨program, c⟩).run (.start program c p operands o.assignments)
        let m := match result with
          | .error (.fault message) => { m with process := c.complain message m.process, status := 2 }
          | _ => m
        let (_, m) := (closeAll c).run m
        ends m.status m.process

end Flowchart.Tool
