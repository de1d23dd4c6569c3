import Flowchart.Settings.Basic
import Flowchart.Settings.Mismatch
import Flowchart.Toml.Excerpt
import Flowchart.Toml.Reader

/-!
Settings from a document. A section is a table with keys that are all optional; it may also be an array
whose items stand for the keys in their order. What no setting has a name for is left alone. The first
mismatch in the order of the document is reported.
-/

namespace Flowchart

open Toml

/-- What a reader of settings gives. -/
abbrev Decoded (α : Type) := Except Misfit α

/-- A mismatch at a value. -/
def misfit {α : Type} (at? : Value) (m : Mismatch) : Decoded α := .error ⟨m, at?.span?⟩

/-! ### Single settings -/

def decodeText : Value → Decoded Text
  | .string _ t => .ok t
  | v => misfit v (.otherType v .text)

def decodeFlag : Value → Decoded Bool
  | .boolean _ b => .ok b
  | v => misfit v (.otherType v .flag)

/-- A natural number below `2 ^ 32`. -/
def decodeWord : Value → Decoded UInt32
  | .integer span i =>
    if 0 ≤ i ∧ i.toNat < UInt32.size then .ok (UInt32.ofNat i.toNat) else .error ⟨.outOfRange i .word, some span⟩
  | v => misfit v (.otherType v .word)

/-- Whether nothing is in a value that may have something in it. -/
def Toml.Value.isEmpty : Value → Bool
  | .array _ items => items.isEmpty
  | .tables rows => rows.isEmpty
  | .table _ _ entries => entries.isEmpty
  | _ => false

/-- What a direction is called in a document. -/
def Direction.keyword : Direction → Text
  | .down => "TB".toList
  | .right => "LR".toList
  | .up => "BT".toList
  | .left => "RL".toList

/-- What a shape is called, with a capital letter. -/
def Shape.title : Shape → Text
  | .box => "Box".toList
  | .oval => "Oval".toList
  | .diamond => "Diamond".toList
  | .parallelogram => "Parallelogram".toList
  | .rectangle => "Rectangle".toList
  | .plaintext => "Plaintext".toList

/-- What a shape is called in a document: small letters only. -/
def Shape.keyword (s : Shape) : Text := s.title.map Char.toLower

/-- One of some choices, by its keyword. It may be written as a string, or as the only key of a table with
an empty value. -/
def decodeName {α : Type} (choices : List α) (keyword : α → Text) : Value → Decoded α
  | .string span t =>
    match choices.find? fun a => keyword a = t with
    | some a => .ok a
    | none => .error ⟨.unknownName t (choices.map keyword), some span⟩
  | .table _ span? [] => .error ⟨.noEntry, span?⟩
  | .table _ span? [(key, v)] =>
    match choices.find? fun a => keyword a = key.name with
    | some a => if v.isEmpty then .ok a else .error ⟨.notEmpty v, v.span?.or span?⟩
    | none => .error ⟨.unknownName key.name (choices.map keyword), some key.span⟩
  | .table _ span? (_ :: _ :: _) => .error ⟨.manyEntries, span?⟩
  | v => misfit v .notAName

def decodeDirection : Value → Decoded Direction := decodeName Direction.all Direction.keyword

def decodeShape : Value → Decoded Shape := decodeName Shape.all Shape.keyword

/-! ### Sections -/

/-- A setting of a section: its key and what a value does to the section. -/
structure Field (σ : Type) where
  key : Text
  assign : Value → σ → Decoded σ

def chartFields : List (Field Attributes) :=
  [⟨"rankdir".toList, fun v a => do return { a with direction := ← decodeDirection v }⟩,
   ⟨"fontname".toList, fun v a => do return { a with fontName := ← decodeText v }⟩,
   ⟨"fontsize".toList, fun v a => do return { a with fontSize := ← decodeWord v }⟩,
   ⟨"node_shape".toList, fun v a => do return { a with nodeShape := ← decodeShape v }⟩]

def engineFields : List (Field EngineSettings) :=
  [⟨"program".toList, fun v e => do return { e with program := ← decodeText v }⟩,
   ⟨"cleanup".toList, fun v e => do return { e with cleanup := ← decodeFlag v }⟩]

/-- Assigns entries of a table in their order; a key that is no field is passed over. -/
def assignEntries {σ : Type} (fields : List (Field σ)) : Entries → σ → Decoded σ
  | [], s => .ok s
  | (key, v) :: more, s =>
    match fields.find? fun f => f.key = key.name with
    | none => assignEntries fields more s
    | some f =>
      match f.assign v s with
      | .ok s => assignEntries fields more s
      | .error e => .error (e.orAt (some key.span))

/-- Assigns items of an array to the fields in their order; items that are left over are passed over. -/
def assignItems {σ : Type} : List (Field σ) → List Value → σ → Decoded σ
  | f :: fields, v :: more, s => do assignItems fields more (← f.assign v s)
  | _, _, s => .ok s

/-- A section: a table, an array, or a date, which sets nothing. -/
def decodeSection {σ : Type} (fields : List (Field σ)) (expected : Expected) (default : σ) :
    Value → Decoded σ
  | .table _ span? entries => (assignEntries fields entries default).mapError (Misfit.orAt span?)
  | .array _ items => assignItems fields items default
  | .tables rows => assignItems fields rows default
  | .datetime _ => .ok default
  | v => misfit v (.otherType v expected)

/-- The sections of all settings. -/
def settingsFields : List (Field Settings) :=
  [⟨"graph".toList, fun v s => do return { s with chart := ← decodeSection chartFields .chartSection {} v }⟩,
   ⟨"engine".toList, fun v s => do return { s with engine := ← decodeSection engineFields .engineSection {} v }⟩]

/-- Settings from the entries of a document; what they do not set is as it is by default. -/
def Settings.decode (entries : Entries) : Decoded Settings := assignEntries settingsFields entries {}

/-! ### Documents -/

/-- Why a document gives no settings. -/
inductive SettingsError where
  /-- The document is not TOML. -/
  | malformed
  /-- The document is TOML, and a setting in it is refused. -/
  | refused (source : Text) (misfit : Misfit)

/-- What is said of a document that gives no settings. -/
def SettingsError.message : SettingsError → Text
  | malformed => "Failed to parse config TOML: TOML parse error\n".toList
  | refused source m =>
    "Failed to parse config TOML: ".toList ++ excerpt source (m.span?.getD ⟨0, 0⟩) m.mismatch.reason

/-- Reads settings from a document. -/
def Settings.ofDocument (source : Text) : Except SettingsError Settings :=
  match read? source with
  | none => .error .malformed
  | some entries => (decode entries).mapError (.refused source)

end Flowchart
