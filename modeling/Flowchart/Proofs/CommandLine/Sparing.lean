import Flowchart.Proofs.CommandLine.Outcome

/-! Files that a save leaves alone.

A save writes the files that it is asked for, and one more: the document that the
program reads stands beside the image under the same name with an extension of its own,
and whatever stood there before is lost (`not_spares_outputs`), even the text that the
chart was made of. `save_and_run_spare` says that nothing else is touched. -/
namespace Flowchart.CommandLine

open Files

/-- **A save touches no file but its outputs and its document.** This is so for a session in any state and for a
run of the program, whether they succeed or not, if the engine's program writes its output only. -/
theorem save_and_run_spare (reporter : Reporter) (launch : Launch) (t : Tree) :
    (∀ (settings : EngineSettings) (s : Session) (format : OutputFormat) (destination : Text),
      launch.WritesOnlyOutput settings.program →
        t.Spares (format.document destination :: format.outputs destination)
          (s.save (Graphviz.engine launch settings) format destination t ()).2.1) ∧
    ∀ arguments o input, Asked.ofArguments arguments = .run o →
      (∀ settings, o.Configures t settings → launch.WritesOnlyOutput settings.engine.program) →
        t.Spares (o.format.document o.output :: o.format.outputs o.output) (run reporter launch arguments input t).tree := by
  refine ⟨fun settings s format destination hwrites => s.spares_save hwrites format destination, ?_⟩
  intro arguments o input ho hwrites
  rcases tree_run reporter launch input t ho with hleft | ⟨settings, source, hsettings, hleft⟩ <;> rw [hleft]
  · exact .refl t _
  · exact Session.spares_save (hwrites settings hsettings) _ o.format o.output

/-- A text that stands beside the image and the page under their name is there after both were made. -/
theorem run_spares_source :
    let place := Place.here.child "chart.dsl".toList
    let t := Tree.empty.create place (Text.encode "a=>start: A".toList) File.usualMode
    let launch := Launch.drawing (Text.encode "image".toList)
    let left := (run Report.draw launch ["-fhtml".toList, "--output=chart.dsl".toList, "chart.dsl".toList] (.bytes []) t).tree
    left.get? (Place.here.child "chart.html".toList) ≠ none ∧
      left.get? place = some (.file 1) ∧ (left.fileNumbered 1).content = Text.encode "a=>start: A".toList := by
  intro place t launch left
  have hwrites (program : Text) : launch.WritesOnlyOutput program := Launch.writesOnlyOutput_drawing _ program
  have hspares := (save_and_run_spare Report.draw launch t).2 ["-fhtml".toList, "--output=chart.dsl".toList, "chart.dsl".toList]
    { input? := some "chart.dsl".toList, format? := some .page, output? := some "chart.dsl".toList } (.bytes [])
    (by decide +kernel) (fun settings _ => hwrites settings.engine.program)
  obtain ⟨hstands, hcontent⟩ := hspares place 1 (by decide +kernel) (by decide +kernel)
  exact ⟨by decide +kernel, hstands, hcontent.trans (by decide +kernel)⟩

/-- The document of a save takes the place of a file that has its name: here the text that the chart is made of,
which is gone afterwards. -/
theorem not_spares_outputs :
    let place := Place.here.child "chart.gv".toList
    let t := Tree.empty.create place (Text.encode "a=>start: A".toList) File.usualMode
    let launch := Launch.drawing (Text.encode "image".toList)
    launch.WritesOnlyOutput "dot".toList ∧
      (¬ t.Spares (OutputFormat.outputs (.image .png) "chart".toList)
        (((Session.start {}).convert "a=>start: A".toList).save (Graphviz.engine launch {}) (.image .png)
          "chart".toList t ()).2.1) ∧
      (run Report.draw launch ["-o".toList, "chart".toList, "chart.gv".toList] (.bytes []) t).tree.get? place = none := by
  intro place t launch
  refine ⟨Launch.writesOnlyOutput_drawing _ _, fun hspares => ?_, by decide +kernel⟩
  obtain ⟨hstands, -⟩ := hspares place 1 (by decide +kernel) (by decide +kernel)
  exact absurd hstands (by decide +kernel)

end Flowchart.CommandLine
