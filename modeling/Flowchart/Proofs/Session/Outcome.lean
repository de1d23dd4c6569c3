import Flowchart.Proofs.Files.Leaving
import Flowchart.Proofs.Session.History

/-! What comes of saving a chart.

The engine is asked once (`save_logged`), and it may do anything to the files and fail in
any way. Whatever it left is left alone but for the page, which is written after the image
or not at all (`changedAt_finish`), so a page that was there before outlives an engine
that fails: `save_outcome`. -/
namespace Flowchart.Chart

open Files

/-- What follows the engine changes at most the page. -/
theorem changedAt_finish (c : Chart) (format : OutputFormat) (destination : Text) (t : Tree)
    (result : Except EngineError Unit) :
    t.ChangedAt (pagePath destination) (c.finish format destination t result).2 := by
  cases result with
  | error e => exact .refl t _
  | ok done =>
    cases format with
    | image format => exact .refl t _
    | page =>
      rw [tree_finish_page]
      exact Tree.changedAt_write t _ _

/-- **A save asks the engine once and adds nothing to what it did but the page.** An engine's error is passed on as
it is, and the files are those that the engine left; so they are where an image was asked for and made. Where a page was
asked for, it is written once the image is made, nothing else is touched, and it is named behind the image. If it
cannot be written, the image stays, and so does an older page if it is not opened; one that is opened is lost, and
the first bytes of the new page are in its place. -/
theorem save_outcome {μ : Type} (engine : Engine μ) (c : Chart) (format : OutputFormat) (destination : Text)
    (t : Tree) (m : μ) :
    let request := c.request format destination
    let page := pagePath destination
    let shown := Text.encode (Page.page (imageName destination))
    let saving := c.save engine format destination t m
    request.document = Dot.document c ∧
    c.save engine.logged format destination t (m, []) = (saving.1, saving.2.1, saving.2.2, [request]) ∧
    match engine.render request t m with
    | (.error e, drawn, memory) => saving = (.error (.engine e), drawn, memory)
    | (.ok (), drawn, memory) =>
      match format with
      | .image _ => saving = (.ok ⟨[request.output]⟩, drawn, memory)
      | .page =>
        drawn.ChangedAt page saving.2.1 ∧ saving.2.2 = memory ∧
        (∀ n, drawn.LeadsTo request.output n → ¬ drawn.LeadsTo page n → saving.2.1.LeadsTo request.output n ∧
          (saving.2.1.fileNumbered n).content = (drawn.fileNumbered n).content) ∧
        match drawn.write page shown with
        | (.ok (), left) =>
          saving.1 = .ok ⟨[request.output, page]⟩ ∧ Saved.primary? ⟨[request.output, page]⟩ = some page ∧
            saving.2.1 = left ∧ (¬ drawn.LeadsToDevice page → left.Stores page shown)
        | (.error fault, left) =>
          saving.1 = .error (.page page fault) ∧ saving.2.1 = left ∧
            match drawn.opened page with
            | .error _ => left = drawn
            | .ok _ => ¬ drawn.LeadsToDevice page → ∃ room < shown.length, left.Stores page (shown.take room) := by
  intro request page shown saving
  refine ⟨rfl, save_logged engine c format destination t m [], ?_⟩
  have hsaving : saving = _ := c.save_eq engine format destination t m
  rw [hsaving]
  rcases engine.render (c.request format destination) t m with ⟨error | done, drawn, memory⟩
  · rfl
  · cases format with
    | image format => rfl
    | page =>
      have hleft : (c.finish .page destination drawn (.ok ())).2 = (drawn.write page shown).2 :=
        c.tree_finish_page destination drawn
      refine ⟨c.changedAt_finish .page destination drawn (.ok ()), rfl, fun n himage hpage => ?_, ?_⟩
      · simp only [hleft]
        exact Tree.leadsTo_write himage hpage shown
      · simp only [finish]
        rcases hwrite : drawn.write page shown with ⟨fault | done, left⟩
        · refine ⟨rfl, rfl, ?_⟩
          cases hopened : drawn.opened page with
          | error reason => exact Tree.eq_of_write_not_opened hwrite hopened
          | ok o => exact Tree.stores_of_write_error hwrite hopened
        · exact ⟨rfl, rfl, rfl, Tree.stores_write hwrite⟩

/-- On a disk that takes six bytes more an older page is lost. -/
example :
    let old := Tree.empty.create (Place.here.child "chart.html".toList) (Text.encode "older".toList) File.usualMode
    let full : Tree := { old with limits := { writing? := fun _ => some (.full 6 .noSpace) } }
    let saving := (Chart.ofSource {} []).save Engine.silent .page "chart".toList full []
    saving.1.toOption = none ∧
      (saving.2.1.read "chart.html".toList).toOption = some (Text.encode "<html>".toList) := by
  decide +kernel

end Flowchart.Chart
