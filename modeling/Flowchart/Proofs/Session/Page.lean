import Flowchart.Proofs.Output.Path
import Flowchart.Proofs.Session.Save

/-! The page of a save and the image that it shows.

The page is written beside the image, and the name by which it refers to the image is made from
the base of the destination and not from the path of the image. The two agree unless what the
base has behind its last slash is `.` or `..`: `save_page`. -/
namespace Flowchart.Chart

open Files

/-- If a page is saved then the engine succeeded, and the page was written after it. -/
theorem finish_page_eq_ok {c : Chart} {destination : Text} {drawn left : Tree} {result : Except EngineError Unit}
    {saved : Saved} (h : c.finish .page destination drawn result = (.ok saved, left)) :
    result = .ok () ∧
      drawn.write (pagePath destination) (Text.encode (Page.page (imageName destination))) = (.ok (), left) ∧
      saved.files = [(c.request .page destination).output, pagePath destination] := by
  cases result with
  | error e => cases h
  | ok done =>
    rw [finish] at h
    rcases hwrite : drawn.write (pagePath destination) (Text.encode (Page.page (imageName destination))) with
      ⟨fault | written, after⟩ <;> rw [hwrite] at h <;> cases h
    exact ⟨rfl, rfl, rfl⟩

/-- The image of a page stands where the base of the destination ends, under a name with its extension. -/
theorem parts?_output (c : Chart) (destination : Text) :
    Path.parts? (c.request .page destination).output =
      some ⟨Path.front (Path.base destination), Path.withSuffix (Path.tip (Path.base destination)) "png".toList, []⟩ :=
  Path.parts?_withSuffix _ (Path.isExtension_extension (.image .png))

/-- The page stands where the base of the destination ends, under a name with its extension. -/
theorem parts?_pagePath (destination : Text) :
    Path.parts? (pagePath destination) =
      some ⟨Path.front (Path.base destination), Path.withSuffix (Path.tip (Path.base destination)) "html".toList, []⟩ :=
  Path.parts?_withSuffix _ (Path.isExtension_extension .page)

/-- The page names its image by the image's name just if the base of the destination has its own name
behind its last slash. -/
theorem imageName_eq_iff (c : Chart) (destination : Text) :
    imageName destination = Path.name (c.request .page destination).output ↔
      Path.name (Path.base destination) = Path.tip (Path.base destination) := by
  rw [Path.name_of_parts? (c.parts?_output destination)]
  exact List.append_left_inj _

/-- **A page lies beside the image that was drawn for it**, and it refers to the image by the image's name
just if the base of the destination does not end in `.` or `..`. -/
theorem save_page {μ : Type} {engine : Engine μ} {c : Chart} {destination : Text} {t left : Tree}
    {m memory : μ} {saved : Saved} (h : c.save engine .page destination t m = (.ok saved, left, memory)) :
    let image := (c.request .page destination).output
    let page := pagePath destination
    (∃ drawn, engine.render (c.request .page destination) t m = (.ok (), drawn, memory) ∧
      drawn.write page (Text.encode (Page.page (imageName destination))) = (.ok (), left)) ∧
    saved.files = [image, page] ∧
    (∃ directory, Path.directory? image = some directory ∧ Path.directory? page = some directory) ∧
    (imageName destination = Path.name image ↔
      Path.tip (Path.base destination) ≠ ['.'] ∧ Path.tip (Path.base destination) ≠ ['.', '.']) := by
  rw [save_eq] at h
  rcases hrender : engine.render (c.request .page destination) t m with ⟨result, drawn, after⟩
  rw [hrender] at h
  obtain ⟨hfinish, rfl⟩ : c.finish .page destination drawn result = (.ok saved, left) ∧ after = memory := by
    simpa [Prod.ext_iff, and_assoc] using h
  obtain ⟨rfl, hwritten, hfiles⟩ := finish_page_eq_ok hfinish
  refine ⟨⟨drawn, rfl, hwritten⟩, hfiles, ⟨Path.front (Path.base destination), ?_, ?_⟩, ?_⟩
  · rw [Path.directory?, parts?_output]
    rfl
  · rw [Path.directory?, parts?_pagePath]
    rfl
  · rw [imageName_eq_iff, Path.name_base_eq_tip_iff]

/-- A base that keeps a dot of its own, and the page that shows its image. -/
theorem save_page_dotted :
    let c := ofSource {} "a=>start: A".toList
    let run := c.save Engine.recording .page "flow #1.tar.svg".toList .empty []
    run.1.toOption.map Saved.files = some ["flow #1.tar.png".toList, "flow #1.tar.html".toList] ∧
      (run.2.1.read "flow #1.tar.html".toList).toOption = some (Text.encode (Page.page "flow #1.tar.png".toList)) ∧
      imageName "flow #1.tar.svg".toList = Path.name "flow #1.tar.png".toList := by
  intro c run
  have hrun : run = (.ok ⟨["flow #1.tar.png".toList, "flow #1.tar.html".toList]⟩, run.2) := rfl
  obtain ⟨-, -, -, hname⟩ := save_page hrun
  exact ⟨by decide +kernel, by decide +kernel, hname.2 (by decide +kernel)⟩

/-- A dot alone is no name, so that the page beside the image `..png` shows `.png`. -/
theorem imageName_dot_ne_name :
    let c := ofSource {} "a=>start: A".toList
    let run := c.save Engine.recording .page ".".toList .empty []
    run.1.toOption.map Saved.files = some ["..png".toList, "..html".toList] ∧
      run.2.2.map Request.output = ["..png".toList] ∧
      (run.2.1.read "..html".toList).toOption = some (Text.encode (Page.page ".png".toList)) ∧
      imageName ".".toList ≠ Path.name "..png".toList := by
  decide +kernel

end Flowchart.Chart
