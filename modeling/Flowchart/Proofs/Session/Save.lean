import Flowchart.Engine.Graphviz
import Flowchart.Proofs.Files.Sparing
import Flowchart.Session.Basic

/-! What a save does to the tree of files.

To save a chart is to ask the engine once and to finish without it (`save_eq`): at most
the page is written then. If the engine runs a program that writes no file but the one
that its arguments name behind `-o`, then a save through it touches no file but the
image, the page if there is to be one, and the document that is written beside the
image for the program to read: `spares_save`. -/
namespace Flowchart

open Files

/-! ### The two parts of a save -/

namespace Chart

/-- What follows the engine when a chart is saved, by what the engine said: a page may be written. -/
def finish (c : Chart) (format : OutputFormat) (destination : Text) (t : Tree) :
    Except EngineError Unit → Except SaveError Saved × Tree
  | .error e => (.error (.engine e), t)
  | .ok () =>
    match format with
    | .image _ => (.ok ⟨[(c.request format destination).output]⟩, t)
    | .page =>
      match t.write (pagePath destination) (Text.encode (Page.page (imageName destination))) with
      | (.ok (), t) => (.ok ⟨[(c.request format destination).output, pagePath destination]⟩, t)
      | (.error fault, t) => (.error (.page (pagePath destination) fault), t)

/-- To save a chart is to ask the engine once and to finish without it. -/
theorem save_eq {μ : Type} (engine : Engine μ) (c : Chart) (format : OutputFormat) (destination : Text)
    (t : Tree) (m : μ) :
    c.save engine format destination t m =
      let (result, left, memory) := engine.render (c.request format destination) t m
      let (answer, tree) := c.finish format destination left result
      (answer, tree, memory) := by
  rw [save]
  rcases engine.render (c.request format destination) t m with ⟨_ | _, left, memory⟩
  · rfl
  · cases format with
    | image format => rfl
    | page =>
      simp only [finish]
      rcases left.write (pagePath destination) (Text.encode (Page.page (imageName destination))) with ⟨_ | _, _⟩ <;> rfl

/-- What follows an engine that drew the image of a page leaves what writing the page leaves. -/
theorem tree_finish_page (c : Chart) (destination : Text) (t : Tree) :
    (c.finish .page destination t (.ok ())).2 =
      (t.write (pagePath destination) (Text.encode (Page.page (imageName destination)))).2 := by
  rw [finish]
  rcases t.write (pagePath destination) (Text.encode (Page.page (imageName destination))) with ⟨_ | _, _⟩ <;> rfl

end Chart

/-! ### Programs that write their output only -/

/-- The path that stands behind `-o` among the arguments of a program. -/
def outputArgument? : List Text → Option Text
  | flag :: path :: more => if flag = "-o".toList then some path else outputArgument? (path :: more)
  | _ => none

/-- However a program is started, it changes nothing but the file that is named behind `-o`. -/
def Launch.WritesOnlyOutput (launch : Launch) (program : Text) : Prop :=
  ∀ arguments t ended left, launch program arguments t = .ok (ended, left) →
    ∀ path, outputArgument? arguments = some path → t.ChangedAt path left

theorem Graphviz.outputArgument?_arguments (r : Request) (source : Text) :
    outputArgument? (arguments r source) = some r.output := by
  obtain ⟨document, format, output⟩ := r
  cases format <;> rfl

/-- A program that writes some bytes to its output, and fails if it cannot. -/
def Launch.drawing (image : Bytes) : Launch := fun _ arguments t =>
  match outputArgument? arguments with
  | none => .ok (⟨.code 2, []⟩, t)
  | some path =>
    match t.write path image with
    | (.ok (), left) => .ok (⟨.code 0, []⟩, left)
    | (.error fault, left) => .ok (⟨.code 1, Text.encode fault.message⟩, left)

theorem Launch.writesOnlyOutput_drawing (image : Bytes) (program : Text) :
    (drawing image).WritesOnlyOutput program := by
  intro arguments t ended left h path hpath
  have hchanged := Tree.changedAt_write t path image
  rw [drawing, hpath] at h
  rcases hwrite : t.write path image with ⟨fault | done, written⟩ <;> simp only [hwrite] at h hchanged <;> cases h
  · exact hchanged
  · exact hchanged

/-! ### The files of a save -/

/-- The files that a save is asked to write. -/
def OutputFormat.outputs (format : OutputFormat) (destination : Text) : List Text :=
  let image := Path.withSuffix (Path.base destination) format.imageFormat.extension
  match format with
  | .image _ => [image]
  | .page => [image, Path.withSuffix (Path.base destination) OutputFormat.page.extension]

/-- The document that a save writes for a program to read. -/
def OutputFormat.document (format : OutputFormat) (destination : Text) : Text :=
  Path.dotSource (Path.withSuffix (Path.base destination) format.imageFormat.extension)

theorem Chart.output_mem_outputs (c : Chart) (format : OutputFormat) (destination : Text) :
    (c.request format destination).output ∈ format.outputs destination := by
  cases format <;> exact List.mem_cons_self

theorem Chart.pagePath_mem_outputs (destination : Text) :
    pagePath destination ∈ OutputFormat.page.outputs destination :=
  List.mem_cons_of_mem _ List.mem_cons_self

section Keeps
variable {launch : Launch} {settings : EngineSettings} {t : Tree} {n : Nat}

/-- A program that writes its output only, run for a request, keeps every file but the image and the document. -/
theorem Graphviz.keeps_render (hwrites : launch.WritesOnlyOutput settings.program) {r : Request} (hn : t.Holds n)
    (hsource : ¬ t.LeadsTo (Path.dotSource r.output) n) (himage : ¬ t.LeadsTo r.output n) :
    Tree.Keeps n t (render launch settings r t).2 := by
  have hwrite := (Tree.changedAt_write t (Path.dotSource r.output) (Text.encode r.document)).keeps hn hsource
  rw [render]
  split
  · rename_i hunwritten
    rw [hunwritten] at hwrite
    exact hwrite
  · rename_i written hwritten
    have hkeeps : Tree.Keeps n t written := by
      rw [hwritten] at hwrite
      exact hwrite
    split
    · exact hkeeps
    · rename_i ended left hleft
      have hchanged := hwrites _ _ _ _ hleft _ (outputArgument?_arguments r _)
      have hleft := hkeeps.trans (hchanged.keeps (hkeeps.holds hn) fun h => himage (hkeeps.leadsTo h))
      split
      · exact hleft
      · split
        · split
          · rename_i cleaned hcleaned
            exact hleft.trans (Tree.keeps_remove hcleaned fun h => hsource (hleft.leadsTo h))
          · exact hleft
        · exact hleft

/-- What follows the engine keeps every file but the page. -/
theorem Chart.keeps_finish (c : Chart) {format : OutputFormat} {destination : Text} (hn : t.Holds n)
    (houtputs : ∀ path ∈ format.outputs destination, ¬ t.LeadsTo path n) (result : Except EngineError Unit) :
    Tree.Keeps n t (c.finish format destination t result).2 := by
  rcases result with error | done
  · exact .refl n t
  · cases format with
    | image format => exact .refl n t
    | page =>
      rw [tree_finish_page]
      exact (Tree.changedAt_write t _ _).keeps hn (houtputs _ (pagePath_mem_outputs destination))

/-- A save through a program that writes its output only spares every file but those that it is asked to write
and the document for the program. -/
theorem Session.spares_save (hwrites : launch.WritesOnlyOutput settings.program) (s : Session)
    (format : OutputFormat) (destination : Text) :
    t.Spares (format.document destination :: format.outputs destination)
      (s.save (Graphviz.engine launch settings) format destination t ()).2.1 := by
  obtain ⟨chosen, _ | c⟩ := s
  · exact .refl t _
  · refine Tree.spares_of_keeps fun n hn hpaths => ?_
    obtain ⟨hdocument, houtputs⟩ := List.forall_mem_cons.1 hpaths
    show Tree.Keeps n t (c.save (Graphviz.engine launch settings) format destination t ()).2.1
    rw [Chart.save_eq]
    have hrender := Graphviz.keeps_render hwrites (r := c.request format destination) hn hdocument
      (houtputs _ (c.output_mem_outputs format destination))
    exact hrender.trans
      (c.keeps_finish (hrender.holds hn) (fun path hpath h => houtputs path hpath (hrender.leadsTo h)) _)

end Keeps

end Flowchart
