import Flowchart.Proofs.Output.Path
import Flowchart.Proofs.Session.Page
import Mathlib.Data.List.Nodup

/-! Destinations and the files that a save derives from them.

A destination that ends in a name (`Destination`) is a directory, a name with its stem, and
what does not count behind the name. Whatever is derived from it is a *file beside it*: the
directory and the stem with an extension behind. Such a file is a destination too, with
the same stem (`beside`), so that to strip an extension, to put one behind and to replace
one are all `withExtension_path`.

A save looks at no more of its destination than its base (`save_congr`). So a save to the
file that an earlier one reported is that earlier save again: `save_again`. -/
namespace Flowchart

/-- A save is told from another one by nothing but the base of its destination. -/
theorem Chart.save_congr {destination other : Text} (h : Path.base destination = Path.base other) {μ : Type}
    (engine : Engine μ) (c : Chart) (format : OutputFormat) :
    c.save engine format destination = c.save engine format other := by
  have hrequest : c.request format destination = c.request format other := by rw [request, request, h]
  have hpage : pagePath destination = pagePath other := by rw [pagePath, pagePath, h]
  have hname : imageName destination = imageName other := by rw [imageName, imageName, h]
  funext t m
  simp only [save, hrequest, hpage, hname]

theorem Chart.files_of_finish {c : Chart} {format : OutputFormat} {destination : Text} {drawn left : Files.Tree}
    {result : Except EngineError Unit} {saved : Saved}
    (h : c.finish format destination drawn result = (.ok saved, left)) : saved.files = format.outputs destination := by
  cases format with
  | page => exact (finish_page_eq_ok h).2.2
  | image format =>
    cases result with
    | error e => cases h
    | ok done =>
      cases h
      rfl

/-- A save that succeeds reports the files that it was asked to write. -/
theorem Chart.files_of_save {μ : Type} {engine : Engine μ} {c : Chart} {format : OutputFormat} {destination : Text}
    {t left : Files.Tree} {m memory : μ} {saved : Saved}
    (h : c.save engine format destination t m = (.ok saved, left, memory)) :
    saved.files = format.outputs destination := by
  rw [save_eq] at h
  rcases hrender : engine.render (c.request format destination) t m with ⟨result, drawn, after⟩
  rw [hrender] at h
  obtain ⟨hfinish, -⟩ : c.finish format destination drawn result = (.ok saved, left) ∧ after = memory := by
    simpa [Prod.ext_iff, and_assoc] using h
  exact files_of_finish hfinish

namespace Path

/-- A destination that ends in a name: its directory, its name and the name's stem, and what stands behind the name.
The stem has to be a name of its own. -/
structure Destination where
  directory : Text
  name : Text
  stem : Text
  trailing : Text
  isFront_directory : IsFront directory
  isFileName_name : IsFileName name
  isStem : IsStem name stem
  isTrailing : IsTrailing trailing
  stem_ne_dot : stem ≠ ['.']
  stem_ne_dots : stem ≠ ['.', '.']

namespace Destination
variable (d : Destination)

/-- The path of a destination. -/
def path : Text := d.directory ++ d.name ++ d.trailing

/-- The file with an extension that stands where a destination says. -/
def file (extension : Text) : Text := d.directory ++ d.stem ++ '.' :: extension

theorem file_injective : Function.Injective d.file := by
  intro extension other h
  exact (List.cons.inj (List.append_cancel_left h)).2

theorem isFileName_stem : IsFileName d.stem := by
  rw [← stem_eq_of_isStem d.isStem]
  refine ⟨stem_ne_nil d.isFileName_name.ne_nil, ?_, ?_, fun h => d.isFileName_name.noSlash (mem_of_mem_stem h)⟩
  · rw [stem_eq_of_isStem d.isStem]
    exact d.stem_ne_dot
  · rw [stem_eq_of_isStem d.isStem]
    exact d.stem_ne_dots

theorem withExtension_path (extension : Text) :
    withExtension extension d.path = d.directory ++ d.stem ++ if extension = [] then [] else '.' :: extension := by
  have hparts := parts?_of_isTrailing d.isFront_directory d.isFileName_name d.isTrailing
  rw [withExtension, path, hparts]
  dsimp only
  rw [stem_eq_of_isStem d.isStem, if_neg fun h => d.stem_ne_dot h.1]

theorem base_path : base d.path = d.directory ++ d.stem := by
  rw [base, withExtension_path, if_pos rfl, List.append_nil]

theorem withSuffix_base_path (extension : Text) : withSuffix (base d.path) extension = d.file extension := by
  rw [base_path]
  rfl

section Beside
variable {extension : Text} (h : IsExtension extension)

/-- A file beside a destination as a destination. -/
def beside : Destination where
  directory := d.directory
  name := d.stem ++ '.' :: extension
  stem := d.stem
  trailing := []
  isFront_directory := d.isFront_directory
  isFileName_name := isFileName_withSuffix d.isFileName_stem.noSlash h
  isStem := .cut d.isFileName_stem.ne_nil h.noDot
  isTrailing := .nil
  stem_ne_dot := d.stem_ne_dot
  stem_ne_dots := d.stem_ne_dots

theorem path_beside : (d.beside h).path = d.file extension := by
  show d.directory ++ (d.stem ++ '.' :: extension) ++ [] = d.directory ++ d.stem ++ '.' :: extension
  rw [List.append_nil, List.append_assoc]

include h

theorem base_file : base (d.file extension) = base d.path := by
  rw [← d.path_beside h, base_path, base_path]
  rfl

theorem dotSource_file : dotSource (d.file extension) = d.file "gv".toList := by
  rw [dotSource, ← d.path_beside h, withExtension_path]
  rfl

end Beside

theorem primary?_of_outputs {format : OutputFormat} {saved : Saved} (h : saved.files = format.outputs d.path) :
    saved.primary? = some (d.file format.extension) := by
  rw [Saved.primary?, h]
  cases format with
  | image format => exact congrArg some (d.withSuffix_base_path _)
  | page => exact congrArg some (d.withSuffix_base_path _)

/-- **What a save writes stands beside its destination, and to save where it says that it did writes the same
files.** The base of the destination is its directory and its stem; the image, the page and the document for the
engine are three files beside it; and each file beside it has the same base. So if a save succeeds, it reports
one of them, and whatever is saved to that one is saved as it would be to the destination. -/
theorem save_again :
    base d.path = d.directory ++ d.stem ∧
    (∀ (c : Chart) (format : OutputFormat),
      let image := (c.request format d.path).output
      image = d.file format.imageFormat.extension ∧ Chart.pagePath d.path = d.file "html".toList ∧
        dotSource image = d.file "gv".toList ∧ [image, Chart.pagePath d.path, dotSource image].Nodup) ∧
    (∀ format : OutputFormat, base (withSuffix (base d.path) format.extension) = base d.path) ∧
    ∀ {μ ν : Type} (engine : Engine μ) (again : Engine ν) (c other : Chart) (format anew : OutputFormat)
      (t left : Files.Tree) (m memory : μ) (saved : Saved),
      c.save engine format d.path t m = (.ok saved, left, memory) →
        saved.files = format.outputs d.path ∧
          ∃ primary, saved.primary? = some primary ∧ anew.outputs primary = anew.outputs d.path ∧
            other.save again anew primary = other.save again anew d.path := by
  refine ⟨d.base_path, fun c format => ?_, fun format => ?_, ?_⟩
  · have himage : (c.request format d.path).output = d.file format.imageFormat.extension := d.withSuffix_base_path _
    have hpage : Chart.pagePath d.path = d.file "html".toList := d.withSuffix_base_path _
    have hsource := d.dotSource_file (isExtension_extension (.image format.imageFormat))
    have hextensions : [format.imageFormat.extension, "html".toList, "gv".toList].Nodup := by
      rcases format with (_ | _ | _) | _ <;> decide
    intro image
    have hsource : dotSource image = d.file "gv".toList := (congrArg dotSource himage).trans hsource
    refine ⟨himage, hpage, hsource, ?_⟩
    rw [hsource, hpage, show image = _ from himage]
    exact List.Nodup.map d.file_injective hextensions
  · rw [d.withSuffix_base_path]
    exact d.base_file (isExtension_extension format)
  · intro μ ν engine again c other format anew t left m memory saved h
    have hfiles := Chart.files_of_save h
    have hbase := d.base_file (isExtension_extension format)
    refine ⟨hfiles, d.file format.extension, d.primary?_of_outputs hfiles, ?_, Chart.save_congr hbase again other anew⟩
    simp only [OutputFormat.outputs, hbase]

end Destination

/-- A hidden name with a dot of its own, and slashes behind it. -/
theorem Destination.save_again_hidden :
    let c := Chart.ofSource {} "a=>start: A".toList
    let run := c.save Engine.recording .page "./.v1.2.svg//.".toList .empty []
    run.1.toOption.map Saved.files = some ["./.v1.2.png".toList, "./.v1.2.html".toList] ∧
      c.save Engine.recording .page "./.v1.2.html".toList =
        c.save Engine.recording .page "./.v1.2.svg//.".toList := by
  intro c run
  have hfront : IsFront "./".toList := Text.stops_cons.2 (by decide)
  have hname : IsFileName ".v1.2.svg".toList := ⟨by decide, by decide, by decide, by decide⟩
  have hstem : IsStem (".v1.2".toList ++ '.' :: "svg".toList) ".v1.2".toList := .cut (by decide) (by decide)
  let d : Destination := ⟨_, _, _, "//.".toList, hfront, hname, hstem, .slash (.dot .nil), by decide, by decide⟩
  have hpath : d.path = "./.v1.2.svg//.".toList := rfl
  have hrun : run = (.ok ⟨["./.v1.2.png".toList, "./.v1.2.html".toList]⟩, run.2) := rfl
  obtain ⟨-, -, -, hagain⟩ := d.save_again
  rw [hpath] at hagain
  obtain ⟨-, primary, hprimary, -, hsame⟩ :=
    hagain Engine.recording Engine.recording c c .page .page .empty run.2.1 [] run.2.2 _ hrun
  cases hprimary
  exact ⟨congrArg (fun r => r.1.toOption.map Saved.files) hrun, hsame⟩

end Path

end Flowchart
