import Flowchart.Engine.Graphviz
import Flowchart.Proofs.Files.Leaving
import Flowchart.Proofs.Files.Sparing

/-! What becomes of a request that a program serves.

The document is written first. If it cannot be written the program is not started
(`render_of_unwritten`), and what became of the document depends on whether its file was
opened; if it can, the program is started once, on the tree with the
document in it, and what follows depends on what it did and on nothing else
(`render_of_written`, `conclude`). Nothing is assumed of the program.

`render_outcome` goes through every way that this can end and says which error there is
and which files are left. -/
namespace Flowchart.Graphviz

open Files Text

/-- What follows the start of a program: the tree is what the program left, or what stood before it if it was
not started, and the document is removed from it if the program succeeded and the settings do not keep it. -/
def conclude (settings : EngineSettings) (source : Text) (written : Tree) :
    Except Fault (Ended × Tree) → Except EngineError Unit × Tree
  | .error fault => (.error (.notStarted settings.program fault), written)
  | .ok (ended, left) =>
    if ended.exit ≠ .code 0 then
      (.error (.failed settings.program ended.exit.message (trim (lossy ended.errors))), left)
    else if settings.cleanup then
      match left.remove source with
      | .ok cleaned => (.ok (), cleaned)
      | .error fault => (.error (.inaccessible source fault), left)
    else (.ok (), left)

section Request
variable {settings : EngineSettings} {r : Request} {t written left : Tree} {ended : Ended} {fault : Fault}

theorem render_of_unwritten (launch : Launch) (settings : EngineSettings)
    (h : t.write (Path.dotSource r.output) (encode r.document) = (.error fault, left)) :
    render launch settings r t = (.error (.inaccessible (Path.dotSource r.output) fault), left) := by
  rw [render]
  simp only [h]

theorem render_of_written (launch : Launch) (settings : EngineSettings)
    (h : t.write (Path.dotSource r.output) (encode r.document) = (.ok (), written)) :
    render launch settings r t =
      conclude settings (Path.dotSource r.output) written
        (launch settings.program (arguments r (Path.dotSource r.output)) written) := by
  rw [render]
  simp only [h]
  rcases launch settings.program (arguments r (Path.dotSource r.output)) written with _ | ⟨ended, left⟩ <;> rfl

variable {source : Text}

theorem conclude_of_failed (h : ended.exit ≠ .code 0) :
    conclude settings source written (.ok (ended, left)) =
      (.error (.failed settings.program ended.exit.message (trim (lossy ended.errors))), left) :=
  if_pos h

theorem conclude_of_kept (h : ended.exit = .code 0) (hkeep : settings.cleanup = false) :
    conclude settings source written (.ok (ended, left)) = (.ok (), left) := by
  simp [conclude, h, hkeep]

/-- Where the document is not kept, success hangs on its removal. -/
theorem concludes_by_removing (h : ended.exit = .code 0) (hcleanup : settings.cleanup = true) :
    let served := conclude settings source written (.ok (ended, left))
    (served.1 = .ok () ↔ ∃ cleaned, left.remove source = .ok cleaned) ∧
      (served.1 = .ok () → left.Without source served.2) ∧
      ∀ fault, left.remove source = .error fault → served = (.error (.inaccessible source fault), left) := by
  simp only [conclude, h, hcleanup, ne_eq, not_true_eq_false, if_false, if_true]
  cases hremove : left.remove source with
  | error fault =>
    refine ⟨⟨nofun, nofun⟩, nofun, fun fault' h => ?_⟩
    cases h
    rfl
  | ok cleaned => exact ⟨⟨fun _ => ⟨cleaned, rfl⟩, fun _ => rfl⟩, fun _ => Tree.without_remove hremove, nofun⟩

end Request

/-- **A request is served in one of seven ways**, whatever the program is and whatever it does.

The document that cannot be written is complained about, and the program is not started. If its file was not opened
then nothing is changed; if it was, its first bytes are there and every other file is as it was. Otherwise
the document is in its place before the program is started, once, with these arguments. A program that is not started
leaves it there; one that fails leaves what it leaves, and its status and its complaint are passed on; and so does one
that succeeds if the document is to be kept. If it is not to be kept then success hangs on its removal, after which
nothing is found at its path and everything else is as the program left it. -/
theorem render_outcome (launch : Launch) (settings : EngineSettings) (r : Request) (t : Tree) :
    let source := Path.dotSource r.output
    let arguments := ["-T".toList ++ r.format.extension, "-o".toList, r.output, source]
    let served := render launch settings r t
    match t.write source (encode r.document) with
    | (.error fault, left) =>
      served = (.error (.inaccessible source fault), left) ∧ (∀ other : Launch, render other settings r t = served) ∧
      t.ChangedAt source left ∧
      (match t.opened source with
        | .error _ => left = t
        | .ok _ => ¬ t.LeadsToDevice source →
          ∃ room < (encode r.document).length, left.Stores source ((encode r.document).take room))
    | (.ok (), written) =>
      t.ChangedAt source written ∧ (¬ t.LeadsToDevice source → written.Stores source (encode r.document)) ∧
      (∀ other : Launch, other settings.program arguments written = launch settings.program arguments written →
        render other settings r t = served) ∧
      match launch settings.program arguments written with
      | .error fault => served = (.error (.notStarted settings.program fault), written)
      | .ok (ended, left) =>
        if ended.exit ≠ .code 0 then
          served = (.error (.failed settings.program ended.exit.message (trim (lossy ended.errors))), left)
        else if settings.cleanup = false then served = (.ok (), left)
        else
          (served.1 = .ok () ↔ ∃ cleaned, left.remove source = .ok cleaned) ∧
          (served.1 = .ok () → left.Without source served.2) ∧
          ∀ fault, left.remove source = .error fault → served = (.error (.inaccessible source fault), left) := by
  intro source arguments served
  have hchanged := Tree.changedAt_write t source (encode r.document)
  rcases hwrite : t.write source (encode r.document) with ⟨fault | done, left⟩ <;> rw [hwrite] at hchanged
  · have hrender (other : Launch) := render_of_unwritten other settings hwrite
    refine ⟨hrender launch, fun other => (hrender other).trans (hrender launch).symm, hchanged, ?_⟩
    cases hopened : t.opened source with
    | error reason => exact Tree.eq_of_write_not_opened hwrite hopened
    | ok o => exact Tree.stores_of_write_error hwrite hopened
  · have hrender (other : Launch) := render_of_written other settings hwrite
    have hserved : served = conclude settings source left (launch settings.program arguments left) := hrender launch
    refine ⟨hchanged, Tree.stores_write hwrite, fun other h => ?_, ?_⟩
    · rw [hrender other, hserved]
      exact congrArg (conclude settings source left) h
    · rw [hserved]
      rcases launch settings.program arguments left with fault | ⟨ended, after⟩
      · rfl
      · by_cases hexit : ended.exit = .code 0
        · simp only [ne_eq, hexit, not_true_eq_false, if_false]
          cases hcleanup : settings.cleanup with
          | false => exact conclude_of_kept hexit hcleanup
          | true => exact concludes_by_removing hexit hcleanup
        · simp only [ne_eq, hexit, not_false_eq_true, if_true]
          exact conclude_of_failed hexit

end Flowchart.Graphviz
