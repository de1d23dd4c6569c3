import Flowchart.Proofs.Session.Save

/-! The history of a session.

A session is asked to convert texts and to save charts in any order, with any engine
and whatever becomes of the saves. `step_session` says what one step does to it, and
`run_session` what any number of them do: its chart is the chart of the text that was
converted last. What an engine is asked for is seen by keeping a log beside it
(`Engine.logged`), which changes nothing else (`Chart.save_logged`, `run_logged`).

`run_history` is the outcome. A save before the first conversion is refused and touches
nothing; every later one asks the engine once, for the current chart at the path that
belongs to its destination. -/
namespace Flowchart

open Files

/-- An engine with a log of what it was asked for. -/
def Engine.logged {μ : Type} (engine : Engine μ) : Engine (μ × List Request) where
  render request tree memory :=
    let (result, tree, left) := engine.render request tree memory.1
    (result, tree, left, memory.2 ++ [request])

/-- Whatever becomes of a save, the engine is asked once, and the log of it changes nothing. -/
theorem Chart.save_logged {μ : Type} (engine : Engine μ) (c : Chart) (format : OutputFormat) (destination : Text)
    (t : Tree) (m : μ) (calls : List Request) :
    c.save engine.logged format destination t (m, calls) =
      let (result, left, memory) := c.save engine format destination t m
      (result, left, memory, calls ++ [c.request format destination]) := by
  rw [Chart.save_eq, Chart.save_eq]
  rfl

namespace Session

/-- The source text that a step converts. -/
def Step.source? : Step → Option Text
  | .convert source => some source
  | .save _ _ => none

/-- The source text that was converted last. -/
def lastSource? (steps : List Step) : Option Text := (steps.filterMap Step.source?).getLast?

theorem lastSource?_cons (s : Step) (steps : List Step) :
    lastSource? (s :: steps) = (lastSource? steps).or s.source? := by
  cases s with
  | convert source =>
    show (source :: steps.filterMap Step.source?).getLast? = _
    rw [List.getLast?_cons, lastSource?]
    cases (steps.filterMap Step.source?).getLast? <;> rfl
  | save format destination => exact (Option.or_none).symm

namespace Work

/-- A session that has not been asked for anything yet, at work. -/
def opening {μ : Type} (settings : Settings) (tree : Tree) (memory : μ) : Work μ := ⟨start settings, tree, memory⟩

/-- The same without the log of its engine. -/
def unlogged {μ : Type} (w : Work (μ × List Request)) : Work μ := ⟨w.session, w.tree, w.memory.1⟩

/-- The requests in the log of its engine. -/
def calls {μ : Type} (w : Work (μ × List Request)) : List Request := w.memory.2

/-! ### One step -/

section Steps
variable {μ : Type} (engine : Engine μ)

/-- A conversion replaces the chart, and a save leaves the session as it is. -/
theorem step_session (w : Work μ) (s : Step) :
    (w.step engine s).2.session =
      { w.session with chart? := (s.source?.map (Chart.ofSource w.session.settings.chart)).or w.session.chart? } := by
  cases s with
  | convert source => rfl
  | save format destination => rfl

/-- Without a chart nothing is saved and nothing is touched. -/
theorem step_save_of_none {w : Work μ} (h : w.session.chart? = none) (format : OutputFormat) (destination : Text) :
    w.step engine (.save format destination) = (some (.error .noChart), w) := by
  obtain ⟨⟨settings, chart?⟩, tree, memory⟩ := w
  cases h
  rfl

/-- Whatever becomes of saving a chart, the engine is asked once. -/
theorem calls_step_save {w : Work (μ × List Request)} {c : Chart} (h : w.session.chart? = some c)
    (format : OutputFormat) (destination : Text) :
    (w.step engine.logged (.save format destination)).2.calls = w.calls ++ [c.request format destination] := by
  obtain ⟨⟨settings, chart?⟩, tree, memory⟩ := w
  cases h
  show (c.save engine.logged format destination tree memory).2.2.2 = _
  rw [Chart.save_logged]
  rfl

/-- The log changes neither the answer to a step nor what the step leaves. -/
theorem step_logged (w : Work (μ × List Request)) (s : Step) :
    (w.step engine.logged s).1 = (w.unlogged.step engine s).1 ∧
      (w.step engine.logged s).2.unlogged = (w.unlogged.step engine s).2 := by
  obtain ⟨⟨settings, chart?⟩, tree, memory, calls⟩ := w
  cases s with
  | convert source => exact ⟨rfl, rfl⟩
  | save format destination =>
    cases chart? with
    | none => exact ⟨rfl, rfl⟩
    | some c =>
      simp only [step, Session.save, unlogged]
      rw [Chart.save_logged]
      exact ⟨rfl, rfl⟩

end Steps

/-! ### Any number of steps -/

section Runs
variable {μ : Type} (engine : Engine μ)

theorem run_cons (w : Work μ) (s : Step) (steps : List Step) :
    w.run engine (s :: steps) =
      ((w.step engine s).1 :: ((w.step engine s).2.run engine steps).1, ((w.step engine s).2.run engine steps).2) := rfl

theorem run_append (w : Work μ) (before after : List Step) :
    w.run engine (before ++ after) =
      ((w.run engine before).1 ++ ((w.run engine before).2.run engine after).1,
        ((w.run engine before).2.run engine after).2) := by
  induction before generalizing w with
  | nil => rfl
  | cons s before ih => rw [List.cons_append, run_cons, ih, run_cons, List.cons_append]

/-- There is an answer to every step. -/
theorem length_answers (w : Work μ) (steps : List Step) : (w.run engine steps).1.length = steps.length := by
  induction steps generalizing w with
  | nil => rfl
  | cons s steps ih => rw [run_cons, List.length_cons, List.length_cons, ih]

/-- The chart of a session is that of the text converted last, or the one that it had before. -/
theorem run_session (w : Work μ) (steps : List Step) :
    (w.run engine steps).2.session =
      { w.session with
        chart? := ((lastSource? steps).map (Chart.ofSource w.session.settings.chart)).or w.session.chart? } := by
  induction steps generalizing w with
  | nil => rfl
  | cons s steps ih =>
    rw [run_cons, ih, step_session, lastSource?_cons]
    cases lastSource? steps <;> rfl

theorem run_logged (w : Work (μ × List Request)) (steps : List Step) :
    (w.run engine.logged steps).1 = (w.unlogged.run engine steps).1 ∧
      (w.run engine.logged steps).2.unlogged = (w.unlogged.run engine steps).2 := by
  induction steps generalizing w with
  | nil => exact ⟨rfl, rfl⟩
  | cons s steps ih =>
    obtain ⟨hanswer, hleft⟩ := step_logged engine w s
    obtain ⟨hanswers, hend⟩ := ih (w.step engine.logged s).2
    rw [hleft] at hanswers hend
    exact ⟨congr (congrArg List.cons hanswer) hanswers, hend⟩

theorem session_opening (settings : Settings) (tree : Tree) (memory : μ) (steps : List Step) :
    ((opening settings tree memory).run engine steps).2.session =
      ⟨settings, (lastSource? steps).map (Chart.ofSource settings.chart)⟩ := by
  rw [run_session]
  show Session.mk settings (Option.or _ none) = _
  rw [Option.or_none]
  rfl

/-- The answer to a step among others, and what the step leaves, are those of the step alone. -/
theorem answer_run (w : Work μ) (before after : List Step) (s : Step) :
    (w.run engine (before ++ s :: after)).1[before.length]? = some ((w.run engine before).2.step engine s).1 := by
  rw [run_append, run_cons, ← length_answers engine w before, List.getElem?_append_right (Nat.le_refl _),
    Nat.sub_self]
  rfl

theorem run_concat (w : Work μ) (before : List Step) (s : Step) :
    (w.run engine (before ++ [s])).2 = ((w.run engine before).2.step engine s).2 := by
  rw [run_append]
  rfl

end Runs

end Work

/-- **The history of a session.** Whatever it was asked for before, and whatever became of it, a session has the
chart of the text converted last. A save before the first conversion answers that there is no chart and leaves
everything as it was; every later save asks the engine once, for that chart. -/
theorem run_history {μ : Type} (settings : Settings) (engine : Engine μ) (tree : Tree) (memory : μ) :
    (∀ steps, ((Work.opening settings tree memory).run engine steps).2.session =
      ⟨settings, (lastSource? steps).map (Chart.ofSource settings.chart)⟩) ∧
    (∀ steps,
      let logged := (Work.opening settings tree (memory, [])).run engine.logged steps
      (logged.1, logged.2.unlogged) = (Work.opening settings tree memory).run engine steps) ∧
    ∀ before format destination after,
      let start := Work.opening settings tree (memory, [])
      let here := (start.run engine.logged before).2
      let there := (start.run engine.logged (before ++ [.save format destination])).2
      let answer? := (start.run engine.logged (before ++ .save format destination :: after)).1[before.length]?
      match lastSource? before with
      | none => answer? = some (some (.error .noChart)) ∧ there = here
      | some source =>
        there.calls = here.calls ++
          [{ document := Dot.document (Chart.ofSource settings.chart source)
             format := format.imageFormat
             output := Path.withSuffix (Path.base destination) format.imageFormat.extension }] := by
  refine ⟨Work.session_opening engine settings tree memory, fun steps => ?_, ?_⟩
  · obtain ⟨hanswers, hend⟩ := Work.run_logged engine (Work.opening settings tree (memory, [])) steps
    exact Prod.ext hanswers hend
  · intro before format destination after start here there answer?
    have hanswer : answer? = some (here.step engine.logged (.save format destination)).1 :=
      Work.answer_run engine.logged start before after _
    have hthere : there = (here.step engine.logged (.save format destination)).2 :=
      Work.run_concat engine.logged start before _
    have hsession : here.session = ⟨settings, (lastSource? before).map (Chart.ofSource settings.chart)⟩ :=
      Work.session_opening engine.logged settings tree (memory, []) before
    cases hlast : lastSource? before with
    | none =>
      rw [hlast] at hsession
      have hstep := Work.step_save_of_none engine.logged (congrArg Session.chart? hsession) format destination
      rw [hanswer, hthere, hstep]
      exact ⟨rfl, rfl⟩
    | some source =>
      rw [hlast] at hsession
      rw [hthere]
      exact Work.calls_step_save engine (congrArg Session.chart? hsession) format destination

end Session

end Flowchart
