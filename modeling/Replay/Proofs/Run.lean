import Replay.Proofs.Performance
import Replay.Proofs.Performance.Twins
import Replay.Run

/-
  This file proves that a run is the execution of its steps
  one after another, up to the first one that fails.

  Key definitions include:
    * `attempt`
    * `Executes`

  Main results:
    * `executes_or_stops`
    * `run_staysIn`
    * `run_eq_execution`
-/

------------------------------------------------------------
-- Steps
------------------------------------------------------------

namespace Replay

open Play

/- One step by itself: look it up and perform its action. -/
def attempt
    (config : Configuration)
    (stage : Stage)
    (scenario step : Text) : Play Unit :=
  match config.step? step with
  | none => throw (.unknownStep step scenario)
  | some action => perform stage action

/- Steps that are executed in their order, all of them. -/
inductive Executes
    (config : Configuration)
    (stage : Stage)
    (scenario : Text) :
    World → List Text → World → Prop
  | none {w} :
      Executes config stage scenario w [] w
  | step {w v u step rest} :
      (attempt config stage scenario step).run w =
        .ok () v →
      Executes config stage scenario v rest u →
      Executes config stage scenario w (step :: rest) u

section Running

variable {config : Configuration}
variable {stage : Stage}
variable {scenario : Text}

/- A step of a run is that step by itself, after a note. -/
theorem runStep_agrees
    (config : Configuration)
    (stage : Stage)
    (scenario : Text)
    (position total : Nat)
    (step : Text) :
    Agrees World.Alike Eq
      (runStep config stage scenario position total step)
      (attempt config stage scenario step) := by
  unfold runStep attempt
  cases config.step? step with
  | none =>
      exact Agrees.throw _
  | some action =>
      exact Agrees.noteFirst _ _ _
        (perform_blind stage action)

/- A step keeps what its action keeps. -/
theorem runStep_staysIn
    {mayCall : Call → Prop}
    {R : World → World → Prop}
    [IsPreorder World R]
    (frame : ActionFrame stage.state mayCall R)
    (config : Configuration)
    (scenario : Text)
    (position total : Nat)
    (step : Text) :
    (runStep config stage scenario position total
      step).StaysIn R := by
  unfold runStep
  split
  · exact StaysIn.throw _
  · exact (frame.note_staysIn _ _ _).bind fun _ =>
      perform_staysIn frame _

/- Either all steps are executed, or one is the first to fail. -/
theorem executes_or_stops
    (config : Configuration)
    (stage : Stage)
    (scenario : Text)
    (w : World)
    (steps : List Text) :
    (∃ v, Executes config stage scenario w steps v) ∨
      ∃ before step after v failure u,
        steps = before ++ step :: after ∧
        Executes config stage scenario w before v ∧
        (attempt config stage scenario step).run v =
          .error failure u := by
  induction steps generalizing w with
  | nil =>
      exact Or.inl ⟨w, .none⟩
  | cons step rest ih =>
      cases hStep :
          (attempt config stage scenario step).run w with
      | error failure u =>
          exact Or.inr
            ⟨[], step, rest, w, failure, u, rfl, .none,
              hStep⟩
      | ok value v =>
          rcases ih v with
            ⟨u, hRest⟩ |
            ⟨before, next, after, v', failure, u, hSteps,
              hBefore, hNext⟩
          · exact Or.inl ⟨u, .step hStep hRest⟩
          · refine Or.inr
              ⟨step :: before, next, after, v', failure, u,
                ?_, .step hStep hBefore, hNext⟩
            rw [hSteps, List.cons_append]

------------------------------------------------------------
-- Runs
------------------------------------------------------------

/- Some failures are results, and any other one gets out. -/
theorem run_resultOf
    (step : Play Unit)
    (w : World) :
    (resultOf step).run w =
      match step.run w with
      | .ok () w' => .ok none w'
      | .error failure w' =>
        if failure.isResult then .ok (some failure) w'
        else .error failure w' := by
  unfold resultOf
  cases hStep : step.run w with
  | ok value w' =>
      simp [hStep]
  | error failure w' =>
      by_cases hResult : failure.isResult = true <;>
        simp [hStep, hResult]

theorem resultOf_staysIn
    {R : World → World → Prop}
    [IsPreorder World R]
    {step : Play Unit}
    (hStep : step.StaysIn R) :
    (resultOf step).StaysIn R := by
  apply hStep.outcome.bind
  intro outcome
  split
  · exact StaysIn.pure _
  · split
    · exact StaysIn.pure _
    · exact StaysIn.throw _

theorem resultOf_agrees
    {R : World → World → Prop}
    {step other : Play Unit}
    (hSteps : Agrees R Eq step other) :
    Agrees R Eq (resultOf step) (resultOf other) := by
  refine hSteps.outcome.bindEq fun outcome => ?_
  split
  · exact Agrees.pure rfl
  · split
    · exact Agrees.pure rfl
    · exact Agrees.throw _

/- Steps keep what every one of them keeps. -/
theorem runSteps_staysIn
    {mayCall : Call → Prop}
    {R : World → World → Prop}
    [IsPreorder World R]
    (frame : ActionFrame stage.state mayCall R)
    (config : Configuration)
    (scenario : Text)
    (total : Nat)
    (completed steps : List Text) :
    (runSteps config stage scenario total completed
      steps).StaysIn R := by
  induction steps generalizing completed with
  | nil =>
      exact StaysIn.pure _
  | cons step rest ih =>
      apply (resultOf_staysIn
        (runStep_staysIn frame config scenario _ total
          step)).bind
      intro outcome
      cases outcome with
      | none =>
          exact ih (completed ++ [step])
      | some failure =>
          exact (frame.note_staysIn _ _ _).bind fun _ =>
            StaysIn.pure _

/- Steps that are all executed are completed. -/
theorem runSteps_of_executes
    (total : Nat)
    {steps : List Text}
    {v v' : World}
    (hSteps : Executes config stage scenario v steps v')
    {w : World}
    (hAlike : w.Alike v)
    (completed : List Text) :
    ∃ u,
      (runSteps config stage scenario total completed
          steps).run w =
        .ok ⟨scenario, completed ++ steps, none⟩ u ∧
      u.Alike v' := by
  induction hSteps generalizing w completed with
  | none =>
      exact ⟨w, by simp [runSteps], hAlike⟩
  | @step v v₁ v' step rest hStep _ ih =>
      rcases (runStep_agrees config stage scenario
          (completed.length + 1) total step).exists_ok
          hAlike hStep with
        ⟨w₁, hRun, hAlike₁⟩
      rcases ih hAlike₁ (completed ++ [step]) with
        ⟨u, hRest, hLeft⟩
      refine ⟨u, ?_, hLeft⟩
      simpa [runSteps, run_resultOf, hRun] using hRest

/-
  The first step that fails ends a run: with a result if the
  program or the browser found the failure, or else with the
  failure itself.
-/
theorem runSteps_of_stops
    (total : Nat)
    {before : List Text}
    {v v' : World}
    (hBefore : Executes config stage scenario v before v')
    {step : Text}
    {failure : Failure}
    {v'' : World}
    (hStep :
      (attempt config stage scenario step).run v' =
        .error failure v'')
    (after : List Text)
    {w : World}
    (hAlike : w.Alike v)
    (completed : List Text) :
    ∃ u,
      (runSteps config stage scenario total completed
          (before ++ step :: after)).run w =
        (if failure.isOwn || failure.isBrowser then
          .ok ⟨scenario, completed ++ before,
            some (step, failure.message)⟩ u
        else
          .error failure u) ∧
      u.Alike v'' := by
  induction hBefore generalizing w completed with
  | none =>
      rcases (runStep_agrees config stage scenario
          (completed.length + 1) total step).exists_error
          hAlike hStep with
        ⟨w₁, hRun, hAlike₁⟩
      cases hResult : failure.isOwn || failure.isBrowser with
      | true =>
          have hIsResult : failure.isResult = true := hResult
          let line :=
            "Step " ++ step ++ " failed: " ++ failure.outline
          refine
            ⟨{ w₁ with
                log := w₁.log ++ [⟨.error, runLog, line⟩] },
              ?_, hAlike₁⟩
          simp [runSteps, run_resultOf, hRun, hIsResult, line]
      | false =>
          have hIsResult : failure.isResult = false := hResult
          refine ⟨w₁, ?_, hAlike₁⟩
          simp [runSteps, run_resultOf, hRun, hIsResult]
  | @step v v₁ v' first rest hFirst _ ih =>
      rcases (runStep_agrees config stage scenario
          (completed.length + 1) total first).exists_ok
          hAlike hFirst with
        ⟨w₁, hRun, hAlike₁⟩
      rcases ih hStep hAlike₁ (completed ++ [first]) with
        ⟨u, hRest, hLeft⟩
      refine ⟨u, ?_, hLeft⟩
      simpa [runSteps, run_resultOf, hRun] using hRest

/- A scenario that is known is run step by step. -/
theorem run_eq_runSteps
    {found : Scenario}
    (hScenario : config.scenario? scenario = some found) :
    run config stage scenario =
      runSteps config stage scenario found.steps.length []
        found.steps := by
  rw [run, hScenario]

/- A run stays in every relation that allows for actions. -/
theorem run_staysIn
    {mayCall : Call → Prop}
    {R : World → World → Prop}
    [IsPreorder World R]
    (frame : ActionFrame stage.state mayCall R)
    (config : Configuration)
    (scenario : Text) :
    (run config stage scenario).StaysIn R := by
  unfold run
  split
  · exact StaysIn.throw _
  · rename_i found _
    exact runSteps_staysIn frame config scenario _ [] _

/- So does a step by itself. -/
theorem attempt_staysIn
    {mayCall : Call → Prop}
    {R : World → World → Prop}
    [IsPreorder World R]
    (frame : ActionFrame stage.state mayCall R)
    (config : Configuration)
    (scenario step : Text) :
    (attempt config stage scenario step).StaysIn R := by
  unfold attempt
  split
  · exact StaysIn.throw _
  · exact perform_staysIn frame _

/- Steps that are executed stay on the same disk. -/
theorem Executes.sameDisk
    {steps : List Text}
    {w v : World}
    (hSteps : Executes config stage scenario w steps v) :
    w.SameDisk v := by
  induction hSteps with
  | none =>
      exact refl_of World.SameDisk _
  | step hStep _ ih =>
      exact trans_of World.SameDisk
        ((attempt_staysIn (sameDisk_frame stage.state) config
          scenario _).of_ok hStep)
        ih

end Running

/-
  A run of a scenario that is there equals the execution of
  its steps one after another.  If all of them are executed,
  all are completed.  If one is the first to fail, the steps
  before it are completed; the failure becomes the result if
  the program or the browser found it, and ends the run
  otherwise.  What the run leaves differs in the log at most
  from what these steps leave, so no later step counts.
-/
theorem run_eq_execution
    (config : Configuration)
    (stage : Stage)
    (name : Text)
    {scenario : Scenario}
    (hScenario : config.scenario? name = some scenario)
    (w : World) :
    (∀ v,
      Executes config stage name w scenario.steps v →
        ∃ u,
          (run config stage name).run w =
            .ok ⟨name, scenario.steps, none⟩ u ∧
          u.Alike v) ∧
    (∀ before step after v failure v',
      scenario.steps = before ++ step :: after →
      Executes config stage name w before v →
      (attempt config stage name step).run v =
        .error failure v' →
        ∃ u,
          (run config stage name).run w =
            (if failure.isOwn || failure.isBrowser then
              .ok ⟨name, before,
                some (step, failure.message)⟩ u
            else
              .error failure u) ∧
          u.Alike v') ∧
    ((∃ v, Executes config stage name w scenario.steps v) ∨
      ∃ before step after v failure v',
        scenario.steps = before ++ step :: after ∧
        Executes config stage name w before v ∧
        (attempt config stage name step).run v =
          .error failure v') := by
  have hRun :
      run config stage name =
        runSteps config stage name scenario.steps.length []
          scenario.steps := by
    simp [run, hScenario]
  refine ⟨?_, ?_, ?_⟩
  · intro v hSteps
    rw [hRun]
    exact runSteps_of_executes _ hSteps World.Alike.rfl []
  · intro before step after v failure v' hSteps hBefore hStep
    rw [hRun, hSteps]
    exact runSteps_of_stops _ hBefore hStep after
      World.Alike.rfl []
  · exact executes_or_stops config stage name w scenario.steps

/- A scenario whose second step is not there. -/
def brokenTour : Configuration :=
  ⟨[("home", .visit "http://a/")],
    [("tour", ⟨["home", "gone", "home"], none⟩)]⟩

/- The missing step ends the run where it is reached. -/
theorem run_eq_execution_of_brokenTour :
    brokenTour.scenario? "tour" =
        some ⟨["home", "gone", "home"], none⟩ ∧
      ∃ u,
        (run brokenTour ⟨.ofText "state", none⟩ "tour").run
            (.start .empty .blank) =
          .ok ⟨"tour", ["home"],
            some ("gone",
              "Step \"gone\" referenced by scenario " ++
                "\"tour\" not found in config.")⟩ u ∧
        u.trace = [.visit "http://a/"] := by
  have hTour :
      brokenTour.scenario? "tour" =
        some ⟨["home", "gone", "home"], none⟩ := by
    rfl
  have hHome :
      (attempt brokenTour ⟨.ofText "state", none⟩ "tour"
          "home").run (.start .empty .blank) =
        .ok ()
          { World.start .empty .blank with
            page := { Page.blank with url := "http://a/" }
            trace := [.visit "http://a/"] } := by
    rfl
  rcases (run_eq_execution brokenTour
      ⟨.ofText "state", none⟩ "tour" hTour
      (.start .empty .blank)).2.1 ["home"] "gone" ["home"]
      _ _ _ rfl (.step hHome .none) rfl with
    ⟨u, hRun, hAlike⟩
  exact ⟨hTour, u, hRun, hAlike.trace⟩

end Replay
