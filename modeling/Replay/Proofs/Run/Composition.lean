import Replay.Proofs.Run

/-
  This file proves that a run of steps that are followed by
  more steps is a run of the former and, if it passes, a run
  of the latter.

  Key definitions include:
    * `World.Continues`
    * `Configuration.told`
    * `RunResult.within`

  Main results:
    * `runSteps_append`
    * `runSteps_within`
    * `run_of_append`

  The later run finds nothing of the earlier one but the page
  and the files.
-/

------------------------------------------------------------
-- Earlier Calls
------------------------------------------------------------

namespace Replay

open Play

/- The same page and files, after calls that came before. -/
structure World.Continues
    (earlier : List Call)
    (w v : World) : Prop where
  page : w.page = v.page
  files : w.files = v.files
  trace : w.trace = earlier ++ v.trace

namespace World.Continues

variable {earlier : List Call}

/- A world goes on from itself. -/
theorem self (w : World) :
    w.Continues [] w :=
  ⟨rfl, rfl, rfl⟩

/- A world that starts anew with the same page and files. -/
theorem start
    {w v : World}
    (hContinues : w.Continues [] v) :
    w.Continues v.trace (.start v.files v.page) where
  page := hContinues.page
  files := hContinues.files
  trace := by
    rw [hContinues.trace, List.nil_append]
    exact (List.append_nil _).symm

/- What goes on from a world is its twin but for the trace. -/
theorem twins :
    World.Twins (World.Continues earlier) Eq Eq where
  toTwins := Page.eq_twins
  page := World.Continues.page
  files := World.Continues.files
  record call hContinues :=
    ⟨hContinues.page, hContinues.files, by
      simp only [hContinues.trace, List.append_assoc]⟩
  note _ hContinues :=
    ⟨hContinues.page, hContinues.files, hContinues.trace⟩
  write _ hContinues :=
    ⟨hContinues.page, rfl, hContinues.trace⟩
  turn hContinues hPages :=
    ⟨hPages, hContinues.files, hContinues.trace⟩

/- What is noted does not matter. -/
theorem notes_agree
    (level otherLevel : Level)
    (source otherSource : String)
    (message otherMessage : Text) :
    Agrees (World.Continues earlier) Eq
      (note level source message)
      (note otherLevel otherSource otherMessage) :=
  Agrees.change fun _ _ hContinues =>
    ⟨hContinues.page, hContinues.files, hContinues.trace⟩

end World.Continues

------------------------------------------------------------
-- Results as Parts
------------------------------------------------------------

/-
  What a run of a scenario tells of a step that failed.  Only
  the reason why a step is unknown names the scenario.
-/
def Configuration.told
    (config : Configuration)
    (scenario : Text)
    (failed : Text × Text) : Text × Text :=
  match config.step? failed.1 with
  | some _ => failed
  | none =>
    (failed.1, (Failure.unknownStep failed.1 scenario).message)

/- A result as the last part of a longer run. -/
def RunResult.within
    (config : Configuration)
    (scenario : Text)
    (before : List Text)
    (result : RunResult) : RunResult :=
  ⟨scenario, before ++ result.completed,
    result.failed.map (config.told scenario)⟩

section

variable (config : Configuration)
variable (scenario : Text)
variable (before : List Text)
variable (result : RunResult)

@[simp] theorem RunResult.completed_within :
    (result.within config scenario before).completed =
      before ++ result.completed := rfl

@[simp] theorem RunResult.success_within :
    (result.within config scenario before).success =
      result.success :=
  Option.isNone_map

end

------------------------------------------------------------
-- Steps
------------------------------------------------------------

section

variable (config : Configuration)
variable (stage : Stage)

/- Steps are run one part after the other, if it passes. -/
theorem runSteps_append
    (scenario : Text)
    (total : Nat)
    (completed first second : List Text) :
    runSteps config stage scenario total completed
        (first ++ second) =
      runSteps config stage scenario total completed first >>=
        fun result =>
          if result.success = true then
            runSteps config stage scenario total result.completed
              second
          else
            pure result := by
  induction first generalizing completed with
  | nil =>
      simp [runSteps, RunResult.success]
  | cons step rest ih =>
      simp only [List.cons_append, runSteps, bind_assoc]
      congr 1
      funext outcome
      cases outcome with
      | none =>
          exact ih (completed ++ [step])
      | some failure =>
          simp [RunResult.success]

/- The same step in runs of two scenarios. -/
theorem resultOf_runStep_agrees
    {step : Text}
    {action : Action}
    (hStep : config.step? step = some action)
    (earlier : List Call)
    (scenario part : Text)
    (position total place count : Nat) :
    Agrees (World.Continues earlier) Eq
      (resultOf
        (runStep config stage scenario position total step))
      (resultOf
        (runStep config stage part place count step)) := by
  refine resultOf_agrees ?_
  simp only [runStep, hStep]
  exact (World.Continues.notes_agree _ _ _ _ _ _).bindEq fun _ =>
    perform_agrees World.Continues.twins stage action

/-
  Steps do the same as part of a longer run of another
  scenario, and their result is a part of its result.
-/
theorem runSteps_within
    (earlier : List Call)
    (scenario part : Text)
    (total count : Nat)
    (before completed steps : List Text) :
    Agrees (World.Continues earlier)
      (fun whole result =>
        whole = result.within config scenario before)
      (runSteps config stage scenario total (before ++ completed)
        steps)
      (runSteps config stage part count completed steps) := by
  induction steps generalizing completed with
  | nil =>
      exact Agrees.pure rfl
  | cons step rest ih =>
      cases hStep : config.step? step with
      | none =>
          intro w v hContinues
          have hTold :
              config.told scenario
                  (step, (Failure.unknownStep step part).message) =
                (step,
                  (Failure.unknownStep step scenario).message) := by
            simp only [Configuration.told, hStep]
          simp only [runSteps, runStep, hStep, EStateM.run_bind,
            run_resultOf, run_throw, Failure.isResult,
            Failure.isOwn, Bool.true_or, if_true, run_note,
            EStateM.run_pure]
          refine .ok ?_
            ⟨hContinues.page, hContinues.files, hContinues.trace⟩
          rw [RunResult.within, Option.map_some, hTold]
      | some action =>
          refine (resultOf_runStep_agrees config stage hStep earlier
            _ _ _ _ _ _).bindEq fun outcome => ?_
          cases outcome with
          | none =>
              simpa only [List.append_assoc] using
                ih (completed ++ [step])
          | some failure =>
              refine (World.Continues.notes_agree _ _ _ _ _ _).bindEq
                fun _ => Agrees.pure ?_
              simp only [RunResult.within, Option.map_some,
                Configuration.told, hStep]

end

------------------------------------------------------------
-- Runs in Turn
------------------------------------------------------------

/-
  What two runs in turn come to as one run of a scenario.  The
  second one is made only if the first one passes, on the page
  and the files that this one leaves, with nothing called
  before.  The calls of both follow each other, and so do the
  steps that were completed; the page, the files and the
  failure are those of the run that came last.
-/
inductive InTurn
    (config : Configuration)
    (stage : Stage)
    (first second scenario : Text)
    (w : World) :
    EStateM.Result Failure World RunResult → Prop
  | raised {failure u v} :
      (run config stage first).run w = .error failure u →
      v.Continues [] u →
      InTurn config stage first second scenario w
        (.error failure v)
  | failed {result u v} :
      (run config stage first).run w = .ok result u →
      result.success = false →
      v.Continues [] u →
      InTurn config stage first second scenario w
        (.ok (result.within config scenario []) v)
  | raisedLater {result u failure u' v} :
      (run config stage first).run w = .ok result u →
      result.success = true →
      (run config stage second).run (.start u.files u.page) =
        .error failure u' →
      v.Continues u.trace u' →
      InTurn config stage first second scenario w
        (.error failure v)
  | ended {result u next u' v} :
      (run config stage first).run w = .ok result u →
      result.success = true →
      (run config stage second).run (.start u.files u.page) =
        .ok next u' →
      v.Continues u.trace u' →
      InTurn config stage first second scenario w
        (.ok (next.within config scenario result.completed) v)

section

variable {config : Configuration}
variable {first second whole : Text}
variable {a b c : Scenario}
variable (stage : Stage)

/- The steps of the first part, in a longer run or alone. -/
theorem firstSteps_within
    (hFirst : config.scenario? first = some a)
    (scenario : Text)
    (total : Nat) :
    Agrees (World.Continues [])
      (fun result part =>
        result = part.within config scenario [])
      (runSteps config stage scenario total [] a.steps)
      (run config stage first) := by
  rw [run_eq_runSteps hFirst]
  exact runSteps_within config stage [] scenario first _ _ [] [] _

/- The steps of the second part, after the first one or alone. -/
theorem secondSteps_within
    (hSecond : config.scenario? second = some b)
    (scenario : Text)
    (total : Nat)
    (earlier : List Call)
    (completed : List Text) :
    Agrees (World.Continues earlier)
      (fun result part =>
        result = part.within config scenario completed)
      (runSteps config stage scenario total completed b.steps)
      (run config stage second) := by
  rw [run_eq_runSteps hSecond]
  simpa only [List.append_nil] using
    runSteps_within config stage earlier scenario second total
      b.steps.length completed [] b.steps

/- The whole run comes to what its two parts come to. -/
theorem inTurn_of_append
    (hFirst : config.scenario? first = some a)
    (hSecond : config.scenario? second = some b)
    (hWhole : config.scenario? whole = some c)
    (hSteps : c.steps = a.steps ++ b.steps)
    (w : World) :
    InTurn config stage first second whole w
      ((run config stage whole).run w) := by
  have hParts :
      run config stage whole =
        runSteps config stage whole c.steps.length [] a.steps >>=
          fun result =>
            if result.success = true then
              runSteps config stage whole c.steps.length
                result.completed b.steps
            else
              pure result := by
    rw [run_eq_runSteps hWhole, ← runSteps_append, hSteps]
  have hFormer :=
    firstSteps_within stage hFirst whole c.steps.length
  have hLatter :=
    secondSteps_within stage hSecond whole c.steps.length
  rw [hParts, EStateM.run_bind]
  cases hRun : (run config stage first).run w with
  | error failure u =>
      rcases hFormer.exists_error (.self w) hRun with
        ⟨v, hPart, hContinues⟩
      rw [hPart]
      exact .raised hRun hContinues
  | ok result u =>
      rcases hFormer.exists_related (.self w) hRun with
        ⟨_, v, hPart, rfl, hContinues⟩
      rw [hPart]
      simp only [RunResult.success_within,
        RunResult.completed_within, List.nil_append]
      cases hResult : result.success with
      | false =>
          exact .failed hRun hResult hContinues
      | true =>
          cases hNext :
              (run config stage second).run
                (.start u.files u.page) with
          | error failure u' =>
              rcases (hLatter u.trace result.completed).exists_error
                  hContinues.start hNext with
                ⟨v', hLast, hEnd⟩
              rw [if_pos rfl, hLast]
              exact .raisedLater hRun hResult hNext hEnd
          | ok next u' =>
              rcases (hLatter u.trace
                  result.completed).exists_related
                  hContinues.start hNext with
                ⟨_, v', hLast, rfl, hEnd⟩
              rw [if_pos rfl, hLast]
              exact .ended hRun hResult hNext hEnd

end

/-
  A run of the steps of two scenarios in turn comes to what
  the runs of the two come to in turn.  It passes exactly if
  both pass, and a failure that is no result ends it exactly
  if one ends the first run, or the second one after the first
  one has passed.
-/
theorem run_of_append
    {config : Configuration}
    {first second whole : Text}
    {a b c : Scenario}
    (hFirst : config.scenario? first = some a)
    (hSecond : config.scenario? second = some b)
    (hWhole : config.scenario? whole = some c)
    (hSteps : c.steps = a.steps ++ b.steps)
    (stage : Stage)
    (w : World) :
    InTurn config stage first second whole w
      ((run config stage whole).run w) ∧
    ((∃ result v,
      (run config stage whole).run w = .ok result v ∧
      result.success = true) ↔
      ∃ result u next u',
        (run config stage first).run w = .ok result u ∧
        result.success = true ∧
        (run config stage second).run (.start u.files u.page) =
          .ok next u' ∧
        next.success = true) ∧
    ((∃ failure v,
      (run config stage whole).run w = .error failure v) ↔
      (∃ failure u,
        (run config stage first).run w = .error failure u) ∨
      ∃ result u failure u',
        (run config stage first).run w = .ok result u ∧
        result.success = true ∧
        (run config stage second).run (.start u.files u.page) =
          .error failure u') := by
  have hTurn :=
    inTurn_of_append stage hFirst hSecond hWhole hSteps w
  generalize (run config stage whole).run w = outcome at hTurn ⊢
  refine ⟨hTurn, ?_⟩
  cases hTurn with
  | raised hRun _ =>
      simp [hRun]
  | failed hRun hFailed _ =>
      simp [hRun, hFailed]
  | raisedLater hRun hPassed hNext _ =>
      simp [hRun, hPassed, hNext, and_assoc]
  | ended hRun hPassed hNext _ =>
      simp [hRun, hPassed, hNext, and_assoc]

/- A scenario in two parts; the second one has a missing step. -/
def dividedTour : Configuration :=
  ⟨[("home", .visit "http://a/")],
    [("way", ⟨["home"], none⟩), ("end", ⟨["home", "gone"], none⟩),
      ("tour", ⟨["home", "home", "gone"], none⟩)]⟩

/- The missing step is missing from the scenario as a whole. -/
theorem run_of_append_of_dividedTour :
    dividedTour.scenario? "way" = some ⟨["home"], none⟩ ∧
      dividedTour.scenario? "end" =
        some ⟨["home", "gone"], none⟩ ∧
      dividedTour.scenario? "tour" =
        some ⟨["home"] ++ ["home", "gone"], none⟩ ∧
      ∃ v,
        (run dividedTour ⟨.ofText "state", none⟩ "tour").run
            (.start .empty .blank) =
          .ok ⟨"tour", ["home", "home"],
            some ("gone",
              "Step \"gone\" referenced by scenario " ++
                "\"tour\" not found in config.")⟩ v ∧
        v.trace = [.visit "http://a/", .visit "http://a/"] := by
  have hWay :
      dividedTour.scenario? "way" = some ⟨["home"], none⟩ := rfl
  have hEnd :
      dividedTour.scenario? "end" =
        some ⟨["home", "gone"], none⟩ := rfl
  have hTour :
      dividedTour.scenario? "tour" =
        some ⟨["home"] ++ ["home", "gone"], none⟩ := rfl
  have hTurn :=
    (run_of_append hWay hEnd hTour rfl ⟨.ofText "state", none⟩
      (.start .empty .blank)).1
  refine ⟨hWay, hEnd, hTour, ?_⟩
  generalize (run dividedTour ⟨.ofText "state", none⟩ "tour").run
    (.start .empty .blank) = outcome at hTurn ⊢
  cases hTurn with
  | raised hRun _ =>
      cases hRun
  | failed hRun hFailed _ =>
      cases hRun
      cases hFailed
  | raisedLater hRun _ hNext _ =>
      cases hRun
      cases hNext
  | ended hRun _ hNext hContinues =>
      cases hRun
      cases hNext
      exact ⟨_, rfl, hContinues.trace⟩

end Replay
