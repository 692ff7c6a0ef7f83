import Replay.CommandLine
import Replay.Proofs.Configuration.Reference
import Replay.Proofs.Performance.Rejection
import Replay.Proofs.Run

/-
  This file proves that the check of a configuration agrees
  with its runs: what the check finds by a scan of all
  scenarios is what the runs find where they get to it.

  Key definitions include:
    * `Failure.isLookup`
    * `StopsAt`
    * `NeverPasses`
    * `NeverMisses`

  Main results:
    * `perform_isNoLookup`
    * `run_of_stopsAt`
    * `passes_or_stopsAt`
    * `StopsAt.undefined_of_isLookup`
    * `failed_of_undefined`
    * `CommandLine.check_agrees_with_runs`
-/

------------------------------------------------------------
-- Lookups
------------------------------------------------------------

namespace Replay

open Play

/- Is a name missing, of a scenario or of a step? -/
def Failure.isLookup : Failure → Bool
  | unknownScenario _ => true
  | unknownStep _ _ => true
  | _ => false

/- No action looks up a scenario or a step. -/
theorem perform_isNoLookup
    {stage : Stage}
    {action : Action}
    {w u : World}
    {failure : Failure}
    (hRun : (perform stage action).run w = .error failure u) :
    failure.isLookup = false := by
  by_cases hUnnamed : action.IsUnnamed
  · rw [perform_of_isUnnamed stage hUnnamed] at hRun
    cases hRun
    rfl
  · have hAction :=
      (perform_failsOfAction stage hUnnamed).mayFail_of_error hRun
    cases failure with
    | unknownScenario scenario => cases hAction
    | unknownStep step scenario => cases hAction
    | _ => rfl

section

variable {config : Configuration}
variable {stage : Stage}
variable {name : Text}

/- A step is missing exactly if it is not defined. -/
theorem isLookup_of_attempt_iff
    {step : Text}
    {w u : World}
    {failure : Failure}
    (hStep :
      (attempt config stage name step).run w =
        .error failure u) :
    failure.isLookup = true ↔ config.isDefined step = false := by
  unfold attempt at hStep
  cases hFound : config.step? step with
  | none =>
      rw [hFound] at hStep
      cases hStep
      simp [Failure.isLookup, Configuration.isDefined, hFound]
  | some action =>
      rw [hFound] at hStep
      simp [perform_isNoLookup hStep, Configuration.isDefined,
        hFound]

theorem eq_unknownStep_of_attempt
    {step : Text}
    {w u : World}
    {failure : Failure}
    (hStep :
      (attempt config stage name step).run w =
        .error failure u)
    (hUndefined : config.isDefined step = false) :
    failure = .unknownStep step name := by
  have hNone := Configuration.isDefined_eq_false_iff.mp hUndefined
  rw [attempt, hNone] at hStep
  cases hStep
  rfl

/- Only steps that are defined are executed. -/
theorem isDefined_of_executes
    {steps : List Text}
    {w v : World}
    (hSteps : Executes config stage name w steps v) :
    ∀ step ∈ steps, config.isDefined step = true := by
  induction hSteps with
  | none =>
      exact fun _ hStep => absurd hStep List.not_mem_nil
  | @step w v u step rest hStep _ ih =>
      refine List.forall_mem_cons.mpr ⟨?_, ih⟩
      cases hFound : config.step? step with
      | none =>
          rw [attempt, hFound] at hStep
          cases hStep
      | some action =>
          rw [Configuration.isDefined, hFound, Option.isSome_some]

end

------------------------------------------------------------
-- Stops
------------------------------------------------------------

/-
  A run in a world stops at a step: those before it in the
  scenario are executed, and the step fails.
-/
def StopsAt
    (config : Configuration)
    (stage : Stage)
    (name : Text)
    (w : World)
    (before : List Text)
    (step : Text)
    (failure : Failure) : Prop :=
  ∃ found after v u,
    config.scenario? name = some found ∧
    found.steps = before ++ step :: after ∧
    Executes config stage name w before v ∧
    (attempt config stage name step).run v = .error failure u

/- No run of a scenario succeeds. -/
def NeverPasses
    (config : Configuration)
    (name : Text) : Prop :=
  ∀ stage w result u,
    (run config stage name).run w = .ok result u →
      result.success = false

/- No run of a scenario ends where a name is missing. -/
def NeverMisses
    (config : Configuration)
    (name : Text) : Prop :=
  ∀ stage w failure,
    (∀ before step,
      StopsAt config stage name w before step failure →
        failure.isLookup = false) ∧
    ∀ u,
      (run config stage name).run w = .error failure u →
        failure.isLookup = false

section

variable {config : Configuration}
variable {stage : Stage}
variable {name : Text}
variable {found : Scenario}
variable {w : World}

/- Where a run stops, it ends with the failure found there. -/
theorem run_of_stopsAt
    {before : List Text}
    {step : Text}
    {failure : Failure}
    (hStops :
      StopsAt config stage name w before step failure) :
    ∃ u,
      (run config stage name).run w =
        if failure.isResult then
          .ok ⟨name, before, some (step, failure.message)⟩ u
        else
          .error failure u := by
  rcases hStops with
    ⟨found, after, v, v', hScenario, hSplit, hBefore, hStep⟩
  rcases runSteps_of_stops found.steps.length hBefore hStep after
      World.Alike.rfl [] with ⟨u, hRun, _⟩
  refine ⟨u, ?_⟩
  rw [run_eq_runSteps hScenario, hSplit]
  rwa [hSplit] at hRun

/- A run completes every step, or it stops at one. -/
theorem passes_or_stopsAt
    (hScenario : config.scenario? name = some found)
    (stage : Stage)
    (w : World) :
    (∃ u,
      Executes config stage name w found.steps u ∧
        ∃ u',
          (run config stage name).run w =
            .ok ⟨name, found.steps, none⟩ u') ∨
      ∃ before step failure,
        StopsAt config stage name w before step failure := by
  rcases executes_or_stops config stage name w found.steps with
    ⟨v, hAll⟩ |
    ⟨before, step, after, v, failure, u, hSplit, hBefore, hStep⟩
  · rcases runSteps_of_executes found.steps.length hAll
        World.Alike.rfl [] with ⟨u, hRun, _⟩
    refine Or.inl ⟨v, hAll, u, ?_⟩
    rwa [run_eq_runSteps hScenario]
  · exact Or.inr
      ⟨before, step, failure, found, after, v, u, hScenario,
        hSplit, hBefore, hStep⟩

/- A failure that gets out of a run is one that stops it. -/
theorem stopsAt_of_error
    (hScenario : config.scenario? name = some found)
    {failure : Failure}
    {u : World}
    (hRun :
      (run config stage name).run w = .error failure u) :
    ∃ before step,
      StopsAt config stage name w before step failure := by
  rcases passes_or_stopsAt hScenario stage w with
    ⟨_, _, u', hPasses⟩ | ⟨before, step, other, hStops⟩
  · cases hRun.symm.trans hPasses
  · rcases run_of_stopsAt hStops with ⟨v, hEnds⟩
    rw [hRun] at hEnds
    split at hEnds
    · cases hEnds
    · cases hEnds
      exact ⟨before, step, hStops⟩

/- The steps before a stop are defined. -/
theorem StopsAt.prefix_definedPart
    (hScenario : config.scenario? name = some found)
    {before : List Text}
    {step : Text}
    {failure : Failure}
    (hStops :
      StopsAt config stage name w before step failure) :
    before <+: config.definedPart found.steps := by
  rcases hStops with
    ⟨_, after, v, u, hFound, hSplit, hBefore, _⟩
  cases hScenario.symm.trans hFound
  have hDefined := isDefined_of_executes hBefore
  rw [hSplit, Configuration.definedPart_append hDefined]
  exact List.prefix_append _ _

/-
  If a name is missing where a run stops, it is the first step
  that is not defined, and all steps before it are completed.
-/
theorem StopsAt.undefined_of_isLookup
    (hScenario : config.scenario? name = some found)
    {before : List Text}
    {step : Text}
    {failure : Failure}
    (hStops :
      StopsAt config stage name w before step failure)
    (hLookup : failure.isLookup = true) :
    failure = .unknownStep step name ∧
      step ∈ found.steps ∧
      config.step? step = none ∧
      config.firstUndefined? found.steps = some step ∧
      before = config.definedPart found.steps := by
  rcases hStops with
    ⟨_, after, v, u, hFound, hSplit, hBefore, hStep⟩
  cases hScenario.symm.trans hFound
  have hUndefined := (isLookup_of_attempt_iff hStep).mp hLookup
  have hDefined := isDefined_of_executes hBefore
  rw [hSplit]
  exact ⟨eq_unknownStep_of_attempt hStep hUndefined,
    List.mem_append_right _ List.mem_cons_self,
    Configuration.isDefined_eq_false_iff.mp hUndefined,
    Configuration.firstUndefined?_of_undefined hDefined hUndefined,
    (Configuration.definedPart_of_undefined hDefined hUndefined).symm⟩

/- With a step that is not defined every run stops. -/
theorem stopsAt_of_undefined
    (hScenario : config.scenario? name = some found)
    {missing : Text}
    (hMem : missing ∈ found.steps)
    (hUndefined : config.step? missing = none)
    (stage : Stage)
    (w : World) :
    ∃ before step failure,
      StopsAt config stage name w before step failure := by
  refine (passes_or_stopsAt hScenario stage w).resolve_left ?_
  rintro ⟨v, hAll, _⟩
  have hDefined := isDefined_of_executes hAll missing hMem
  rw [Configuration.isDefined_eq_false_iff.mpr hUndefined] at hDefined
  cases hDefined

/-
  Then no result tells of success, or of a step that comes
  after the defined part.
-/
theorem failed_of_undefined
    (hScenario : config.scenario? name = some found)
    {missing : Text}
    (hMem : missing ∈ found.steps)
    (hUndefined : config.step? missing = none)
    {result : RunResult}
    {u : World}
    (hRun : (run config stage name).run w = .ok result u) :
    result.success = false ∧
      result.completed <+: config.definedPart found.steps := by
  rcases stopsAt_of_undefined hScenario hMem hUndefined stage w
    with ⟨before, step, failure, hStops⟩
  rcases run_of_stopsAt hStops with ⟨v, hEnds⟩
  rw [hRun] at hEnds
  split at hEnds
  · cases hEnds
    exact ⟨rfl, hStops.prefix_definedPart hScenario⟩
  · cases hEnds

end

------------------------------------------------------------
-- Checks
------------------------------------------------------------

namespace CommandLine

/- The check tells of the configuration in the file. -/
theorem run_check_eq_ok_iff
    [Pattern.Engine]
    {settings : Settings}
    {path : String}
    {w u : World}
    {reply : Reply} :
    (handle settings (.check path)).run w = .ok reply u ↔
      ∃ config,
        (Configuration.load path).run w = .ok config u ∧
          reply = report config := by
  simp only [handle, EStateM.run_bind]
  cases (Configuration.load path).run w with
  | ok config v =>
      simp [eq_comm, and_comm]
  | error failure v =>
      simp

/- What is in a file is read from a document. -/
theorem exists_ofDocument_of_load
    [Pattern.Engine]
    {path : String}
    {w u : World}
    {config : Configuration}
    (hLoad :
      (Configuration.load path).run w = .ok config u) :
    ∃ d, Configuration.ofDocument d = .ok config := by
  rcases exists_of_bind_ok hLoad with ⟨d, v, _, hRead⟩
  refine ⟨d, ?_⟩
  cases hConfig : Configuration.ofDocument d with
  | ok other =>
      rw [hConfig] at hRead
      cases hRead
      rfl
  | error refusal =>
      rw [hConfig] at hRead
      cases hRead

/- If nothing is missing no run ends at a lookup. -/
theorem neverMisses_of_isEmpty
    [Pattern.Engine]
    {d : Document}
    {config : Configuration}
    (hRead : Configuration.ofDocument d = .ok config)
    (hNone : config.danglingReferences.isEmpty = true)
    {name : Text}
    {found : Scenario}
    (hScenario : config.scenario? name = some found) :
    NeverMisses config name := by
  have hStop
      {stage : Stage}
      {w : World}
      {before : List Text}
      {step : Text}
      {failure : Failure}
      (hStops :
        StopsAt config stage name w before step failure) :
      failure.isLookup = false := by
    by_contra hLookup
    rw [Bool.not_eq_false] at hLookup
    rcases hStops.undefined_of_isLookup hScenario hLookup with
      ⟨_, hStep, hUndefined, _⟩
    have hMem :=
      (Configuration.mem_danglingReferences_iff hRead).mpr
        ⟨found, hScenario, hStep, hUndefined⟩
    rw [List.isEmpty_iff.mp hNone] at hMem
    cases hMem
  refine fun stage w failure => ⟨fun _ _ => hStop, ?_⟩
  intro u hRun
  rcases stopsAt_of_error hScenario hRun with
    ⟨before, step, hStops⟩
  exact hStop hStops

/- If a step is missing a scenario never passes. -/
theorem exists_neverPasses_of_not_isEmpty
    [Pattern.Engine]
    {d : Document}
    {config : Configuration}
    (hRead : Configuration.ofDocument d = .ok config)
    (hSome : config.danglingReferences.isEmpty = false) :
    ∃ name found,
      config.scenario? name = some found ∧
        NeverPasses config name := by
  rcases List.exists_mem_of_ne_nil _
      (List.isEmpty_eq_false_iff.mp hSome) with
    ⟨⟨name, step⟩, hMem⟩
  rcases (Configuration.mem_danglingReferences_iff hRead).mp hMem with
    ⟨found, hScenario, hStep, hUndefined⟩
  exact ⟨name, found, hScenario, fun _ _ _ _ hRun =>
    (failed_of_undefined hScenario hStep hUndefined hRun).1⟩

/-
  The check agrees with the runs of a configuration that was
  read.  A run completes all steps of its scenario, or it
  stops at one and ends with the failure found there.  If a
  name is missing there, the check tells of the step, which
  is the first one that is not defined.  If the check tells of
  a step of a scenario, no run of it succeeds or gets past the
  steps before the first one that is not defined.  So after a
  check with status 0 no run of any scenario in the file ends
  at a missing name, and after one with status 1 some scenario
  in the file never passes.
-/
theorem check_agrees_with_runs
    [Pattern.Engine] :
    (∀ d config name found stage w,
      Configuration.ofDocument d = .ok config →
      config.scenario? name = some found →
        ((∃ u,
            (run config stage name).run w =
              .ok ⟨name, found.steps, none⟩ u) ∨
          ∃ before step failure,
            StopsAt config stage name w before step failure) ∧
        (∀ before step failure,
          StopsAt config stage name w before step failure →
            ∃ u,
              (run config stage name).run w =
                if failure.isResult then
                  .ok ⟨name, before,
                    some (step, failure.message)⟩ u
                else
                  .error failure u) ∧
        (∀ before step failure,
          StopsAt config stage name w before step failure →
          failure.isLookup = true →
            failure = .unknownStep step name ∧
            (name, step) ∈ config.danglingReferences ∧
            config.firstUndefined? found.steps = some step ∧
            before = config.definedPart found.steps) ∧
        ∀ missing,
          (name, missing) ∈ config.danglingReferences →
            ∀ result u,
              (run config stage name).run w = .ok result u →
                result.success = false ∧
                  result.completed <+:
                    config.definedPart found.steps) ∧
    ∀ settings path w reply u,
      (handle settings (.check path)).run w = .ok reply u →
        ∃ config,
          (Configuration.load path).run w = .ok config u ∧
          ((reply.status = 0 ∧
              ∀ name found,
                config.scenario? name = some found →
                  NeverMisses config name) ∨
            (reply.status = 1 ∧
              ∃ name found,
                config.scenario? name = some found ∧
                  NeverPasses config name)) := by
  constructor
  · intro d config name found stage w hRead hScenario
    refine ⟨?_, fun _ _ _ => run_of_stopsAt, ?_, ?_⟩
    · exact (passes_or_stopsAt hScenario stage w).imp_left
        fun ⟨_, _, hPasses⟩ => hPasses
    · intro before step failure hStops hLookup
      rcases hStops.undefined_of_isLookup hScenario hLookup with
        ⟨hFailure, hStep, hUndefined, hFirst, hBefore⟩
      exact ⟨hFailure,
        (Configuration.mem_danglingReferences_iff hRead).mpr
          ⟨found, hScenario, hStep, hUndefined⟩,
        hFirst, hBefore⟩
    · intro missing hMem result u hRun
      rcases (Configuration.mem_danglingReferences_iff hRead).mp
        hMem with ⟨_, hFound, hStep, hUndefined⟩
      cases hScenario.symm.trans hFound
      exact failed_of_undefined hScenario hStep hUndefined hRun
  · intro settings path w reply u hCheck
    rcases run_check_eq_ok_iff.mp hCheck with
      ⟨config, hLoad, rfl⟩
    rcases exists_ofDocument_of_load hLoad with ⟨d, hRead⟩
    refine ⟨config, hLoad, ?_⟩
    cases hNone : config.danglingReferences.isEmpty with
    | true =>
        exact Or.inl ⟨by simp [report, hNone],
          fun _ _ => neverMisses_of_isEmpty hRead hNone⟩
    | false =>
        exact Or.inr ⟨by simp [report, hNone],
          exists_neverPasses_of_not_isEmpty hRead hNone⟩

/- The document of the tour whose second step is missing. -/
def brokenDocument : Document :=
  .mapping
    [(.text "steps", .mapping
        [(.text "home", .mapping
          [(.text "action", .scalar (.text "goto-url")),
            (.text "value", .scalar (.text "http://a/"))])]),
      (.text "scenarios", .mapping
        [(.text "tour", .mapping
          [(.text "steps", .sequence
            [.scalar (.text "home"), .scalar (.text "gone"),
              .scalar (.text "home")])])])]

/- The same as a text. -/
def brokenText : String :=
  "\x7b\"steps\": \x7b\"home\": \x7b" ++
    "\"action\": \"goto-url\", \"value\": \"http://a/\"" ++
    "\x7d\x7d, \"scenarios\": \x7b\"tour\": \x7b\"steps\": " ++
    "[\"home\", \"gone\", \"home\"]\x7d\x7d\x7d"

/- A world with this text in a file. -/
def brokenWorld : World :=
  .start (FileTree.empty.install ["tour.json"]
    (.file (.text brokenText))) .blank

/-
  The run stops at the missing step, which the check tells of,
  and the check of the file ends with status 1.
-/
theorem check_agrees_with_runs_of_brokenTour :
    Configuration.ofDocument brokenDocument = .ok brokenTour ∧
      StopsAt brokenTour ⟨.ofText "state", none⟩ "tour"
        brokenWorld ["home"] "gone"
        (.unknownStep "gone" "tour") ∧
      (Text.ofString "tour", Text.ofString "gone") ∈
        brokenTour.danglingReferences ∧
      [Text.ofString "home"] =
        brokenTour.definedPart ["home", "gone", "home"] ∧
      (∀ result u,
        (run brokenTour ⟨.ofText "state", none⟩ "tour").run
            brokenWorld = .ok result u →
          result.success = false) ∧
      ∃ config u,
        (Configuration.load "tour.json").run brokenWorld =
            .ok config u ∧
          ∃ name found,
            config.scenario? name = some found ∧
              NeverPasses config name := by
  have hRead :
      Configuration.ofDocument brokenDocument =
        .ok brokenTour := rfl
  have hTour :
      brokenTour.scenario? "tour" =
        some ⟨["home", "gone", "home"], none⟩ := rfl
  have hHome :
      (attempt brokenTour ⟨.ofText "state", none⟩ "tour"
          "home").run brokenWorld =
        .ok ()
          { brokenWorld with
            page := { Page.blank with url := "http://a/" }
            trace := [.visit "http://a/"] } := rfl
  have hStops :
      StopsAt brokenTour ⟨.ofText "state", none⟩ "tour"
        brokenWorld ["home"] "gone"
        (.unknownStep "gone" "tour") :=
    ⟨_, ["home"], _, _, hTour, rfl, .step hHome .none, rfl⟩
  rcases check_agrees_with_runs.1 brokenDocument brokenTour "tour"
      _ ⟨.ofText "state", none⟩ brokenWorld hRead hTour with
    ⟨_, _, hMissing, hFails⟩
  rcases hMissing ["home"] "gone" _ hStops rfl with
    ⟨_, hMem, _, hBefore⟩
  refine ⟨hRead, hStops, hMem, hBefore,
    fun result u hRun => (hFails "gone" hMem result u hRun).1, ?_⟩
  let settings : Settings := ⟨none, "", "INFO", none⟩
  have hStatus :
      ((handle settings (.check "tour.json")).run'
        brokenWorld).map Reply.status = some 1 := by
    decide +kernel
  rcases Option.map_eq_some_iff.mp hStatus with
    ⟨reply, hReply, hOne⟩
  rcases exists_run_of_run' hReply with ⟨u, hCheck⟩
  rcases check_agrees_with_runs.2 _ _ _ _ _ hCheck with
    ⟨config, hLoad, ⟨hZero, _⟩ | ⟨_, hNever⟩⟩
  · rw [hOne] at hZero
    cases hZero
  · exact ⟨config, u, hLoad, hNever⟩

end CommandLine

end Replay
