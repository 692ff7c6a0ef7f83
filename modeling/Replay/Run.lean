import Replay.Action.Performance

/-
  This file defines the runs of scenarios.

  Key definitions include:
    * `RunResult`
    * `RunResult.describe`
    * `runSteps`
    * `run`

  A run goes through the steps in their order and stops at
  the first one that fails.
-/

------------------------------------------------------------
-- Results
------------------------------------------------------------

namespace Replay

open Number

/-
  What came of a run: the steps that were completed, and the
  step that failed, with the reason.
-/
structure RunResult where
  scenario : Text
  completed : List Text
  failed : Option (Text × Text)
  deriving DecidableEq, Repr

namespace RunResult

/- Was every step completed? -/
def success (result : RunResult) : Bool :=
  result.failed.isNone

/- The result as a sentence. -/
def describe (result : RunResult) : Text :=
  match result.failed with
  | none =>
    "Scenario \"" ++ result.scenario ++ "\" passed (" ++
      natText result.completed.length ++ " steps)"
  | some (step, reason) =>
    "Scenario \"" ++ result.scenario ++
      "\" failed at step \"" ++ step ++ "\": " ++ reason

end RunResult

------------------------------------------------------------
-- Runs
------------------------------------------------------------

/- Is a failure the result of a step? -/
def Failure.isResult (failure : Failure) : Bool :=
  failure.isOwn || failure.isBrowser

/- Who tells of the steps. -/
def runLog : String :=
  "netero.runner.runner"

/- Look up a step and perform it. -/
def runStep
    (config : Configuration)
    (stage : Stage)
    (scenario : Text)
    (position total : Nat)
    (step : Text) : Play Unit := do
  match config.step? step with
  | none => throw (.unknownStep step scenario)
  | some action =>
    Play.note .info runLog
      ("[" ++ natText position ++ "/" ++ natText total ++ "] " ++
        step ++ " (" ++ action.kind ++ ")")
    perform stage action

/- The failure that is the result of a step, if there is one. -/
def resultOf (step : Play Unit) : Play (Option Failure) := do
  match ← step.outcome with
  | .ok () => return none
  | .error failure =>
    if failure.isResult then return some failure
    else throw failure

/- Run steps after those that were completed. -/
def runSteps
    (config : Configuration)
    (stage : Stage)
    (scenario : Text)
    (total : Nat)
    (completed : List Text) :
    List Text → Play RunResult
  | [] => return ⟨scenario, completed, none⟩
  | step :: rest => do
    let outcome ← resultOf
      (runStep config stage scenario (completed.length + 1) total
        step)
    match outcome with
    | none =>
      runSteps config stage scenario total (completed ++ [step])
        rest
    | some failure =>
      Play.note .error runLog
        ("Step " ++ step ++ " failed: " ++ failure.outline)
      return ⟨scenario, completed,
        some (step, failure.message)⟩

/- Run a scenario.  One that is not there runs no step. -/
def run
    (config : Configuration)
    (stage : Stage)
    (scenario : Text) : Play RunResult :=
  match config.scenario? scenario with
  | none => throw (.unknownScenario scenario)
  | some found =>
    runSteps config stage scenario found.steps.length [] found.steps

end Replay
