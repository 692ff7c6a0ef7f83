import Replay.Action.Reader

/-
  This file defines configurations: named steps, and the
  scenarios that refer to them.

  Key definitions include:
    * `Scenario`
    * `Configuration`
    * `Configuration.scenario?`
    * `Configuration.step?`
    * `Configuration.danglingReferences`
    * `Configuration.Fault`
    * `Configuration.Refusal`
    * `Configuration.ofDocument`

  Every step is checked when a configuration is read.  The
  steps that a scenario names are looked up when it gets to
  them.
-/

------------------------------------------------------------
-- Configurations
------------------------------------------------------------

namespace Replay

/-
  The names of steps in the order of their execution, and the
  scenario that is expected to have run before.
-/
structure Scenario where
  steps : List Text
  prev : Option Text
  deriving DecidableEq, Repr

/- Steps and scenarios by their names. -/
structure Configuration where
  steps : List (Text × Action)
  scenarios : List (Text × Scenario)

namespace Configuration

/- The scenario of a name. -/
def scenario?
    (config : Configuration)
    (name : Text) : Option Scenario :=
  config.scenarios.lookup name

/- The step of a name. -/
def step?
    (config : Configuration)
    (name : Text) : Option Action :=
  config.steps.lookup name

/- Each scenario with each of its steps that is not defined. -/
def danglingReferences
    (config : Configuration) : List (Text × Text) :=
  config.scenarios.flatMap fun (name, scenario) =>
    (scenario.steps.filter fun step =>
      (config.step? step).isNone).map fun step => (name, step)

------------------------------------------------------------
-- Faults
------------------------------------------------------------

/- What is wrong with the form of a configuration. -/
inductive Fault where
  | notMapping
  | partsNotMappings
  | step (name : Text) (faults : List Replay.Fault)
  | scenario (name : Text) (faults : List Replay.Fault)
  deriving DecidableEq, Repr

/- The wording of a fault. -/
def Fault.message : Fault → Text
  | notMapping =>
    "Configuration must be a mapping with 'steps' and " ++
      "'scenarios'."
  | partsNotMappings =>
    "'steps' and 'scenarios' must both be mappings."
  | step name faults =>
    "Invalid step \"" ++ name ++ "\": " ++ describeFaults faults
  | scenario name faults =>
    "Invalid scenario \"" ++ name ++ "\": " ++
      describeFaults faults

/-
  Why a document is no configuration: its form, or names that
  are no texts, or an expression beyond all limits.
-/
inductive Refusal where
  | malformed (fault : Fault)
  | rejected (rejection : Rejection)
  deriving DecidableEq, Repr

------------------------------------------------------------
-- Reading
------------------------------------------------------------

end Configuration

open Checked

/- A record of a scenario; fields that mean nothing may stand. -/
def Scenario.read (d : Document) : Checked Scenario :=
  match d with
  | .mapping entries =>
    let steps := optionalField entries "steps" []
      (listOf asText)
    let prev := optionalField entries "prev" none
      (optional asText)
    (both steps prev).map fun (steps, prev) => ⟨steps, prev⟩
  | _ => fail (.notModel "Scenario")

namespace Configuration

variable [Pattern.Engine]

/- A step under its name. -/
def readStep
    (name : Text)
    (d : Document) : Except Refusal Action :=
  match Action.read d with
  | .ok action => .ok action
  | .error (.faults faults) =>
    .error (.malformed (.step name faults))
  | .error rejection => .error (.rejected rejection)

/- A scenario under its name. -/
def readScenario
    (name : Text)
    (d : Document) : Except Refusal Scenario :=
  match Scenario.read d with
  | .ok scenario => .ok scenario
  | .error (.faults faults) =>
    .error (.malformed (.scenario name faults))
  | .error rejection => .error (.rejected rejection)

/- Read every value of some entries, up to the first fault. -/
def readEntries
    {α : Type}
    (read : Text → Document → Except Refusal α) :
    List (Scalar × Document) →
      Except Refusal (List (Scalar × α))
  | [] => .ok []
  | (key, d) :: rest => do
    let value ← read key.shown d
    return (key, value) :: (← readEntries read rest)

/- A part of a document, empty where nothing is given. -/
def part
    (d : Document)
    (name : String) : Option (List (Scalar × Document)) :=
  match d.field? name with
  | none => some []
  | some value =>
    if value.isEmpty then some []
    else
      match value with
      | .mapping entries => some entries
      | _ => none

/- The configuration that a document describes. -/
def ofDocument (d : Document) : Except Refusal Configuration := do
  match d with
  | .mapping _ => pure ()
  | _ => throw (.malformed .notMapping)
  match part d "steps", part d "scenarios" with
  | some rawSteps, some rawScenarios =>
    let steps ← readEntries readStep rawSteps
    let scenarios ← readEntries readScenario rawScenarios
    let named :=
      both (within "steps" (textKeys Except.ok steps))
        (within "scenarios" (textKeys Except.ok scenarios))
    match named with
    | .ok (steps, scenarios) => return ⟨steps, scenarios⟩
    | .error rejection => throw (.rejected rejection)
  | _, _ => throw (.malformed .partsNotMappings)

end Configuration

end Replay
