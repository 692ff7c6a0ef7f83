import Replay.Proofs.Run

/-
  This file proves that a run of a scenario depends only on
  the steps that the scenario names: not on other scenarios,
  nor on other steps, nor on their order, nor on the scenario
  that is expected to have run before.

  Key definitions include:
    * `Configuration.AgreeOn`
    * `Configuration.ownPart`

  Main results:
    * `Configuration.agreeOn_ownPart`
    * `runSteps_of_agreeOn`
    * `run_of_agreeOn`
    * `run_of_own_steps`
-/

------------------------------------------------------------
-- Agreement
------------------------------------------------------------

namespace Replay

namespace Configuration

variable {config other : Configuration}

/-
  Two configurations agree on names: each one is the name of
  the same action in both, or of none.
-/
def AgreeOn
    (config other : Configuration)
    (names : List Text) : Prop :=
  ∀ name ∈ names, config.step? name = other.step? name

/- The actions of names, in the order of the names. -/
def named
    (config : Configuration)
    (names : List Text) : List (Text × Action) :=
  names.filterMap fun name =>
    (config.step? name).map fun action => (name, action)

/-
  What is left of a configuration for a run of one scenario:
  the scenario without the one before it, and the actions of
  its steps in the order in which it names them.
-/
def ownPart
    (config : Configuration)
    (scenario : Text) : Configuration :=
  match config.scenario? scenario with
  | none => ⟨[], []⟩
  | some found =>
    ⟨config.named found.steps, [(scenario, ⟨found.steps, none⟩)]⟩

/- A name is found under itself, unless it has no action. -/
theorem lookup_named
    (config : Configuration)
    (name : Text)
    (names : List Text) :
    (config.named names).lookup name =
      if name ∈ names then config.step? name else none := by
  induction names with
  | nil =>
      rfl
  | cons first rest ih =>
      unfold named at ih ⊢
      rw [List.filterMap_cons]
      by_cases hSame : name = first
      · subst hSame
        rw [if_pos List.mem_cons_self]
        cases hAction : config.step? name with
        | none =>
            rw [hAction, ite_self] at ih
            exact ih
        | some action =>
            exact List.lookup_cons_self
      · have hOther : (name == first) = false :=
          beq_eq_false_iff_ne.mpr hSame
        simp only [List.mem_cons, hSame, false_or]
        rw [← ih]
        cases config.step? first with
        | none =>
            rfl
        | some action =>
            simp only [Option.map_some, List.lookup_cons, hOther]

section

variable {scenario : Text}

/- An unknown scenario has no part of its own. -/
theorem ownPart_of_scenario?_eq_none
    (hNone : config.scenario? scenario = none) :
    config.ownPart scenario = ⟨[], []⟩ := by
  simp only [ownPart, hNone]

variable {found : Scenario}

/- The own part of a scenario is its steps and itself. -/
theorem ownPart_of_scenario?
    (hFound : config.scenario? scenario = some found) :
    config.ownPart scenario =
      ⟨config.named found.steps,
        [(scenario, ⟨found.steps, none⟩)]⟩ := by
  simp only [ownPart, hFound]

/- The steps of a scenario are what they are in its own part. -/
theorem agreeOn_ownPart
    (hFound : config.scenario? scenario = some found) :
    config.AgreeOn (config.ownPart scenario) found.steps := by
  intro name hName
  rw [ownPart_of_scenario? hFound]
  have hNamed := lookup_named config name found.steps
  rw [if_pos hName] at hNamed
  exact hNamed.symm

end

end Configuration

------------------------------------------------------------
-- Runs
------------------------------------------------------------

section

variable {config other : Configuration}
variable (stage : Stage)
variable {scenario : Text}

/- Steps on which two configurations agree do the same. -/
theorem runSteps_of_agreeOn
    (scenario : Text)
    (total : Nat)
    (completed : List Text)
    {steps : List Text}
    (hAgree : config.AgreeOn other steps) :
    runSteps config stage scenario total completed steps =
      runSteps other stage scenario total completed steps := by
  induction steps generalizing completed with
  | nil =>
      rfl
  | cons step rest ih =>
      have hStep : config.step? step = other.step? step := by
        apply hAgree
        exact List.mem_cons_self
      have hRest : config.AgreeOn other rest := by
        intro name hName
        exact hAgree name (List.mem_cons_of_mem _ hName)
      have hFirst (position : Nat) :
          runStep config stage scenario position total step =
            runStep other stage scenario position total step := by
        unfold runStep
        rw [hStep]
      rw [runSteps, runSteps, hFirst]
      congr 1
      funext outcome
      cases outcome with
      | none =>
          exact ih (completed ++ [step]) hRest
      | some failure =>
          rfl

/- So do runs of scenarios with the same steps. -/
theorem run_of_agreeOn
    {found twin : Scenario}
    (hFound : config.scenario? scenario = some found)
    (hTwin : other.scenario? scenario = some twin)
    (hSteps : found.steps = twin.steps)
    (hAgree : config.AgreeOn other found.steps) :
    run config stage scenario = run other stage scenario := by
  rw [run_eq_runSteps hFound, run_eq_runSteps hTwin, ← hSteps]
  exact runSteps_of_agreeOn stage scenario _ [] hAgree

end

/-
  Two configurations that give a scenario the same steps, and
  each of these steps the same action or none, run it alike:
  from every world they come to the same result or failure,
  and leave the same calls, page, files and log.  So a run is
  that of the own part of the scenario, without anything else
  that the configuration holds.
-/
theorem run_of_own_steps :
    (∀ (config other : Configuration) (scenario : Text)
        (found twin : Scenario),
      config.scenario? scenario = some found →
      other.scenario? scenario = some twin →
      found.steps = twin.steps →
      config.AgreeOn other found.steps →
        ∀ (stage : Stage) (w : World),
          (run config stage scenario).run w =
            (run other stage scenario).run w) ∧
    ∀ (config : Configuration) (scenario : Text)
        (stage : Stage) (w : World),
      (run config stage scenario).run w =
        (run (config.ownPart scenario) stage scenario).run w := by
  constructor
  · intro config other scenario found twin hFound hTwin hSteps
      hAgree stage w
    rw [run_of_agreeOn stage hFound hTwin hSteps hAgree]
  · intro config scenario stage w
    cases hFound : config.scenario? scenario with
    | none =>
        rw [Configuration.ownPart_of_scenario?_eq_none hFound, run,
          hFound]
        rfl
    | some found =>
        have hOwn :
            (config.ownPart scenario).scenario? scenario =
              some ⟨found.steps, none⟩ := by
          rw [Configuration.ownPart_of_scenario? hFound]
          exact List.lookup_cons_self
        rw [run_of_agreeOn stage hFound hOwn rfl
          (Configuration.agreeOn_ownPart hFound)]

/- The record of a step that opens an address. -/
def homeRecord : Document :=
  .mapping
    [(.text "action", .scalar (.text "goto-url")),
      (.text "value", .scalar (.text "http://a/"))]

/- The names of steps, one of which no document defines. -/
def tourNames : Document :=
  .sequence
    (["home", "ghost", "home"].map fun name =>
      .scalar (.text name))

/- A scenario and what it needs. -/
def bareDocument : Document :=
  .mapping
    [(.text "steps", .mapping [(.text "home", homeRecord)]),
      (.text "scenarios", .mapping
        [(.text "tour", .mapping [(.text "steps", tourNames)])])]

/- The same scenario among other scenarios and other steps. -/
def crowdedDocument : Document :=
  .mapping
    [(.text "scenarios", .mapping
        [(.text "start", .mapping []),
          (.text "tour", .mapping
            [(.text "prev", .scalar (.text "start")),
              (.text "steps", tourNames)])]),
      (.text "steps", .mapping
        [(.text "leave", .mapping
            [(.text "action", .scalar (.text "goto")),
              (.text "xpath", .scalar (.text "//a"))]),
          (.text "home", homeRecord)])]

/- The configuration of the first document. -/
def bareTour : Configuration :=
  ⟨[("home", .visit "http://a/")],
    [("tour", ⟨["home", "ghost", "home"], none⟩)]⟩

/- The configuration of the second document. -/
def crowdedTour : Configuration :=
  ⟨[("leave", .click "//a"), ("home", .visit "http://a/")],
    [("start", ⟨[], none⟩),
      ("tour", ⟨["home", "ghost", "home"], some "start"⟩)]⟩

/- The scenario fails at the same step under both. -/
theorem run_of_own_steps_of_crowdedTour :
    Configuration.ofDocument bareDocument = .ok bareTour ∧
      Configuration.ofDocument crowdedDocument = .ok crowdedTour ∧
      bareTour.scenario? "tour" =
        some ⟨["home", "ghost", "home"], none⟩ ∧
      crowdedTour.scenario? "tour" =
        some ⟨["home", "ghost", "home"], some "start"⟩ ∧
      bareTour.AgreeOn crowdedTour ["home", "ghost", "home"] ∧
      ∃ u,
        (run crowdedTour ⟨.ofText "state", none⟩ "tour").run
            (.start .empty .blank) =
          .ok ⟨"tour", ["home"],
            some ("ghost",
              "Step \"ghost\" referenced by scenario " ++
                "\"tour\" not found in config.")⟩ u ∧
        u.trace = [.visit "http://a/"] := by
  have hBare :
      bareTour.scenario? "tour" =
        some ⟨["home", "ghost", "home"], none⟩ := rfl
  have hCrowded :
      crowdedTour.scenario? "tour" =
        some ⟨["home", "ghost", "home"], some "start"⟩ := rfl
  have hAgree :
      bareTour.AgreeOn crowdedTour ["home", "ghost", "home"] := by
    intro name hName
    simp only [List.mem_cons, List.not_mem_nil, or_false] at hName
    rcases hName with rfl | rfl | rfl
    · rfl
    · rfl
    · rfl
  have hRun :=
    run_of_own_steps.1 bareTour crowdedTour "tour" _ _ hBare
      hCrowded rfl hAgree ⟨.ofText "state", none⟩
      (.start .empty .blank)
  refine ⟨rfl, rfl, hBare, hCrowded, hAgree, ?_⟩
  rw [← hRun]
  exact ⟨_, rfl, rfl⟩

end Replay
