import Replay.Proofs.Validation
import Replay.Configuration

/-
  This file proves what the references to steps that are not
  defined tell of a configuration that was read: each one is
  a step of the scenario that is found under its name.

  Key definitions include:
    * `Configuration.isDefined`
    * `Configuration.definedPart`
    * `Configuration.firstUndefined?`

  Main results:
    * `Configuration.nodup_of_ofDocument`
    * `Configuration.mem_danglingReferences_iff`
    * `Configuration.definedPart_of_undefined`
    * `Configuration.firstUndefined?_of_undefined`
-/

------------------------------------------------------------
-- Names
------------------------------------------------------------

namespace Replay

open Checked Outcome

namespace Configuration

/- The names of the scenarios of a document are distinct. -/
theorem nodup_of_ofDocument
    [Pattern.Engine]
    {d : Document}
    {config : Configuration}
    (hRead : ofDocument d = .ok config) :
    (config.scenarios.map (·.1)).Nodup := by
  cases d with
  | mapping entries =>
      simp only [ofDocument] at hRead
      split at hRead
      · rcases bind_eq_ok_iff.mp hRead with ⟨steps, _, hSteps⟩
        rcases bind_eq_ok_iff.mp hSteps with
          ⟨scenarios, _, hNamed⟩
        split at hNamed
        · rename_i hBoth
          cases hNamed
          exact nodup_of_textKeys
            (within_eq_ok_iff.mp (both_eq_ok_iff.mp hBoth).2)
        · cases hNamed
      · cases hRead
  | _ => cases hRead

/- Under distinct names each scenario is found. -/
theorem scenario?_eq_some_iff
    {config : Configuration}
    (hNames : (config.scenarios.map (·.1)).Nodup)
    {name : Text}
    {found : Scenario} :
    config.scenario? name = some found ↔
      (name, found) ∈ config.scenarios := by
  rw [scenario?, List.lookup_eq_some_iff]
  constructor
  · rintro ⟨before, after, hSplit, _⟩
    rw [hSplit]
    exact List.mem_append_right _ List.mem_cons_self
  · intro hMem
    rcases List.append_of_mem hMem with ⟨before, after, hSplit⟩
    refine ⟨before, after, hSplit, fun entry hEntry => ?_⟩
    rw [hSplit, List.map_append, List.map_cons] at hNames
    rw [bne_iff_ne]
    intro hSame
    exact List.disjoint_of_nodup_append hNames
      (List.mem_map_of_mem hEntry)
      (hSame ▸ List.mem_cons_self)

------------------------------------------------------------
-- References
------------------------------------------------------------

/- The scan goes over all scenarios and all of their steps. -/
theorem mem_danglingReferences_iff
    [Pattern.Engine]
    {d : Document}
    {config : Configuration}
    (hRead : ofDocument d = .ok config)
    {name step : Text} :
    (name, step) ∈ config.danglingReferences ↔
      ∃ found,
        config.scenario? name = some found ∧
          step ∈ found.steps ∧ config.step? step = none := by
  simp only [scenario?_eq_some_iff (nodup_of_ofDocument hRead),
    danglingReferences, List.mem_flatMap, List.mem_map,
    List.mem_filter, Option.isNone_iff_eq_none, Prod.exists,
    Prod.mk.injEq]
  constructor
  · rintro ⟨_, found, hFound, _, hStep, rfl, rfl⟩
    exact ⟨found, hFound, hStep⟩
  · rintro ⟨found, hFound, hStep⟩
    exact ⟨name, found, hFound, step, hStep, rfl, rfl⟩

variable {config : Configuration}
variable {steps before after : List Text}
variable {step : Text}

/- Is a step defined? -/
def isDefined
    (config : Configuration)
    (step : Text) : Bool :=
  (config.step? step).isSome

/- The steps before the first one that is not defined. -/
def definedPart
    (config : Configuration)
    (steps : List Text) : List Text :=
  steps.takeWhile config.isDefined

/- The first one of some steps that is not defined. -/
def firstUndefined?
    (config : Configuration)
    (steps : List Text) : Option Text :=
  steps.find? fun step => !config.isDefined step

theorem isDefined_eq_false_iff :
    config.isDefined step = false ↔ config.step? step = none := by
  rw [isDefined, Option.isSome_eq_false_iff,
    Option.isNone_iff_eq_none]

/- Defined steps at the beginning belong to the defined part. -/
theorem definedPart_append
    (hBefore : ∀ earlier ∈ before, config.isDefined earlier = true)
    (steps : List Text) :
    config.definedPart (before ++ steps) =
      before ++ config.definedPart steps :=
  List.takeWhile_append_of_pos hBefore

/- The defined part ends where a step is not defined. -/
theorem definedPart_of_undefined
    (hBefore : ∀ earlier ∈ before, config.isDefined earlier = true)
    (hStep : config.isDefined step = false) :
    config.definedPart (before ++ step :: after) = before := by
  rw [definedPart_append hBefore, definedPart,
    List.takeWhile_cons_of_neg (by simp [hStep]),
    List.append_nil]

theorem firstUndefined?_of_undefined
    (hBefore : ∀ earlier ∈ before, config.isDefined earlier = true)
    (hStep : config.isDefined step = false) :
    config.firstUndefined? (before ++ step :: after) =
      some step := by
  have hNone :
      before.find? (fun step => !config.isDefined step) = none := by
    simpa using hBefore
  simp [firstUndefined?, hNone, hStep]

end Configuration

end Replay
