import Replay.Proofs.Action.Overrun
import Replay.Proofs.Configuration.Reference

/-
  This file proves when the two parts of a document are read
  as a configuration, and what the document is refused for.

  Key definitions include:
    * `Configuration.AreRead`
    * `Configuration.FirstRefused`
    * `Configuration.underTexts`
    * `Configuration.nameAll`

  Main results:
    * `Configuration.readEntries_eq_ok_iff`
    * `Configuration.readEntries_eq_error_iff`
    * `Configuration.textKeys_underTexts`
    * `Configuration.ofDocument_eq_ok_iff`
    * `Configuration.ofDocument_eq_error_iff`

  All steps are read before all scenarios, each in the order
  of the document, and the first record that is refused ends
  the reading.  The names are checked after all records.
-/

------------------------------------------------------------
-- Records
------------------------------------------------------------

namespace Replay

open Checked Outcome

namespace Configuration

section

variable {κ α : Type}
variable {read : κ → Document → Except Refusal α}
variable {records : List (κ × Document)}

/- Each record is read, and its value keeps its place. -/
def AreRead
    (read : κ → Document → Except Refusal α)
    (records : List (κ × Document))
    (values : List (κ × α)) : Prop :=
  List.Forall₂
    (fun record value =>
      value.1 = record.1 ∧
        read record.1 record.2 = .ok value.2)
    records values

/- All records before a record are read, and it is refused. -/
def FirstRefused
    (read : κ → Document → Except Refusal α)
    (records : List (κ × Document))
    (refusal : Refusal) : Prop :=
  ∃ before key d after values,
    records = before ++ (key, d) :: after ∧
    AreRead read before values ∧
    read key d = .error refusal

/- Records are read one by one. -/
theorem exists_areRead_iff :
    (∃ values, AreRead read records values) ↔
      ∀ record ∈ records,
        ∃ value, read record.1 record.2 = .ok value := by
  induction records with
  | nil =>
      simp [AreRead]
  | cons record rest ih =>
      rw [List.forall_mem_cons, ← ih]
      simp only [AreRead, List.forall₂_cons_left_iff]
      constructor
      · rintro ⟨_, value, more, hFirst, hMore, _⟩
        exact ⟨⟨value.2, hFirst.2⟩, more, hMore⟩
      · rintro ⟨⟨value, hFirst⟩, more, hMore⟩
        exact ⟨_, (record.1, value), more, ⟨rfl, hFirst⟩, hMore,
          rfl⟩

/- The values stand under the keys of the records. -/
theorem AreRead.keys_eq
    {values : List (κ × α)}
    (hRead : AreRead read records values) :
    values.map (·.1) = records.map (·.1) := by
  rw [eq_comm, ← List.forall₂_eq_eq_eq,
    List.forall₂_map_left_iff, List.forall₂_map_right_iff]
  exact hRead.imp fun _ _ hPair => hPair.1.symm

theorem not_firstRefused_nil
    (refusal : Refusal) :
    ¬FirstRefused read [] refusal := by
  rintro ⟨before, _, _, _, _, hSplit, _⟩
  cases before <;> cases hSplit

/-
  The first record is refused, or it is read and a later one
  is.
-/
theorem firstRefused_cons_iff
    {key : κ}
    {d : Document}
    {refusal : Refusal} :
    FirstRefused read ((key, d) :: records) refusal ↔
      read key d = .error refusal ∨
        ∃ value,
          read key d = .ok value ∧
            FirstRefused read records refusal := by
  constructor
  · rintro ⟨before, bad, dBad, after, values, hSplit, hBefore,
      hBad⟩
    cases hBefore with
    | nil =>
        cases hSplit
        exact Or.inl hBad
    | cons hFirst hMore =>
        cases hSplit
        exact Or.inr ⟨_, hFirst.2, _, bad, dBad, after, _, rfl,
          hMore, hBad⟩
  · rintro (hBad | ⟨value, hFirst, before, bad, dBad, after,
      values, rfl, hBefore, hBad⟩)
    · exact ⟨[], key, d, records, [], rfl, .nil, hBad⟩
    · exact ⟨(key, d) :: before, bad, dBad, after,
        (key, value) :: values, rfl, .cons ⟨rfl, hFirst⟩ hBefore,
        hBad⟩

end

------------------------------------------------------------
-- Entries
------------------------------------------------------------

section

variable {α : Type}
variable {read : Text → Document → Except Refusal α}
variable {entries : List (Scalar × Document)}

/- Entries are read if every record is. -/
theorem readEntries_eq_ok_iff
    {values : List (Scalar × α)} :
    readEntries read entries = .ok values ↔
      AreRead (read ∘ Scalar.shown) entries values := by
  induction entries generalizing values with
  | nil =>
      rw [AreRead, List.forall₂_nil_left_iff, readEntries,
        Except.ok.injEq, eq_comm]
  | cons entry rest ih =>
      rcases entry with ⟨key, d⟩
      rw [AreRead, List.forall₂_cons_left_iff, readEntries,
        bind_eq_ok_iff]
      constructor
      · rintro ⟨value, hFirst, hRest⟩
        rcases bind_eq_ok_iff.mp hRest with ⟨more, hMore, hDone⟩
        cases hDone
        exact ⟨(key, value), more, ⟨rfl, hFirst⟩, ih.mp hMore, rfl⟩
      · rintro ⟨⟨_, value⟩, more, ⟨rfl, hFirst⟩, hMore, rfl⟩
        exact ⟨value, hFirst,
          bind_eq_ok_iff.mpr ⟨more, ih.mpr hMore, rfl⟩⟩

/- They are refused for the first record that is. -/
theorem readEntries_eq_error_iff
    {refusal : Refusal} :
    readEntries read entries = .error refusal ↔
      FirstRefused (read ∘ Scalar.shown) entries refusal := by
  induction entries with
  | nil =>
      refine iff_of_false ?_ (not_firstRefused_nil refusal)
      intro hError
      cases hError
  | cons entry rest ih =>
      rcases entry with ⟨key, d⟩
      rw [firstRefused_cons_iff, ← ih, readEntries,
        bind_eq_error_iff]
      refine or_congr_right (exists_congr fun value => ?_)
      refine and_congr_right fun _ => ?_
      rw [bind_eq_error_iff]
      refine or_iff_left ?_
      rintro ⟨values, _, hDone⟩
      cases hDone

------------------------------------------------------------
-- Names
------------------------------------------------------------

/- Values under names that are texts. -/
def underTexts
    (values : List (Text × α)) : List (Scalar × α) :=
  values.map fun (name, value) => (.text name, value)

theorem areRead_underTexts_iff
    {records : List (Text × Document)}
    {values : List (Scalar × α)} :
    AreRead (read ∘ Scalar.shown) (underTexts records) values ↔
      ∃ found,
        values = underTexts found ∧ AreRead read records found := by
  induction records generalizing values with
  | nil =>
      simp [AreRead, underTexts]
  | cons record rest ih =>
      simp only [AreRead, underTexts, List.map_cons,
        List.forall₂_cons_left_iff] at ih ⊢
      simp only [ih]
      constructor
      · rintro ⟨⟨_, value⟩, _, ⟨rfl, hFirst⟩, ⟨found, rfl, hRest⟩,
          rfl⟩
        exact ⟨(record.1, value) :: found, rfl, (record.1, value),
          found, ⟨rfl, hFirst⟩, hRest, rfl⟩
      · rintro ⟨_, rfl, ⟨_, value⟩, found, ⟨rfl, hFirst⟩, hRest,
          rfl⟩
        exact ⟨(.text record.1, value), _, ⟨rfl, hFirst⟩,
          ⟨found, rfl, hRest⟩, rfl⟩

theorem firstRefused_underTexts_iff
    {records : List (Text × Document)}
    {refusal : Refusal} :
    FirstRefused (read ∘ Scalar.shown) (underTexts records)
        refusal ↔
      FirstRefused read records refusal := by
  induction records with
  | nil =>
      exact iff_of_false (not_firstRefused_nil refusal)
        (not_firstRefused_nil refusal)
  | cons record rest ih =>
      rw [firstRefused_cons_iff, ← ih]
      exact firstRefused_cons_iff

/- Distinct names stay as they are when they are checked. -/
theorem textKeys_underTexts
    {values : List (Text × α)}
    (hDistinct : (values.map (·.1)).Nodup) :
    textKeys Except.ok (underTexts values) = .ok values := by
  refine textKeys_eq_ok_iff.mpr
    ⟨values, ?_, foldl_put_of_nodup [] values hDistinct⟩
  rw [underTexts, List.forall₂_map_left_iff, List.forall₂_same]
  exact fun value _ => ⟨rfl, rfl⟩

end

------------------------------------------------------------
-- Parts
------------------------------------------------------------

/- The last check: the names of all that was read are texts. -/
def nameAll
    (steps : List (Scalar × Action))
    (scenarios : List (Scalar × Scenario)) :
    Checked
      (List (Text × Action) × List (Text × Scenario)) :=
  both (within "steps" (textKeys Except.ok steps))
    (within "scenarios" (textKeys Except.ok scenarios))

theorem nameAll_eq_ok_iff
    {steps : List (Scalar × Action)}
    {scenarios : List (Scalar × Scenario)}
    {config : Configuration} :
    nameAll steps scenarios =
        .ok (config.steps, config.scenarios) ↔
      textKeys Except.ok steps = .ok config.steps ∧
        textKeys Except.ok scenarios = .ok config.scenarios := by
  rw [nameAll, both_eq_ok_iff, within_eq_ok_iff,
    within_eq_ok_iff]

theorem nameAll_faultsOnly
    (steps : List (Scalar × Action))
    (scenarios : List (Scalar × Scenario)) :
    FaultsOnly (nameAll steps scenarios) :=
  ((textKeys_faultsOnly faultsOnly_ok _).within _).both
    ((textKeys_faultsOnly faultsOnly_ok _).within _)

section

variable {entries rawSteps rawScenarios : List (Scalar × Document)}

/- What is left to do where both parts are mappings. -/
theorem ofDocument_of_parts
    [Pattern.Engine]
    (hSteps : part (.mapping entries) "steps" = some rawSteps)
    (hScenarios :
      part (.mapping entries) "scenarios" = some rawScenarios) :
    ofDocument (.mapping entries) = (do
      let steps ← readEntries readStep rawSteps
      let scenarios ← readEntries readScenario rawScenarios
      match nameAll steps scenarios with
      | .ok (steps, scenarios) => return ⟨steps, scenarios⟩
      | .error rejection => throw (.rejected rejection)) := by
  simp only [ofDocument, hSteps, hScenarios]
  rfl

/-
  A document is read if all records are, and all keys are
  texts.
-/
theorem ofDocument_eq_ok_iff
    [Pattern.Engine]
    (hSteps : part (.mapping entries) "steps" = some rawSteps)
    (hScenarios :
      part (.mapping entries) "scenarios" = some rawScenarios)
    {config : Configuration} :
    ofDocument (.mapping entries) = .ok config ↔
      ∃ steps scenarios,
        AreRead (readStep ∘ Scalar.shown) rawSteps steps ∧
        AreRead (readScenario ∘ Scalar.shown) rawScenarios scenarios ∧
        textKeys Except.ok steps = .ok config.steps ∧
        textKeys Except.ok scenarios = .ok config.scenarios := by
  rw [ofDocument_of_parts hSteps hScenarios, bind_eq_ok_iff]
  constructor
  · rintro ⟨steps, hReadSteps, hRest⟩
    rcases bind_eq_ok_iff.mp hRest with
      ⟨scenarios, hReadScenarios, hNamed⟩
    refine ⟨steps, scenarios, readEntries_eq_ok_iff.mp hReadSteps,
      readEntries_eq_ok_iff.mp hReadScenarios,
      nameAll_eq_ok_iff.mp ?_⟩
    split at hNamed
    · rename_i hAll
      cases hNamed
      exact hAll
    · cases hNamed
  · rintro ⟨steps, scenarios, hReadSteps, hReadScenarios, hNames⟩
    refine ⟨steps, readEntries_eq_ok_iff.mpr hReadSteps,
      bind_eq_ok_iff.mpr ⟨scenarios,
        readEntries_eq_ok_iff.mpr hReadScenarios, ?_⟩⟩
    rw [nameAll_eq_ok_iff.mpr hNames]
    rfl

/-
  A document with two mappings is refused for its first step
  that is, or else for its first scenario that is, or else for
  names that are no texts.
-/
theorem ofDocument_eq_error_iff
    [Pattern.Engine]
    (hSteps : part (.mapping entries) "steps" = some rawSteps)
    (hScenarios :
      part (.mapping entries) "scenarios" = some rawScenarios)
    {refusal : Refusal} :
    ofDocument (.mapping entries) = .error refusal ↔
      FirstRefused (readStep ∘ Scalar.shown) rawSteps refusal ∨
      ∃ steps, AreRead (readStep ∘ Scalar.shown) rawSteps steps ∧
        (FirstRefused (readScenario ∘ Scalar.shown)
            rawScenarios refusal ∨
          ∃ scenarios faults,
            AreRead (readScenario ∘ Scalar.shown) rawScenarios
              scenarios ∧
            refusal = .rejected (.faults faults) ∧
            nameAll steps scenarios = .error (.faults faults)) := by
  rw [ofDocument_of_parts hSteps hScenarios, bind_eq_error_iff]
  simp only [bind_eq_error_iff, readEntries_eq_ok_iff,
    readEntries_eq_error_iff]
  refine or_congr_right (exists_congr fun steps => ?_)
  refine and_congr_right fun _ => or_congr_right ?_
  refine exists_congr fun scenarios => ?_
  constructor
  · rintro ⟨hRead, hNamed⟩
    split at hNamed
    · cases hNamed
    · rename_i rejection hAll
      cases hNamed
      rcases (nameAll_faultsOnly steps scenarios).exists_faults
          hAll with ⟨faults, rfl⟩
      exact ⟨faults, hRead, rfl, hAll⟩
  · rintro ⟨faults, hRead, rfl, hAll⟩
    refine ⟨hRead, ?_⟩
    rw [hAll]
    rfl

end

end Configuration

end Replay
