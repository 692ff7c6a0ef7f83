import Replay.Proofs.Configuration.Reading

/-
  This file proves that a configuration holds all records of
  its document under their names and in their order, and that
  the first record that is refused is the reason for what is
  refused.

  Key definitions include:
    * `Document.HasNames`
    * `Document.HasRecords`

  Main results:
    * `Scenario.read_eq_ok_iff`
    * `Configuration.part_eq_some_of_records`
    * `Configuration.ofDocument_of_records`
-/

------------------------------------------------------------
-- What Documents Hold
------------------------------------------------------------

namespace Replay

open Checked Outcome

namespace Document

/- A field lists texts, or is left out. -/
def HasNames
    (d : Document)
    (field : String)
    (names : List Text) : Prop :=
  (d.field? field = none ∧ names = []) ∨
    d.field? field =
      some (.sequence (names.map fun name => .scalar (.text name)))

/- A part holds records under names, or is left out. -/
def HasRecords
    (d : Document)
    (part : String)
    (records : List (Text × Document)) : Prop :=
  (d.field? part = none ∧ records = []) ∨
    d.field? part =
      some (.mapping (Configuration.underTexts records))

end Document

open Document

------------------------------------------------------------
-- Scenarios
------------------------------------------------------------

theorem listOf_asText_eq_ok_iff
    {d : Document}
    (hJson : d.IsJson)
    {names : List Text} :
    listOf asText d = .ok names ↔
      d = .sequence (names.map fun name =>
        .scalar (.text name)) := by
  constructor
  · exact eq_sequence_of_listOf hJson
  · rintro rfl
    refine listOf_eq_ok_iff.mpr ⟨_, rfl, ?_⟩
    rw [List.forall₂_map_left_iff, List.forall₂_same]
    exact fun name _ => rfl

section

variable {entries : List (Scalar × Document)}

theorem optionalField_names_eq_ok_iff
    (hJson : IsJson (.mapping entries))
    {field : String}
    {names : List Text} :
    optionalField entries field [] (listOf asText) = .ok names ↔
      HasNames (.mapping entries) field names := by
  rw [optionalField_eq_ok_iff]
  refine or_congr_right ?_
  constructor
  · rintro ⟨value, hFind, hList⟩
    rw [listOf_asText_eq_ok_iff (hJson.of_find? hFind)] at hList
    rwa [field?, ← hList]
  · intro hFind
    exact ⟨_, hFind,
      (listOf_asText_eq_ok_iff (hJson.of_find? hFind)).mpr rfl⟩

theorem optionalField_text_eq_ok_iff
    (hJson : IsJson (.mapping entries))
    {field : String}
    {found : Option Text} :
    optionalField entries field none (Checked.optional asText) =
        .ok found ↔
      HasOptionalText (.mapping entries) field found := by
  constructor
  · exact hasOptionalText_of_optionalField hJson
  · intro hText
    rw [optionalField_eq_ok_iff]
    cases found with
    | none =>
        rcases hText with hNone | hNull
        · exact Or.inl ⟨hNone, rfl⟩
        · exact Or.inr ⟨_, hNull, rfl⟩
    | some s =>
        exact Or.inr ⟨_, hText, rfl⟩

end

/-
  A record is a scenario exactly if it lists texts for steps
  and has a text before it, or null, or leaves these out.  No
  text is refused, and nothing else is looked at.
-/
theorem Scenario.read_eq_ok_iff
    {d : Document}
    (hJson : d.IsJson)
    {scenario : Scenario} :
    Scenario.read d = .ok scenario ↔
      (∃ entries, d = .mapping entries) ∧
      d.HasNames "steps" scenario.steps ∧
      d.HasOptionalText "prev" scenario.prev := by
  cases d with
  | mapping entries =>
      rw [Scenario.read]
      dsimp only
      rw [map_eq_ok_iff,
        ← optionalField_names_eq_ok_iff hJson,
        ← optionalField_text_eq_ok_iff hJson]
      constructor
      · rintro ⟨pair, hBoth, rfl⟩
        exact ⟨⟨entries, rfl⟩, both_eq_ok_iff.mp hBoth⟩
      · rintro ⟨_, hFields⟩
        exact ⟨(scenario.steps, scenario.prev),
          both_eq_ok_iff.mpr hFields, rfl⟩
  | _ => simp [Scenario.read, fail]

theorem Scenario.read_faultsOnly
    (d : Document) :
    FaultsOnly (Scenario.read d) := by
  unfold Scenario.read
  split
  · exact ((optionalField_faultsOnly
      (listOf_faultsOnly asText_faultsOnly) _).both
        (optionalField_faultsOnly
          (optional_faultsOnly asText_faultsOnly) _)).map _
  · exact faultsOnly_fail _

namespace Configuration

/- A scenario is read as its record is. -/
theorem readScenario_eq_ok_iff
    {name : Text}
    {d : Document}
    {scenario : Scenario} :
    readScenario name d = .ok scenario ↔
      Scenario.read d = .ok scenario := by
  rw [readScenario]
  rcases Scenario.read d with (_ | _) | _ <;> simp

/- A scenario that is refused is named, with all its faults. -/
theorem readScenario_eq_error_iff
    {name : Text}
    {d : Document}
    {refusal : Refusal} :
    readScenario name d = .error refusal ↔
      ∃ faults,
        Scenario.read d = .error (.faults faults) ∧
          refusal = .malformed (.scenario name faults) := by
  rw [readScenario]
  rcases hRead : Scenario.read d with (faults | cause) | scenario
  · simp [eq_comm]
  · exact absurd hRead (Scenario.read_faultsOnly d cause)
  · simp

------------------------------------------------------------
-- Configurations
------------------------------------------------------------

section

variable {entries : List (Scalar × Document)}

/- A part that holds records is found with them. -/
theorem part_eq_some_of_records
    {name : String}
    {records : List (Text × Document)}
    (hRecords : HasRecords (.mapping entries) name records) :
    part (.mapping entries) name = some (underTexts records) := by
  rcases hRecords with ⟨hNone, rfl⟩ | hFind
  · simp only [part, hNone]
    rfl
  · simp only [part, hFind]
    split
    · rename_i hEmpty
      rw [List.isEmpty_iff.mp hEmpty]
    · rfl

/- The names of the records of a part are distinct. -/
theorem nodup_of_records
    (hJson : IsJson (.mapping entries))
    {name : String}
    {records : List (Text × Document)}
    (hRecords : HasRecords (.mapping entries) name records) :
    (records.map (·.1)).Nodup := by
  rcases hRecords with ⟨_, rfl⟩ | hFind
  · exact List.nodup_nil
  · have hPart := (isJson_mapping_iff _).mp (hJson.of_find? hFind)
    refine List.Nodup.of_map Scalar.text ?_
    rw [List.map_map]
    simpa [underTexts, Function.comp_def] using hPart.2.1

/- Each value that is read keeps the name of its record. -/
theorem textKeys_of_records
    {α : Type}
    {read : Text → Document → Except Refusal α}
    (hJson : IsJson (.mapping entries))
    {name : String}
    {records : List (Text × Document)}
    (hRecords : HasRecords (.mapping entries) name records)
    {values : List (Text × α)}
    (hRead : AreRead read records values) :
    textKeys Except.ok (underTexts values) = .ok values :=
  textKeys_underTexts
    (hRead.keys_eq ▸ nodup_of_records hJson hRecords)

variable {steps scenarios : List (Text × Document)}

theorem ofDocument_eq_ok_iff_of_records
    [Pattern.Engine]
    (hJson : IsJson (.mapping entries))
    (hSteps : HasRecords (.mapping entries) "steps" steps)
    (hScenarios :
      HasRecords (.mapping entries) "scenarios" scenarios)
    {config : Configuration} :
    ofDocument (.mapping entries) = .ok config ↔
      AreRead readStep steps config.steps ∧
        AreRead readScenario scenarios config.scenarios := by
  rw [ofDocument_eq_ok_iff (part_eq_some_of_records hSteps)
    (part_eq_some_of_records hScenarios)]
  simp only [areRead_underTexts_iff]
  constructor
  · rintro ⟨_, _, ⟨actions, rfl, hActions⟩,
      ⟨found, rfl, hFound⟩, hNames⟩
    rw [textKeys_of_records hJson hSteps hActions,
      textKeys_of_records hJson hScenarios hFound] at hNames
    cases hNames.1
    cases hNames.2
    exact ⟨hActions, hFound⟩
  · rintro ⟨hActions, hFound⟩
    exact ⟨_, _, ⟨_, rfl, hActions⟩, ⟨_, rfl, hFound⟩,
      textKeys_of_records hJson hSteps hActions,
      textKeys_of_records hJson hScenarios hFound⟩

theorem ofDocument_eq_error_iff_of_records
    [Pattern.Engine]
    (hJson : IsJson (.mapping entries))
    (hSteps : HasRecords (.mapping entries) "steps" steps)
    (hScenarios :
      HasRecords (.mapping entries) "scenarios" scenarios)
    {refusal : Refusal} :
    ofDocument (.mapping entries) = .error refusal ↔
      FirstRefused readStep steps refusal ∨
        (∃ actions, AreRead readStep steps actions) ∧
          FirstRefused readScenario scenarios refusal := by
  rw [ofDocument_eq_error_iff (part_eq_some_of_records hSteps)
    (part_eq_some_of_records hScenarios)]
  simp only [areRead_underTexts_iff, firstRefused_underTexts_iff]
  refine or_congr_right ?_
  constructor
  · rintro ⟨_, ⟨actions, rfl, hActions⟩, hRefused | hNames⟩
    · exact ⟨⟨actions, hActions⟩, hRefused⟩
    · rcases hNames with ⟨_, _, ⟨found, rfl, hFound⟩, _, hNames⟩
      rw [nameAll, textKeys_of_records hJson hSteps hActions,
        textKeys_of_records hJson hScenarios hFound] at hNames
      cases hNames
  · rintro ⟨⟨actions, hActions⟩, hRefused⟩
    exact ⟨_, ⟨actions, rfl, hActions⟩, Or.inl hRefused⟩

/- Is every record of a part read? -/
def AllRead
    {α : Type}
    (read : Text → Document → Except Refusal α)
    (records : List (Text × Document)) : Prop :=
  ∀ record ∈ records, ∃ value, read record.1 record.2 = .ok value

/- A document is accepted exactly if all its records are. -/
theorem accepted_iff_of_records
    [Pattern.Engine]
    (hJson : IsJson (.mapping entries))
    (hSteps : HasRecords (.mapping entries) "steps" steps)
    (hScenarios :
      HasRecords (.mapping entries) "scenarios" scenarios) :
    (∃ config, ofDocument (.mapping entries) = .ok config) ↔
      AllRead readStep steps ∧ AllRead readScenario scenarios := by
  simp only [AllRead, ← exists_areRead_iff,
    ofDocument_eq_ok_iff_of_records hJson hSteps hScenarios]
  constructor
  · rintro ⟨config, hActions, hFound⟩
    exact ⟨⟨_, hActions⟩, ⟨_, hFound⟩⟩
  · rintro ⟨⟨actions, hActions⟩, ⟨found, hFound⟩⟩
    exact ⟨⟨actions, found⟩, hActions, hFound⟩

/- Each scenario is read as the list that its record holds. -/
theorem hasNames_of_areRead
    (hValues : ∀ record ∈ scenarios, record.2.IsJson)
    {found : List (Text × Scenario)}
    (hRead : AreRead readScenario scenarios found) :
    List.Forall₂
      (fun record scenario =>
        scenario.1 = record.1 ∧
        Scenario.read record.2 = .ok scenario.2 ∧
        record.2.HasNames "steps" scenario.2.steps)
      scenarios found := by
  induction hRead with
  | nil =>
      exact .nil
  | cons hFirst _ ih =>
      rw [List.forall_mem_cons] at hValues
      have hScenario := readScenario_eq_ok_iff.mp hFirst.2
      have hFields :=
        (Scenario.read_eq_ok_iff hValues.1).mp hScenario
      exact .cons ⟨hFirst.1, hScenario, hFields.2.1⟩
        (ih hValues.2)

theorem isJson_of_records
    (hJson : IsJson (.mapping entries))
    {name : String}
    {records : List (Text × Document)}
    (hRecords : HasRecords (.mapping entries) name records) :
    ∀ record ∈ records, record.2.IsJson := by
  intro record hRecord
  rcases hRecords with ⟨_, rfl⟩ | hFind
  · cases hRecord
  · have hPart := (isJson_mapping_iff _).mp (hJson.of_find? hFind)
    exact hPart.2.2 (.text record.1, record.2)
      (List.mem_map_of_mem hRecord)

/-
  A document of JSON whose parts hold records under texts is
  read exactly if every record is.  The configuration has the
  names of the document in their order, each with what its
  record is read as, and each scenario the steps that its
  record lists.  It is refused otherwise, for the first step
  that is, used or not, or else for the first scenario that
  is, which is named.  Which steps are defined makes no
  difference to that.
-/
theorem ofDocument_of_records
    [Pattern.Engine]
    (hJson : IsJson (.mapping entries))
    (hSteps : HasRecords (.mapping entries) "steps" steps)
    (hScenarios :
      HasRecords (.mapping entries) "scenarios" scenarios) :
    ((∃ config, ofDocument (.mapping entries) = .ok config) ↔
      AllRead readStep steps ∧
        ∀ record ∈ scenarios,
          ∃ scenario, Scenario.read record.2 = .ok scenario) ∧
    (∀ config,
      ofDocument (.mapping entries) = .ok config →
        AreRead readStep steps config.steps ∧
        List.Forall₂
          (fun record scenario =>
            scenario.1 = record.1 ∧
            Scenario.read record.2 = .ok scenario.2 ∧
            record.2.HasNames "steps" scenario.2.steps)
          scenarios config.scenarios) ∧
    (∀ refusal,
      ofDocument (.mapping entries) = .error refusal ↔
        FirstRefused readStep steps refusal ∨
        AllRead readStep steps ∧
          ∃ before name record after faults,
            scenarios = before ++ (name, record) :: after ∧
            AllRead readScenario before ∧
            Scenario.read record = .error (.faults faults) ∧
            refusal = .malformed (.scenario name faults)) ∧
    (∀ record ∈ scenarios, ∀ scenario,
      Scenario.read record.2 = .ok scenario ↔
        (∃ fields, record.2 = .mapping fields) ∧
        record.2.HasNames "steps" scenario.steps ∧
        record.2.HasOptionalText "prev" scenario.prev) ∧
    ∀ otherEntries otherSteps,
      IsJson (.mapping otherEntries) →
      HasRecords (.mapping otherEntries) "steps" otherSteps →
      HasRecords (.mapping otherEntries) "scenarios" scenarios →
      AllRead readStep steps →
      AllRead readStep otherSteps →
        ((∃ config, ofDocument (.mapping entries) = .ok config) ↔
          ∃ config,
            ofDocument (.mapping otherEntries) = .ok config) := by
  have hValues := isJson_of_records hJson hScenarios
  refine ⟨?accepted, ?held, ?refused, ?grammar, ?independent⟩
  case accepted =>
    rw [accepted_iff_of_records hJson hSteps hScenarios]
    simp only [AllRead, readScenario_eq_ok_iff]
  case held =>
    intro config hConfig
    rcases (ofDocument_eq_ok_iff_of_records hJson hSteps
        hScenarios).mp hConfig with ⟨hActions, hFound⟩
    exact ⟨hActions, hasNames_of_areRead hValues hFound⟩
  case refused =>
    intro refusal
    rw [ofDocument_eq_error_iff_of_records hJson hSteps hScenarios,
      exists_areRead_iff]
    refine or_congr_right (and_congr_right fun _ => ?_)
    simp only [FirstRefused, readScenario_eq_error_iff, AllRead,
      ← exists_areRead_iff]
    constructor
    · rintro ⟨before, name, record, after, found, hSplit, hBefore,
        faults, hRecord⟩
      exact ⟨before, name, record, after, faults, hSplit,
        ⟨found, hBefore⟩, hRecord⟩
    · rintro ⟨before, name, record, after, faults, hSplit,
        ⟨found, hBefore⟩, hRecord⟩
      exact ⟨before, name, record, after, found, hSplit, hBefore,
        faults, hRecord⟩
  case grammar =>
    exact fun record hRecord _ =>
      Scenario.read_eq_ok_iff (hValues record hRecord)
  case independent =>
    intro otherEntries otherSteps hOther hOtherSteps
      hOtherScenarios hRead hOtherRead
    rw [accepted_iff_of_records hJson hSteps hScenarios,
      accepted_iff_of_records hOther hOtherSteps hOtherScenarios,
      and_iff_right hRead, and_iff_right hOtherRead]

end

/- Two steps, in an order of their own. -/
def detourSteps : List (Text × Document) :=
  [("home", .mapping
      [(.text "action", .scalar (.text "goto-url")),
        (.text "value", .scalar (.text "http://home/"))]),
    ("back", .mapping
      [(.text "action", .scalar (.text "goto")),
        (.text "xpath", .scalar (.text "//a"))])]

/- One scenario repeats a step and names one without record. -/
def detourScenarios : List (Text × Document) :=
  [("tour", .mapping
      [(.text "steps", .sequence
        (["back", "home", "back", "ghost"].map fun name =>
          .scalar (.text name)))]),
    ("start", .mapping [])]

def detourEntries : List (Scalar × Document) :=
  [(.text "scenarios", .mapping (underTexts detourScenarios)),
    (.text "steps", .mapping (underTexts detourSteps))]

/- The scenarios as they are found, in the same order. -/
def detourFound : List (Text × Scenario) :=
  [("tour", ⟨["back", "home", "back", "ghost"], none⟩),
    ("start", ⟨[], none⟩)]

theorem ofDocument_of_records_of_detour :
    IsJson (.mapping detourEntries) ∧
      HasRecords (.mapping detourEntries) "steps" detourSteps ∧
      HasRecords (.mapping detourEntries) "scenarios"
        detourScenarios ∧
      ∃ config,
        ofDocument (.mapping detourEntries) = .ok config ∧
        AreRead readStep detourSteps config.steps ∧
        config.scenarios = detourFound := by
  have hJson : IsJson (.mapping detourEntries) := by
    simp [detourEntries, detourSteps, detourScenarios, underTexts,
      Scalar.IsKey, Scalar.IsJson]
  have hSteps :
      HasRecords (.mapping detourEntries) "steps" detourSteps :=
    Or.inr rfl
  have hScenarios :
      HasRecords (.mapping detourEntries) "scenarios"
        detourScenarios :=
    Or.inr rfl
  have hSeen :
      (ofDocument (.mapping detourEntries)).map (·.scenarios) =
        .ok detourFound := by
    decide +kernel
  rcases map_eq_ok_iff.mp hSeen with ⟨config, hConfig, hFound⟩
  have hHeld :=
    (ofDocument_of_records hJson hSteps hScenarios).2.1 config
      hConfig
  exact ⟨hJson, hSteps, hScenarios, config, hConfig, hHeld.1,
    hFound⟩

end Configuration

end Replay
