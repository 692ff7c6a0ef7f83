import Replay.Configuration
import Replay.Proofs.Json.Document

/-
  This file proves which values of JSON are read as actions.

  Key definitions include:
    * `FieldRule`
    * `KeepsRules`
    * `IsTagged`
    * `FormInput.IsInput`
    * `Action.assertions`
    * `Action.IsRecord`

  Main results:
    * `passes_tagged_iff`
    * `FormInput.passes_read_iff`
    * `Action.passes_read_iff`

  Every string of JSON is a text, with halves of surrogate
  pairs or without.  Only the names of fields and kinds have
  to be without them, for they are known ones.
-/

------------------------------------------------------------
-- Values
------------------------------------------------------------

namespace Replay

open Checked Outcome

namespace Document

/- A text. -/
def IsText (d : Document) : Prop :=
  ∃ s, d = .scalar (.text s)

/- A text that can be searched for as an expression. -/
def IsPattern
    [Pattern.Engine]
    (d : Document) : Prop :=
  ∃ s pattern,
    d = .scalar (.text s) ∧ Pattern.compile s = .ok pattern

/- Null, or what is wanted. -/
def OrNull
    (Accepts : Document → Prop)
    (d : Document) : Prop :=
  d = .scalar .null ∨ Accepts d

/- A list of what is wanted. -/
def IsListOf
    (Accepts : Document → Prop)
    (d : Document) : Prop :=
  ∃ items, d = .sequence items ∧ ∀ item ∈ items, Accepts item

end Document

open Document

/- In JSON only a text is taken for a text. -/
theorem asText_eq_ok_iff
    {d : Document}
    (hJson : d.IsJson)
    {s : Text} :
    asText d = .ok s ↔ d = .scalar (.text s) := by
  cases hJson with
  | @scalar value hValue =>
      cases value with
      | bytes data =>
          exact hValue.elim
      | _ => simp [asText, fail]
  | _ => simp [asText, fail]

theorem passes_asText_iff
    {d : Document}
    (hJson : d.IsJson) :
    Passes (asText d) ↔ d.IsText :=
  exists_congr fun _ => asText_eq_ok_iff hJson

theorem passes_optional_iff
    {α : Type}
    {check : Document → Checked α}
    {Accepts : Document → Prop}
    {d : Document}
    (hCheck : Passes (check d) ↔ Accepts d) :
    Passes (Checked.optional check d) ↔ OrNull Accepts d := by
  by_cases hNull : d = .scalar .null
  · subst hNull
    exact ⟨fun _ => Or.inl rfl, fun _ => ⟨none, rfl⟩⟩
  · have hOptional :
        Checked.optional check d = (check d).map some := by
      rw [Checked.optional]
      exact hNull
    rw [hOptional, passes_map_iff, hCheck, OrNull, or_iff_right hNull]

theorem passes_listOf_asText_iff
    {d : Document}
    (hJson : d.IsJson) :
    Passes (listOf asText d) ↔ IsListOf IsText d := by
  cases hJson with
  | scalar _ =>
      simp [listOf, items?, IsListOf]
  | mapping _ _ _ =>
      simp [listOf, items?, IsListOf]
  | @sequence items hItems =>
      have hEach :
          (∀ item ∈ items, Passes (asText item)) ↔
            ∀ item ∈ items, item.IsText :=
        forall₂_congr fun item hItem =>
          passes_asText_iff (hItems item hItem)
      simp only [listOf, items?, IsListOf,
        passes_all_itemsFrom_iff, hEach]
      simp

/- A pattern is a text that compiles. -/
theorem readPattern_eq_ok_iff
    [Pattern.Engine]
    {d : Document}
    (hJson : d.IsJson)
    {pattern : Pattern.Compiled} :
    Action.readPattern d = .ok pattern ↔
      ∃ s,
        d = .scalar (.text s) ∧
          Pattern.compile s = .ok pattern := by
  rw [Action.readPattern, bind_eq_ok_iff]
  refine exists_congr fun s => and_congr (asText_eq_ok_iff hJson) ?_
  cases Pattern.compile s with
  | ok found =>
      simp [pure, Except.pure]
  | error refusal =>
      cases refusal <;>
        simp [fail, throw, throwThe, MonadExceptOf.throw]

theorem passes_readPattern_iff
    [Pattern.Engine]
    {d : Document}
    (hJson : d.IsJson) :
    Passes (Action.readPattern d) ↔ d.IsPattern := by
  unfold Passes IsPattern
  simp only [readPattern_eq_ok_iff hJson]
  exact exists_comm

------------------------------------------------------------
-- Rules of Records
------------------------------------------------------------

/- What is said about one field of a record. -/
structure FieldRule where
  name : String
  isRequired : Bool
  Accepts : Document → Prop

namespace FieldRule

/- A field that must be there. -/
def needed
    (name : String)
    (Accepts : Document → Prop) : FieldRule :=
  ⟨name, true, Accepts⟩

/- A field that may be left out. -/
def free
    (name : String)
    (Accepts : Document → Prop) : FieldRule :=
  ⟨name, false, Accepts⟩

/- The field is there if it must be, and holds what it may. -/
structure KeptBy
    (rule : FieldRule)
    (entries : List (Scalar × Document)) : Prop where
  present :
    rule.isRequired = true →
      ∃ value, find? entries rule.name = some value
  valid :
    ∀ value,
      find? entries rule.name = some value → rule.Accepts value

end FieldRule

/- All rules are kept, and there are no other fields. -/
structure KeepsRules
    (tag : String)
    (rules : List FieldRule)
    (entries : List (Scalar × Document)) : Prop where
  noOthers :
    ∀ entry ∈ entries,
      ∃ name ∈ tag :: rules.map (·.name), entry.1 = .text name
  kept : ∀ rule ∈ rules, rule.KeptBy entries

/- A record that tells its kind and keeps the rules of it. -/
def IsTagged
    (tag : String)
    (kinds : List String)
    (rules : String → List FieldRule)
    (d : Document) : Prop :=
  ∃ entries, ∃ kind : String,
    d = .mapping entries ∧
    find? entries tag = some (.scalar (.text kind)) ∧
    kind ∈ kinds ∧
    KeepsRules tag (rules kind) entries

section

variable {α : Type}
variable {entries : List (Scalar × Document)}
variable {name : String}
variable {check : Document → Checked α}
variable {Accepts : Document → Prop}

/- A field that is needed passes if it is there and accepted. -/
theorem passes_required_iff
    (hCheck :
      ∀ value,
        find? entries name = some value →
          (Passes (check value) ↔ Accepts value)) :
    Passes (required entries name check) ↔
      (FieldRule.needed name Accepts).KeptBy entries := by
  constructor
  · rintro ⟨x, hOk⟩
    rcases required_eq_ok_iff.mp hOk with ⟨value, hFind, hValue⟩
    refine ⟨fun _ => ⟨value, hFind⟩, fun other hOther => ?_⟩
    cases hFind.symm.trans hOther
    exact (hCheck value hFind).mp ⟨x, hValue⟩
  · intro hKept
    rcases hKept.present rfl with ⟨value, hFind⟩
    rcases (hCheck value hFind).mpr (hKept.valid value hFind) with
      ⟨x, hValue⟩
    exact ⟨x, required_eq_ok_iff.mpr ⟨value, hFind, hValue⟩⟩

/- A free field passes if it is absent or accepted. -/
theorem passes_optionalField_iff
    {default : α}
    (hCheck :
      ∀ value,
        find? entries name = some value →
          (Passes (check value) ↔ Accepts value)) :
    Passes (optionalField entries name default check) ↔
      (FieldRule.free name Accepts).KeptBy entries := by
  constructor
  · rintro ⟨x, hOk⟩
    refine
      { present := fun hNeeded => absurd hNeeded Bool.false_ne_true
        valid := fun value hFind => ?_ }
    rcases optionalField_eq_ok_iff.mp hOk with
      ⟨hNone, _⟩ | ⟨other, hOther, hValue⟩
    · cases hFind.symm.trans hNone
    · cases hFind.symm.trans hOther
      exact (hCheck value hFind).mp ⟨x, hValue⟩
  · intro hKept
    cases hFind : find? entries name with
    | none =>
        exact ⟨default,
          optionalField_eq_ok_iff.mpr (Or.inl ⟨hFind, rfl⟩)⟩
    | some value =>
        rcases (hCheck value hFind).mpr (hKept.valid value hFind)
          with ⟨x, hValue⟩
        exact ⟨x, optionalField_eq_ok_iff.mpr
          (Or.inr ⟨value, hFind, hValue⟩)⟩

end

theorem keepsRules_iff
    (tag : String)
    (rules : List FieldRule)
    (entries : List (Scalar × Document)) :
    KeepsRules tag rules entries ↔
      (∀ rule ∈ rules, rule.KeptBy entries) ∧
        ∀ entry ∈ entries,
          ∃ name ∈ tag :: rules.map (·.name), entry.1 = .text name :=
  ⟨fun hKeeps => ⟨hKeeps.kept, hKeeps.noOthers⟩,
    fun ⟨hKept, hNoOthers⟩ => ⟨hNoOthers, hKept⟩⟩

/-
  Records are read if they tell their kind and keep the rules
  of it, provided that each kind checks its rules.
-/
theorem passes_tagged_iff
    {α : Type}
    {tag : String}
    {kinds : List String}
    {readKind : String → List (Scalar × Document) → Checked α}
    {rules : String → List FieldRule}
    {d : Document}
    (hKinds :
      ∀ kind ∈ kinds, ∀ entries,
        d = .mapping entries →
          (Passes (readKind kind entries) ↔
            KeepsRules tag (rules kind) entries)) :
    Passes (do
        let (kind, entries) ← tagged tag kinds d
        within kind (readKind kind entries)) ↔
      IsTagged tag kinds rules d := by
  constructor
  · rintro ⟨x, hRead⟩
    rcases bind_tagged_eq_ok_iff.mp hRead with
      ⟨entries, kind, hMapping, hTag, hKnown, hKind⟩
    exact ⟨entries, kind, hMapping, hTag, hKnown,
      (hKinds kind hKnown entries hMapping).mp ⟨x, hKind⟩⟩
  · rintro ⟨entries, kind, hMapping, hTag, hKnown, hKeeps⟩
    rcases (hKinds kind hKnown entries hMapping).mpr hKeeps with
      ⟨x, hKind⟩
    exact ⟨x, bind_tagged_eq_ok_iff.mpr
      ⟨entries, kind, hMapping, hTag, hKnown, hKind⟩⟩

------------------------------------------------------------
-- Grammar
------------------------------------------------------------

/- The fields of a kind of input. -/
def FormInput.rules : String → List FieldRule
  | "text" => [.needed "value" IsText]
  | "checkbox" => [.needed "checked" fun d => Passes (asBoolean d)]
  | "radio" => [.needed "value" IsText]
  | "select" => [.needed "value" IsText]
  | "file" => [.needed "files" (IsListOf IsText)]
  | _ => []

/- One input: a bare text, or a record of some kind. -/
def FormInput.IsInput (d : Document) : Prop :=
  IsText d ∨ IsTagged "type" kinds rules d

/- The data of a form: inputs under texts. -/
def Action.IsData (d : Document) : Prop :=
  ∃ entries,
    d = .mapping entries ∧
    ∀ entry ∈ entries,
      IsText (.scalar entry.1) ∧ FormInput.IsInput entry.2

/- The fields of a kind of action. -/
def Action.rules [Pattern.Engine] : String → List FieldRule
  | "goto-url" => [.needed "value" IsText]
  | "goto" => [.needed "xpath" IsText]
  | "submit" =>
    [.free "button" (OrNull IsText), .free "form" (OrNull IsText),
      .free "data" IsData]
  | "time-advance" =>
    [.needed "value" fun d => Passes (asInteger d)]
  | "assert-url" => [.needed "expected" IsPattern]
  | "assert-title" => [.needed "expected" IsPattern]
  | "assert-attribute" =>
    [.needed "expected" IsPattern, .needed "xpath" IsText,
      .needed "attribute" IsText]
  | "assert-text" =>
    [.needed "expected" IsPattern, .needed "xpath" IsText]
  | _ => []

/- The kinds of assertions. -/
def Action.assertions : List String :=
  ["assert-url", "assert-title", "assert-attribute", "assert-text"]

/- One action: a record of some kind. -/
def Action.IsRecord
    [Pattern.Engine]
    (d : Document) : Prop :=
  IsTagged "action" kinds rules d

namespace FormInput

theorem passes_readKind_iff
    {entries : List (Scalar × Document)}
    (hJson : IsJson (.mapping entries))
    {kind : String}
    (hKind : kind ∈ kinds) :
    Passes (readKind kind entries) ↔
      KeepsRules "type" (rules kind) entries := by
  have hText
      (name : String) :
      Passes (required entries name asText) ↔
        (FieldRule.needed name IsText).KeptBy entries :=
    passes_required_iff fun _ hFind =>
      passes_asText_iff (hJson.of_find? hFind)
  have hChecked :
      Passes (required entries "checked" asBoolean) ↔
        (FieldRule.needed "checked" fun d =>
          Passes (asBoolean d)).KeptBy entries :=
    passes_required_iff fun _ _ => Iff.rfl
  have hFiles :
      Passes (required entries "files" (listOf asText)) ↔
        (FieldRule.needed "files" (IsListOf IsText)).KeptBy
          entries :=
    passes_required_iff fun _ hFind =>
      passes_listOf_asText_iff (hJson.of_find? hFind)
  -- the last kind is the one that is left
  have hLast :
      readKind "file" entries =
        closed entries ["type", "files"]
          ((required entries "files" (listOf asText)).map
            .file) := rfl
  simp only [kinds, List.mem_cons, List.not_mem_nil, or_false]
    at hKind
  rcases hKind with rfl | rfl | rfl | rfl | rfl
  case inr.inr.inr.inr =>
    simp only [hLast, rules, keepsRules_iff,
      passes_closed_iff, passes_map_iff, hFiles,
      List.forall_mem_singleton]
    rfl
  all_goals
    simp only [readKind, rules, keepsRules_iff,
      passes_closed_iff, passes_map_iff, hText, hChecked,
      List.forall_mem_singleton]
    rfl

/- Whatever is no text has to be a record. -/
theorem read_of_not_isText
    {d : Document}
    (hBare : ¬d.IsText) :
    read d = (do
      let (kind, entries) ← tagged "type" kinds d
      within kind (readKind kind entries)) := by
  unfold read
  split
  · rename_i s
    exact absurd ⟨s, rfl⟩ hBare
  · rfl

/- A value is read as an input if it is one. -/
theorem passes_read_iff
    {d : Document}
    (hJson : d.IsJson) :
    Passes (read d) ↔ IsInput d := by
  by_cases hBare : d.IsText
  · rcases hBare with ⟨s, rfl⟩
    exact ⟨fun _ => Or.inl ⟨s, rfl⟩, fun _ => ⟨.text s, rfl⟩⟩
  · rw [read_of_not_isText hBare, IsInput, or_iff_right hBare]
    exact passes_tagged_iff fun kind hKind entries hMapping =>
      passes_readKind_iff (hMapping ▸ hJson) hKind

end FormInput

------------------------------------------------------------
-- Accepted Actions
------------------------------------------------------------

namespace Action

theorem assertions_subset_kinds : assertions ⊆ kinds :=
  (List.suffix_append
    ["goto-url", "goto", "submit", "time-advance"] assertions).subset

/- The data of a form passes if every entry is an input. -/
theorem passes_readData_iff
    {d : Document}
    (hJson : d.IsJson) :
    Passes (readData d) ↔ IsData d := by
  cases hJson with
  | scalar _ =>
      simp [readData, mappingOf, IsData]
  | sequence _ =>
      simp [readData, mappingOf, IsData]
  | @mapping entries hKeys _ hValues =>
      have hEach :
          (∀ entry ∈ entries,
            Passes (asText (.scalar entry.1)) ∧
              Passes (FormInput.read entry.2)) ↔
            ∀ entry ∈ entries,
              IsText (.scalar entry.1) ∧
                FormInput.IsInput entry.2 :=
        forall₂_congr fun entry hEntry =>
          and_congr
            (passes_asText_iff
              (.scalar (hKeys entry hEntry).isJson))
            (FormInput.passes_read_iff (hValues entry hEntry))
      rw [readData, mappingOf, passes_textKeys_iff, hEach, IsData]
      simp

theorem passes_readKind_iff
    [Pattern.Engine]
    {entries : List (Scalar × Document)}
    (hJson : IsJson (.mapping entries))
    {kind : String}
    (hKind : kind ∈ kinds) :
    Passes (readKind kind entries) ↔
      KeepsRules "action" (rules kind) entries := by
  have hText
      (name : String) :
      Passes (required entries name asText) ↔
        (FieldRule.needed name IsText).KeptBy entries :=
    passes_required_iff fun _ hFind =>
      passes_asText_iff (hJson.of_find? hFind)
  have hOptional
      (name : String) :
      Passes (optionalField entries name none
          (Checked.optional asText)) ↔
        (FieldRule.free name (OrNull IsText)).KeptBy entries :=
    passes_optionalField_iff fun _ hFind =>
      passes_optional_iff (passes_asText_iff (hJson.of_find? hFind))
  have hData :
      Passes (optionalField entries "data" [] readData) ↔
        (FieldRule.free "data" (IsData)).KeptBy entries :=
    passes_optionalField_iff fun _ hFind =>
      passes_readData_iff (hJson.of_find? hFind)
  have hDelta :
      Passes (required entries "value" asInteger) ↔
        (FieldRule.needed "value" fun d =>
          Passes (asInteger d)).KeptBy entries :=
    passes_required_iff fun _ _ => Iff.rfl
  have hExpected :
      Passes (expected entries) ↔
        (FieldRule.needed "expected" IsPattern).KeptBy entries :=
    passes_required_iff fun _ hFind =>
      passes_readPattern_iff (hJson.of_find? hFind)
  -- the last kind is the one that is left
  have hLast :
      readKind "assert-text" entries =
        closed entries ["action", "expected", "xpath"]
          ((both (expected entries)
            (required entries "xpath" asText)).map
              fun pair => .assertText pair.1 pair.2) := rfl
  simp only [kinds, List.mem_cons, List.not_mem_nil, or_false]
    at hKind
  rcases hKind with rfl | rfl | rfl | rfl | rfl | rfl | rfl | rfl
  case inr.inr.inr.inr.inr.inr.inr =>
    simp only [hLast, rules, keepsRules_iff,
      passes_closed_iff, passes_map_iff, passes_both_iff,
      hExpected, hText, List.forall_mem_cons, List.not_mem_nil,
      false_implies, implies_true, and_true]
    rfl
  all_goals
    simp only [readKind, rules, keepsRules_iff,
      passes_closed_iff, passes_map_iff, passes_both_iff,
      hText, hOptional, hData, hDelta, hExpected,
      List.forall_mem_cons, List.not_mem_nil, false_implies,
      implies_true, and_true]
    rfl

/- A value is read as an action if it is a record of one. -/
theorem passes_read_iff
    [Pattern.Engine]
    {d : Document}
    (hJson : d.IsJson) :
    Passes (read d) ↔ IsRecord d :=
  passes_tagged_iff fun _ hKind _ hMapping =>
    passes_readKind_iff (hMapping ▸ hJson) hKind

end Action

end Replay
