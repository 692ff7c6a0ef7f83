import Replay.Proofs.Action.Grammar

/-
  This file proves that actions hold what their records say.

  Key definitions include:
    * `Document.HasText`
    * `Document.HasConverted`
    * `FormInput.HeldBy`
    * `Action.HeldBy`

  Main results:
    * `FormInput.heldBy_of_read`
    * `Action.heldBy_of_read`
    * `Configuration.readStep_grammar`
-/

------------------------------------------------------------
-- What Records Say
------------------------------------------------------------

namespace Replay

open Checked Outcome

namespace Document

/- A field holds a text. -/
def HasText
    (d : Document)
    (name : String)
    (s : Text) : Prop :=
  d.field? name = some (.scalar (.text s))

/- A field holds a text, or null, or is left out. -/
def HasOptionalText
    (d : Document)
    (name : String) : Option Text → Prop
  | some s => d.HasText name s
  | none =>
    d.field? name = none ∨
      d.field? name = some (.scalar .null)

/- A field holds something that is converted to a value. -/
def HasConverted
    {α : Type}
    (d : Document)
    (name : String)
    (convert : Document → Checked α)
    (x : α) : Prop :=
  ∃ value, d.field? name = some value ∧ convert value = .ok x

/- What is expected is a text that a pattern is made of. -/
def HasPattern
    [Pattern.Engine]
    (d : Document)
    (pattern : Pattern.Compiled) : Prop :=
  ∃ s,
    d.HasText "expected" s ∧ Pattern.compile s = .ok pattern

end Document

open Document

/- The input that a bare text or a record stands for. -/
def FormInput.HeldBy
    (d : Document) : FormInput → Prop
  | text s =>
    d = .scalar (.text s) ∨
      d.HasText "type" "text" ∧ d.HasText "value" s
  | checkbox checked =>
    d.HasText "type" "checkbox" ∧
      d.HasConverted "checked" asBoolean checked
  | radio s => d.HasText "type" "radio" ∧ d.HasText "value" s
  | select s => d.HasText "type" "select" ∧ d.HasText "value" s
  | file files =>
    d.HasText "type" "file" ∧
      d.field? "files" =
        some (.sequence (files.map fun s => .scalar (.text s)))

namespace Action

/- Inputs under their names, in the order of the record. -/
def HasData
    (d : Document)
    (data : List (Text × FormInput)) : Prop :=
  (d.field? "data" = none ∧ data = []) ∨
    ∃ entries,
      d.field? "data" = some (.mapping entries) ∧
      List.Forall₂
        (fun (entry : Scalar × Document)
            (field : Text × FormInput) =>
          entry.1 = .text field.1 ∧ field.2.HeldBy entry.2)
        entries data

/- The action that a record stands for. -/
def HeldBy
    [Pattern.Engine]
    (d : Document) : Action → Prop
  | visit url => d.HasText "value" url
  | click xpath => d.HasText "xpath" xpath
  | submit button form data =>
    d.HasOptionalText "button" button ∧
      d.HasOptionalText "form" form ∧ HasData d data
  | advance delta => d.HasConverted "value" asInteger delta
  | assertUrl expected => d.HasPattern expected
  | assertTitle expected => d.HasPattern expected
  | assertAttribute expected xpath name =>
    d.HasPattern expected ∧
      d.HasText "xpath" xpath ∧ d.HasText "attribute" name
  | assertText expected xpath =>
    d.HasPattern expected ∧ d.HasText "xpath" xpath

end Action

------------------------------------------------------------
-- Fields
------------------------------------------------------------

section

variable {entries : List (Scalar × Document)}
variable {name : String}

theorem hasText_of_required
    (hJson : IsJson (.mapping entries))
    {s : Text}
    (hField : required entries name asText = .ok s) :
    HasText (.mapping entries) name s := by
  rcases required_eq_ok_iff.mp hField with ⟨value, hFind, hValue⟩
  rw [asText_eq_ok_iff (hJson.of_find? hFind)] at hValue
  rwa [HasText, field?, ← hValue]

theorem hasConverted_of_required
    {α : Type}
    {convert : Document → Checked α}
    {x : α}
    (hField : required entries name convert = .ok x) :
    HasConverted (.mapping entries) name convert x :=
  required_eq_ok_iff.mp hField

theorem hasPattern_of_expected
    [Pattern.Engine]
    (hJson : IsJson (.mapping entries))
    {pattern : Pattern.Compiled}
    (hField : Action.expected entries = .ok pattern) :
    HasPattern (.mapping entries) pattern := by
  rcases required_eq_ok_iff.mp hField with ⟨value, hFind, hValue⟩
  rcases (readPattern_eq_ok_iff (hJson.of_find? hFind)).mp hValue
    with ⟨s, rfl, hCompile⟩
  exact ⟨s, hFind, hCompile⟩

theorem hasOptionalText_of_optionalField
    (hJson : IsJson (.mapping entries))
    {found : Option Text}
    (hField :
      optionalField entries name none (Checked.optional asText) =
        .ok found) :
    HasOptionalText (.mapping entries) name found := by
  rcases optionalField_eq_ok_iff.mp hField with
    ⟨hNone, rfl⟩ | ⟨value, hFind, hValue⟩
  · exact Or.inl hNone
  · by_cases hNull : value = .scalar .null
    · subst hNull
      cases hValue
      exact Or.inr hFind
    · rcases (optional_eq_ok_iff hNull).mp hValue with
        ⟨s, hText, rfl⟩
      rw [asText_eq_ok_iff (hJson.of_find? hFind)] at hText
      exact hFind.trans (congrArg some hText)

end

/- A list of texts is read as those texts. -/
theorem eq_sequence_of_listOf
    {d : Document}
    (hJson : d.IsJson)
    {files : List Text}
    (hList : listOf asText d = .ok files) :
    d = .sequence (files.map fun s => .scalar (.text s)) := by
  rcases listOf_eq_ok_iff.mp hList with ⟨items, hItems, hEach⟩
  clear hList
  cases hJson with
  | scalar _ =>
      cases hItems
  | mapping _ _ _ =>
      cases hItems
  | sequence hJsonItems =>
      cases hItems
      refine congrArg Document.sequence ?_
      induction hEach with
      | nil =>
          rfl
      | cons hFirst _ ih =>
          rw [List.forall_mem_cons] at hJsonItems
          rw [asText_eq_ok_iff hJsonItems.1] at hFirst
          rw [List.map_cons, ← ih hJsonItems.2, hFirst]

------------------------------------------------------------
-- Inputs
------------------------------------------------------------

namespace FormInput

theorem heldBy_of_readKind
    {entries : List (Scalar × Document)}
    (hJson : IsJson (.mapping entries))
    {kind : String}
    (hTag : HasText (.mapping entries) "type" kind)
    (hKnown : kind ∈ kinds)
    {input : FormInput}
    (hRead : readKind kind entries = .ok input) :
    input.HeldBy (.mapping entries) := by
  simp only [kinds, List.mem_cons, List.not_mem_nil, or_false]
    at hKnown
  rcases hKnown with rfl | rfl | rfl | rfl | rfl
  all_goals
    rcases map_eq_ok_iff.mp (closed_eq_ok_iff.mp hRead).1 with
      ⟨x, hField, rfl⟩
  · exact Or.inr ⟨hTag, hasText_of_required hJson hField⟩
  · exact ⟨hTag, hasConverted_of_required hField⟩
  · exact ⟨hTag, hasText_of_required hJson hField⟩
  · exact ⟨hTag, hasText_of_required hJson hField⟩
  · rcases required_eq_ok_iff.mp hField with
      ⟨value, hFind, hFiles⟩
    refine ⟨hTag, hFind.trans (congrArg some ?_)⟩
    exact eq_sequence_of_listOf (hJson.of_find? hFind) hFiles

/- An input holds what its text or its record says. -/
theorem heldBy_of_read
    {d : Document}
    (hJson : d.IsJson)
    {input : FormInput}
    (hRead : read d = .ok input) :
    input.HeldBy d := by
  by_cases hBare : d.IsText
  · rcases hBare with ⟨s, rfl⟩
    cases hRead
    exact Or.inl rfl
  · rw [read_of_not_isText hBare, bind_tagged_eq_ok_iff] at hRead
    rcases hRead with ⟨entries, kind, rfl, hTag, hKnown, hKind⟩
    exact heldBy_of_readKind hJson hTag hKnown hKind

end FormInput

------------------------------------------------------------
-- Actions
------------------------------------------------------------

namespace Action

/- The data that is read stands in the record, in its order. -/
theorem hasData_of_optionalField
    {entries : List (Scalar × Document)}
    (hJson : IsJson (.mapping entries))
    {data : List (Text × FormInput)}
    (hField : optionalField entries "data" [] readData = .ok data) :
    HasData (.mapping entries) data := by
  rcases optionalField_eq_ok_iff.mp hField with
    ⟨hNone, rfl⟩ | ⟨value, hFind, hData⟩
  · exact Or.inl ⟨hNone, rfl⟩
  · have hValue := hJson.of_find? hFind
    cases hValue with
    | scalar _ =>
        cases hData
    | sequence _ =>
        cases hData
    | @mapping inputs hKeys hDistinct hValues =>
        have hTexts : ∀ entry ∈ inputs, ∃ s, entry.1 = .text s := by
          intro entry hEntry
          have hPass :=
            (passes_textKeys_iff FormInput.read inputs).mp
              ⟨data, hData⟩ entry hEntry
          rcases (passes_asText_iff
              (.scalar (hKeys entry hEntry).isJson)).mp hPass.1
            with ⟨s, hText⟩
          exact ⟨s, Document.scalar.inj hText⟩
        refine Or.inr ⟨inputs, hFind, ?_⟩
        have hPairs :=
          (List.forall₂_and_left _ _).mpr
            ⟨hValues, forall₂_of_textKeys hDistinct hTexts hData⟩
        exact hPairs.imp fun _ _ ⟨hInput, hName, hRead⟩ =>
          ⟨hName, FormInput.heldBy_of_read hInput hRead⟩

theorem heldBy_of_readKind
    [Pattern.Engine]
    {entries : List (Scalar × Document)}
    (hJson : IsJson (.mapping entries))
    {kind : String}
    (hKnown : kind ∈ kinds)
    {action : Action}
    (hRead : readKind kind entries = .ok action) :
    action.kind = kind ∧ action.HeldBy (.mapping entries) := by
  simp only [kinds, List.mem_cons, List.not_mem_nil, or_false]
    at hKnown
  rcases hKnown with rfl | rfl | rfl | rfl | rfl | rfl | rfl | rfl
  all_goals
    rcases map_eq_ok_iff.mp (closed_eq_ok_iff.mp hRead).1 with
      ⟨x, hField, rfl⟩
    refine ⟨rfl, ?_⟩
  case inl =>
    exact hasText_of_required hJson hField
  case inr.inl =>
    exact hasText_of_required hJson hField
  case inr.inr.inl =>
    rcases both_eq_ok_iff.mp hField with ⟨hButton, hRest⟩
    rcases both_eq_ok_iff.mp hRest with ⟨hForm, hData⟩
    exact ⟨hasOptionalText_of_optionalField hJson hButton,
      hasOptionalText_of_optionalField hJson hForm,
      hasData_of_optionalField hJson hData⟩
  case inr.inr.inr.inl =>
    exact hasConverted_of_required hField
  case inr.inr.inr.inr.inl =>
    exact hasPattern_of_expected hJson hField
  case inr.inr.inr.inr.inr.inl =>
    exact hasPattern_of_expected hJson hField
  case inr.inr.inr.inr.inr.inr.inl =>
    rcases both_eq_ok_iff.mp hField with ⟨hExpected, hRest⟩
    rcases both_eq_ok_iff.mp hRest with ⟨hPlace, hName⟩
    exact ⟨hasPattern_of_expected hJson hExpected,
      hasText_of_required hJson hPlace,
      hasText_of_required hJson hName⟩
  case inr.inr.inr.inr.inr.inr.inr =>
    rcases both_eq_ok_iff.mp hField with ⟨hExpected, hPlace⟩
    exact ⟨hasPattern_of_expected hJson hExpected,
      hasText_of_required hJson hPlace⟩

/- An action is of the kind and holds what its record says. -/
theorem heldBy_of_read
    [Pattern.Engine]
    {d : Document}
    (hJson : d.IsJson)
    {action : Action}
    (hRead : read d = .ok action) :
    d.HasText "action" action.kind ∧ action.HeldBy d := by
  rcases bind_tagged_eq_ok_iff.mp hRead with
    ⟨entries, kind, rfl, hTag, hKnown, hKind⟩
  rcases heldBy_of_readKind hJson hKnown hKind with
    ⟨hSame, hHeld⟩
  exact ⟨hSame ▸ hTag, hHeld⟩

end Action

------------------------------------------------------------
-- Steps
------------------------------------------------------------

namespace Configuration

/- A step is read as its record is, whatever its name. -/
theorem readStep_eq_ok_iff
    [Pattern.Engine]
    {name : Text}
    {d : Document}
    {action : Action} :
    readStep name d = .ok action ↔ Action.read d = .ok action := by
  unfold readStep
  rcases Action.read d with (_ | _) | _ <;> simp

/-
  A step is read exactly if it is a record of some kind with
  the fields of that kind; the action is of that kind and
  holds what the record says.  In the data of a form a bare
  text is the same as a record of it.
-/
theorem readStep_grammar
    [Pattern.Engine]
    (name : Text)
    {d : Document}
    (hJson : d.IsJson) :
    ((∃ action, readStep name d = .ok action) ↔
      Action.IsRecord d) ∧
    (∀ action,
      readStep name d = .ok action →
        d.HasText "action" action.kind ∧ action.HeldBy d) ∧
    ∀ s,
      FormInput.read (.scalar (.text s)) =
        FormInput.read
          (.mapping
            [(.text "type", .scalar (.text "text")),
              (.text "value", .scalar (.text s))]) := by
  simp only [readStep_eq_ok_iff]
  exact ⟨Action.passes_read_iff hJson,
    fun _ hRead => Action.heldBy_of_read hJson hRead,
    fun _ => rfl⟩

/- The record of a form with a bare text and a checkbox. -/
def loginRecord : Document :=
  .mapping
    [(.text "action", .scalar (.text "submit")),
      (.text "data", .mapping
        [(.text "user", .scalar (.text "alice")),
          (.text "stay", .mapping
            [(.text "type", .scalar (.text "checkbox")),
              (.text "checked", .scalar (.text "yes"))])])]

/- Its inputs keep their order, and `yes` is a truth value. -/
theorem readStep_grammar_of_loginRecord :
    loginRecord.IsJson ∧
      Action.IsRecord loginRecord ∧
      Action.HeldBy loginRecord
        (.submit none none
          [("user", .text "alice"), ("stay", .checkbox true)]) := by
  have hJson : loginRecord.IsJson := by
    simp [loginRecord, Scalar.IsKey, Scalar.IsJson]
  have hRead :
      readStep "login" loginRecord =
        .ok (.submit none none
          [("user", .text "alice"), ("stay", .checkbox true)]) :=
    rfl
  rcases readStep_grammar "login" hJson with ⟨hGrammar, hHeld, _⟩
  exact ⟨hJson, hGrammar.mp ⟨_, hRead⟩, (hHeld _ hRead).2⟩

end Configuration

end Replay
