import Replay.Proofs.Action.Reader
import Replay.Proofs.Pattern.Plain
import Replay.Proofs.Performance.Calls

/-
  This file proves that an assertion which expects a plain
  text passes wherever the text stands in the value that is
  read.

  Key definitions include:
    * `Subject.WantedBy`
    * `Action.assertionRules`
    * `Action.IsAssertion`

  Main results:
    * `Action.readKind_of_isPlain`
    * `perform_of_subject`
    * `perform_plainAssertion`
-/

------------------------------------------------------------
-- Records of Assertions
------------------------------------------------------------

namespace Replay

open Checked Document Outcome Play

/- A field that must be there is there. -/
theorem FieldRule.KeptBy.of_find?
    {entries : List (Scalar × Document)}
    {name : String}
    {Accepts : Document → Prop}
    {value : Document}
    (hFind : find? entries name = some value)
    (hValue : Accepts value) :
    (FieldRule.needed name Accepts).KeptBy entries where
  present _ := ⟨value, hFind⟩
  valid other hOther := by
    cases hFind.symm.trans hOther
    exact hValue

/- What the record of an assertion wants to be observed. -/
def Subject.WantedBy
    (d : Document) : Subject → Prop
  | url => d.HasText "action" "assert-url"
  | title => d.HasText "action" "assert-title"
  | attributeValue xpath name =>
    d.HasText "action" "assert-attribute" ∧
      d.HasConverted "xpath" asText xpath ∧
      d.HasConverted "attribute" asText name
  | text xpath _ =>
    d.HasText "action" "assert-text" ∧
      d.HasConverted "xpath" asText xpath

namespace Action

/- The fields that say where an assertion finds its value. -/
def placeFields : String → List String
  | "assert-attribute" => ["xpath", "attribute"]
  | "assert-text" => ["xpath"]
  | _ => []

section

-- what may be expected
variable (Expected : Document → Prop)

/-
  The fields of a kind of assertion.  Unlike in the rules of
  actions, what is expected need not be an expression.
-/
def assertionRules (kind : String) : List FieldRule :=
  .needed "expected" Expected ::
    (placeFields kind).map fun name =>
      .needed name fun d => Passes (asText d)

/- The record of an assertion of some kind. -/
def IsAssertion (d : Document) : Prop :=
  IsTagged "action" assertions (assertionRules Expected) d

end

------------------------------------------------------------
-- Reading
------------------------------------------------------------

/- A plain text is read as a pattern. -/
theorem readPattern_of_isPlain
    [Pattern.Engine]
    {s : Text}
    (hPlain : Pattern.IsPlain s)
    {d : Document}
    (hText : asText d = .ok s) :
    readPattern d = .ok (.ofPlain s) := by
  rw [readPattern, hText]
  simp only [bind, Except.bind, Pattern.compile_of_isPlain hPlain]
  rfl

/- Fields that are read make an action if there are no others. -/
theorem closed_map_of_ok
    {α β : Type}
    {entries : List (Scalar × Document)}
    {names : List String}
    {fields : Checked α}
    {x : α}
    (hFields : fields = .ok x)
    (hNames :
      ∀ entry ∈ entries, ∃ name ∈ names, entry.1 = .text name)
    (f : α → β) :
    closed entries names (fields.map f) = .ok (f x) :=
  closed_eq_ok_iff.mpr
    ⟨map_eq_ok_iff.mpr ⟨x, hFields, rfl⟩, hNames⟩

/-
  The record of an assertion that expects a plain text is
  read as one that searches for it.
-/
theorem readKind_of_isPlain
    [Pattern.Engine]
    {s : Text}
    (hPlain : Pattern.IsPlain s)
    {kind : String}
    (hKind : kind ∈ assertions)
    {entries : List (Scalar × Document)}
    (hTag : HasText (.mapping entries) "action" kind)
    (hKeeps :
      KeepsRules "action"
        (assertionRules (fun d => asText d = .ok s) kind) entries) :
    ∃ action subject,
      readKind kind entries = .ok action ∧
        action.subject? = some subject ∧
        action.pattern? = some (.ofPlain s) ∧
        subject.WantedBy (.mapping entries) := by
  have hExpected : expected entries = .ok (.ofPlain s) := by
    have hRule := hKeeps.kept _ List.mem_cons_self
    rcases hRule.present rfl with ⟨value, hFind⟩
    exact required_eq_ok_iff.mpr
      ⟨value, hFind,
        readPattern_of_isPlain hPlain (hRule.valid value hFind)⟩
  have hPlace
      (name : String)
      (hName : name ∈ placeFields kind) :
      Passes (required entries name asText) := by
    apply (passes_required_iff fun _ _ => Iff.rfl).mpr
    exact hKeeps.kept _
      (List.mem_cons_of_mem _ (List.mem_map_of_mem hName))
  have hOthers := hKeeps.noOthers
  simp only [assertions, List.mem_cons, List.not_mem_nil, or_false]
    at hKind
  rcases hKind with rfl | rfl | rfl | rfl
  · refine ⟨.assertUrl (.ofPlain s), _, ?_, rfl, rfl, hTag⟩
    exact closed_map_of_ok hExpected hOthers _
  · refine ⟨.assertTitle (.ofPlain s), _, ?_, rfl, rfl, hTag⟩
    exact closed_map_of_ok hExpected hOthers _
  · rcases hPlace "xpath" (by decide) with ⟨xpath, hXPath⟩
    rcases hPlace "attribute" (by decide) with ⟨name, hName⟩
    have hFields :
        both (expected entries)
            (both (required entries "xpath" asText)
              (required entries "attribute" asText)) =
          .ok (.ofPlain s, xpath, name) :=
      both_eq_ok_iff.mpr
        ⟨hExpected, both_eq_ok_iff.mpr ⟨hXPath, hName⟩⟩
    refine ⟨.assertAttribute (.ofPlain s) xpath name, _, ?_, rfl,
      rfl, hTag, hasConverted_of_required hXPath,
      hasConverted_of_required hName⟩
    exact closed_map_of_ok hFields hOthers _
  · rcases hPlace "xpath" (by decide) with ⟨xpath, hXPath⟩
    have hFields :
        both (expected entries) (required entries "xpath" asText) =
          .ok (.ofPlain s, xpath) :=
      both_eq_ok_iff.mpr ⟨hExpected, hXPath⟩
    refine ⟨.assertText (.ofPlain s) xpath, _, ?_, rfl, rfl, hTag,
      hasConverted_of_required hXPath⟩
    exact closed_map_of_ok hFields hOthers _

end Action

------------------------------------------------------------
-- Performing
------------------------------------------------------------

section

variable {subject : Subject}

/- An assertion compares what it observes with its pattern. -/
theorem perform_of_subject
    (stage : Stage)
    {action : Action}
    {expected : Pattern.Compiled}
    (hSubject : action.subject? = some subject)
    (hPattern : action.pattern? = some expected)
    (hNamed : ¬action.IsUnnamed) :
    perform stage action = expect stage subject expected := by
  cases action with
  | assertUrl pattern =>
      cases hSubject
      cases hPattern
      rfl
  | assertTitle pattern =>
      cases hSubject
      cases hPattern
      rfl
  | assertAttribute pattern xpath name =>
      cases hSubject
      cases hPattern
      have hAttribute :
          Subject.attributeOf xpath name =
            .ok (.attributeValue xpath name) :=
        if_neg hNamed
      rw [perform, hAttribute]
  | assertText pattern xpath =>
      cases hSubject
      cases hPattern
      rfl
  | _ => cases hSubject

/- What comes of comparing a value with a plain text. -/
theorem run_expect_of_plain
    (stage : Stage)
    (s : Text)
    {v : Text}
    {w u : World}
    (hValue : (observe stage.timeout subject).run w = .ok v u) :
    (expect stage subject (.ofPlain s)).run w =
      if s <:+: v then
        .ok () { u with
          log := u.log ++ [⟨.debug, "netero.executor.executor",
            subject.describe ++ " " ++ Text.quote v ++ " matches " ++
              Text.quote s⟩] }
      else
        .error (.mismatch subject.describe v s) u := by
  rw [expect, EStateM.run_bind, hValue]
  dsimp only
  rw [Pattern.searchIn_ofPlain]
  by_cases hInfix : s <:+: v
  · rw [if_pos hInfix, if_pos hInfix]
    exact run_note _ _ _ _
  · rw [if_neg hInfix, if_neg hInfix]
    rfl

end

/-
  The record of an assertion that expects a plain text is
  read.  Where the assertion reads a value of the page, it
  passes if the text stands somewhere in the value, and is a
  mismatch if it does not.
-/
theorem perform_plainAssertion
    [Pattern.Engine]
    {s : Text}
    (hPlain : Pattern.IsPlain s)
    {d : Document}
    (hRecord : Action.IsAssertion (fun e => asText e = .ok s) d)
    (name : Text) :
    ∃ action subject,
      Configuration.readStep name d = .ok action ∧
        action.subject? = some subject ∧
        subject.WantedBy d ∧
        ∀ (stage : Stage) (v : Text) (w u : World),
          ¬action.IsUnnamed →
          (observe stage.timeout subject).run w = .ok v u →
          (perform stage action).run w =
            if s <:+: v then
              .ok () { u with
                log := u.log ++ [⟨.debug,
                  "netero.executor.executor",
                  subject.describe ++ " " ++ Text.quote v ++
                    " matches " ++ Text.quote s⟩] }
            else
              .error (.mismatch subject.describe v s) u := by
  rcases hRecord with ⟨entries, kind, rfl, hTag, hKind, hKeeps⟩
  rcases Action.readKind_of_isPlain hPlain hKind hTag hKeeps with
    ⟨action, subject, hRead, hSubject, hPattern, hWanted⟩
  have hKnown : kind ∈ Action.kinds :=
    Action.assertions_subset_kinds hKind
  have hStep :
      Configuration.readStep name (.mapping entries) = .ok action :=
    Configuration.readStep_eq_ok_iff.mpr
      (bind_tagged_eq_ok_iff.mpr
        ⟨entries, kind, rfl, hTag, hKnown, hRead⟩)
  refine ⟨action, subject, hStep, hSubject, hWanted, ?_⟩
  intro stage v w u hNamed hValue
  rw [perform_of_subject stage hSubject hPattern hNamed]
  exact run_expect_of_plain stage s hValue

/- The record of an assertion about a headline. -/
def headlineRecord : Document :=
  .mapping
    [(.text "action", .scalar (.text "assert-text")),
      (.text "expected", .scalar (.text "Ü # 1")),
      (.text "xpath", .scalar (.text "//h1"))]

/- A page with one headline. -/
def headlinePage (text : Text) : Page :=
  { Page.blank with
    elements := [("//h1", [.mk (some text) [] [] none []])] }

/- It does not matter what stands around the text. -/
theorem perform_plainAssertion_of_headlineRecord :
    Pattern.IsPlain "Ü # 1" ∧
      Action.IsAssertion (fun e => asText e = .ok "Ü # 1")
        headlineRecord ∧
      ∃ action,
        Configuration.readStep "check" headlineRecord =
            .ok action ∧
          ¬action.IsUnnamed ∧
          (∃ u,
            (perform ⟨.ofText "state", none⟩ action).run
                (World.start .empty (headlinePage "Ü # 1, 2")) =
              .ok () u) ∧
          ∃ u,
            (perform ⟨.ofText "state", none⟩ action).run
                (World.start .empty (headlinePage "ü # 1")) =
              .error
                (.mismatch "text content at \"//h1\"" "ü # 1"
                  "Ü # 1") u := by
  have hPlain : Pattern.IsPlain "Ü # 1" := by decide
  have hRecord :
      Action.IsAssertion (fun e => asText e = .ok "Ü # 1")
        headlineRecord := by
    refine ⟨_, "assert-text", rfl, rfl, by decide, ?_, ?_⟩
    · simp [Action.assertionRules, Action.placeFields,
        FieldRule.needed]
    · rw [Action.assertionRules, List.forall_mem_cons]
      exact ⟨.of_find? rfl rfl,
        List.forall_mem_singleton.mpr (.of_find? rfl ⟨_, rfl⟩)⟩
  rcases perform_plainAssertion hPlain hRecord "check" with
    ⟨action, subject, hRead, hSubject, hWanted, hRun⟩
  have hKind
      {kind : String}
      (hOther : headlineRecord.HasText "action" kind) :
      "assert-text" = kind := by
    have hTag :
        headlineRecord.field? "action" =
          some (.scalar (.text "assert-text")) := rfl
    rw [HasText, hTag] at hOther
    simpa using hOther
  have hPlace : ∃ name, subject = .text "//h1" name := by
    cases subject with
    | text xpath name =>
        rcases hWanted with ⟨_, value, hFind, hText⟩
        cases hFind
        cases hText
        exact ⟨name, rfl⟩
    | attributeValue xpath name =>
        exact absurd (hKind hWanted.1) (by decide)
    | url =>
        exact absurd (hKind hWanted) (by decide)
    | title =>
        exact absurd (hKind hWanted) (by decide)
  rcases hPlace with ⟨name, rfl⟩
  have hNamed : ¬action.IsUnnamed := by
    cases action with
    | assertText expected xpath =>
        exact id
    | _ => cases hSubject
  have hReads (v : Text) :
      ∃ u,
        (observe none (.text "//h1" name)).run
            (World.start .empty (headlinePage v)) =
          .ok v u :=
    ⟨_, rfl⟩
  rcases hReads "Ü # 1, 2" with ⟨u, hValue⟩
  rcases hReads "ü # 1" with ⟨u', hOther⟩
  have hPasses :=
    hRun ⟨.ofText "state", none⟩ _ _ u hNamed hValue
  have hFails :=
    hRun ⟨.ofText "state", none⟩ _ _ u' hNamed hOther
  rw [if_pos (by decide)] at hPasses
  rw [if_neg (by decide)] at hFails
  exact ⟨hPlain, hRecord, action, hRead, hNamed, ⟨_, hPasses⟩,
    u', hFails⟩

end Replay
