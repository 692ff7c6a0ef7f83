import Replay.Proofs.Action.Reader
import Replay.Proofs.Performance.Calls

/-
  This file proves which calls send a form, and how far they
  get if one of them breaks down.

  Key definitions include:
    * `Page.Makes`
    * `Call.isClick`
    * `Call.field?`

  Main results:
    * `Page.Makes.eq_of_last_mem`
    * `Play.Follows.exists_makes`
    * `calls_of_submit`
-/

------------------------------------------------------------
-- Scripts That Are Made
------------------------------------------------------------

namespace Replay

open Number Play

/-
  What is made of a script, and how that ends: all of it, or
  the part that ends with the first call that breaks down.
-/
inductive Page.Makes
    (page : Page)
    (script : List Call) :
    List Call → Except Failure Unit → Prop
  | whole :
      (∀ call ∈ script, page.breakdown? call = none) →
      Makes page script script (.ok ())
  | broken
      (front : List Call)
      (call : Call)
      (rest : List Call)
      (failure : Failure) :
      script = front ++ call :: rest →
      (∀ earlier ∈ front, page.breakdown? earlier = none) →
      page.answer call = .breaks failure →
      Makes page script (front ++ [call])
        (.error (call.report failure))

section

variable {page : Page}
variable {script made : List Call}
variable {ending : Except Failure Unit}

/- The calls that are made are the first ones of the script. -/
theorem Page.made_isPrefix
    (page : Page)
    (script : List Call) :
    page.made script <+: script := by
  induction script with
  | nil =>
      exact List.prefix_refl []
  | cons call rest ih =>
      rw [made_cons]
      cases page.breakdown? call with
      | some failure =>
          exact List.prefix_append [call] rest
      | none =>
          exact (List.prefix_cons_inj call).mpr ih

namespace Page.Makes

theorem isPrefix
    (hMakes : page.Makes script made ending) :
    made <+: script := by
  cases hMakes with
  | whole _ =>
      exact List.prefix_refl script
  | broken front call rest failure hScript _ _ =>
      refine ⟨rest, ?_⟩
      rw [hScript, List.append_assoc, List.singleton_append]

/- What comes last in a script is made after all the rest. -/
theorem eq_of_last_mem
    {front : List Call}
    {last : Call}
    (hMakes : page.Makes (front ++ [last]) made ending)
    (hOnce : last ∉ front)
    (hLast : last ∈ made) :
    made = front ++ [last] ∧
      ∀ earlier ∈ front, page.breakdown? earlier = none := by
  cases hMakes with
  | whole hNone =>
      exact ⟨rfl, fun earlier hEarlier =>
        hNone earlier (List.mem_append_left _ hEarlier)⟩
  | broken before call rest failure hScript hEarlier _ =>
      rcases List.eq_nil_or_concat rest with
        rfl | ⟨inner, final, rfl⟩
      · rcases List.append_inj' hScript rfl with ⟨rfl, hSame⟩
        cases hSame
        exact ⟨rfl, hEarlier⟩
      · -- then the call that broke down comes before the last
        have hSplit :
            front ++ [last] = (before ++ call :: inner) ++ [final] := by
          rw [hScript]
          simp
        have hFront := (List.append_inj' hSplit rfl).1
        rw [hFront] at hOnce
        refine absurd ?_ hOnce
        rcases List.mem_append.mp hLast with hBefore | hCall
        · exact List.mem_append_left _ hBefore
        · rw [List.mem_singleton.mp hCall]
          exact List.mem_append_right _ List.mem_cons_self

end Page.Makes

/- An act that follows a script makes it as far as it gets. -/
theorem Play.Follows.exists_makes
    {act : Play Unit}
    {after : Page}
    {w : World}
    (hAct : act.Follows w.page script (.ok ()) after) :
    ∃ ending v made,
      act.outcome.run w = .ok ending v ∧
        v.trace = w.trace ++ made ∧
        w.page.Makes script made ending := by
  rcases hAct w rfl with ⟨log, hRun⟩
  rw [run_outcome, hRun]
  unfold Page.endOf
  cases hFailure : w.page.failure? script with
  | none =>
      refine ⟨.ok (), _, script, rfl, rfl, .whole ?_⟩
      exact fun call hCall =>
        Page.breakdown?_of_failure?_eq_none hFailure hCall
  | some reported =>
      rcases Page.exists_of_failure? hFailure with
        ⟨front, call, failure, hMade, hEarlier, _, hBreaks, rfl⟩
      rcases w.page.made_isPrefix script with ⟨rest, hRest⟩
      refine ⟨_, _, front ++ [call], rfl, ?_,
        .broken front call rest failure ?_ hEarlier hBreaks⟩
      · rw [hMade]
        rfl
      · rw [← hRest, hMade, List.append_assoc,
          List.singleton_append]

end

------------------------------------------------------------
-- Calls of a Form
------------------------------------------------------------

/- Does a call click something? -/
def Call.isClick : Call → Bool
  | .click _ => true
  | _ => false

/- Where a call enters something. -/
def Call.field? : Call → Option (List Text)
  | .fill path _ => some path
  | .check path => some path
  | .uncheck path => some path
  | .select path _ => some path
  | .attach path _ => some path
  | _ => none

theorem FormInput.field?_call
    (path : List Text)
    (input : FormInput) :
    (input.call path).field? = some path := by
  cases input with
  | checkbox checked =>
      cases checked <;> rfl
  | _ => rfl

theorem FormInput.isClick_call
    (path : List Text)
    (input : FormInput) :
    (input.call path).isClick = false := by
  cases input with
  | checkbox checked =>
      cases checked <;> rfl
  | _ => rfl

/- The selectors that lead to a field of a form. -/
def fieldPath
    (scope : Text)
    (field : Text × FormInput) : List Text :=
  [scope, field.2.selector field.1]

/- The calls before a form is sent. -/
def fillingScript
    (timeout : Option Binary64)
    (button form : Option Text)
    (data : List (Text × FormInput)) : List Call :=
  let scope := formLocation form
  .await [scope] timeout ::
    (data.flatMap (fieldScript timeout scope) ++
      [.await (controlPath button scope) timeout])

section

variable {timeout : Option Binary64}
variable {button form : Option Text}
variable {data : List (Text × FormInput)}

/- The last call of a script is the click. -/
theorem submitScript_eq :
    submitScript timeout button form data =
      fillingScript timeout button form data ++
        [.click (controlPath button (formLocation form))] := by
  simp [submitScript, fillingScript]

/-
  Before the form is sent, it is waited for the form, for
  each field and for what sends the form, and each input is
  entered into its field.
-/
theorem mem_fillingScript_iff
    {call : Call} :
    call ∈ fillingScript timeout button form data ↔
      call = .await [formLocation form] timeout ∨
        (∃ field ∈ data,
          call = .await (fieldPath (formLocation form) field)
              timeout ∨
            call =
              field.2.call (fieldPath (formLocation form) field)) ∨
        call =
          .await (controlPath button (formLocation form))
            timeout := by
  simp [fillingScript, fieldScript, fieldPath]

/- No call before the last one is a click. -/
theorem isClick_of_mem_fillingScript
    {call : Call}
    (hCall : call ∈ fillingScript timeout button form data) :
    call.isClick = false := by
  rcases mem_fillingScript_iff.mp hCall with
    rfl | ⟨field, _, rfl | rfl⟩ | rfl
  · rfl
  · rfl
  · exact FormInput.isClick_call _ _
  · rfl

/- The form is clicked once, at the end. -/
theorem countP_isClick_submitScript :
    (submitScript timeout button form data).countP
        Call.isClick = 1 := by
  have hNone :
      (fillingScript timeout button form data).countP
        Call.isClick = 0 := by
    rw [List.countP_eq_zero]
    intro call hCall
    rw [isClick_of_mem_fillingScript hCall]
    exact Bool.false_ne_true
  rw [submitScript_eq, List.countP_append, hNone]
  rfl

/- Nothing is entered anywhere but into the fields. -/
theorem exists_field_of_mem_submitScript
    {call : Call}
    (hCall : call ∈ submitScript timeout button form data)
    {path : List Text}
    (hPath : call.field? = some path) :
    ∃ field ∈ data,
      path = fieldPath (formLocation form) field := by
  rw [submitScript_eq, List.mem_append, List.mem_singleton,
    mem_fillingScript_iff] at hCall
  rcases hCall with
    (rfl | ⟨field, hField, rfl | rfl⟩ | rfl) | rfl
  · cases hPath
  · cases hPath
  · rw [FormInput.field?_call] at hPath
    cases hPath
    exact ⟨field, hField, rfl⟩
  · cases hPath
  · cases hPath

/- Nor is anything waited for but in three places. -/
theorem path_of_await_mem_submitScript
    {path : List Text}
    {limit : Option Binary64}
    (hCall :
      .await path limit ∈ submitScript timeout button form data) :
    path = [formLocation form] ∨
      (∃ field ∈ data,
        path = fieldPath (formLocation form) field) ∨
      path = controlPath button (formLocation form) := by
  rw [submitScript_eq, List.mem_append, List.mem_singleton,
    mem_fillingScript_iff] at hCall
  rcases hCall with
    (hForm | ⟨field, hField, hWait | hEnter⟩ | hControl) | hClick
  · cases hForm
    exact Or.inl rfl
  · cases hWait
    exact Or.inr (Or.inl ⟨field, hField, rfl⟩)
  · have hNone := FormInput.field?_call
      (fieldPath (formLocation form) field) field.2
    rw [← hEnter] at hNone
    cases hNone
  · cases hControl
    exact Or.inr (Or.inr rfl)
  · cases hClick

end

------------------------------------------------------------
-- Sending a Form
------------------------------------------------------------

/-
  To send a form makes the calls of its script in their order
  and stops with the first one that breaks down.  So there is
  one click at most.  It comes after all other calls, none of
  which broke down, and so after every input was entered.
  Each input is waited for and entered within the form.  The
  inputs have the order that they have in the record.
-/
theorem calls_of_submit
    [Pattern.Engine]
    (stage : Stage)
    (button form : Option Text)
    (data : List (Text × FormInput))
    (w : World) :
    (∀ name (d : Document),
      d.IsJson →
      Configuration.readStep name d =
          .ok (.submit button form data) →
        Action.HasData d data) ∧
    ∃ ending v made,
      (perform stage (.submit button form data)).outcome.run w =
          .ok ending v ∧
        v.trace = w.trace ++ made ∧
        w.page.Makes
          (submitScript stage.timeout button form data) made
          ending ∧
        made.countP Call.isClick ≤ 1 ∧
        (∀ path,
          .click path ∈ made →
            path = controlPath button (formLocation form) ∧
            made =
              fillingScript stage.timeout button form data ++
                [.click path] ∧
            ∀ call ∈
                fillingScript stage.timeout button form data,
              w.page.breakdown? call = none) ∧
        (∀ call ∈ made, ∀ path,
          call.field? = some path →
            ∃ field ∈ data,
              path = fieldPath (formLocation form) field) ∧
        ∀ path limit,
          .await path limit ∈ made →
            path = [formLocation form] ∨
              (∃ field ∈ data,
                path = fieldPath (formLocation form) field) ∨
              path = controlPath button (formLocation form) := by
  constructor
  · intro name d hJson hRead
    rw [Configuration.readStep_eq_ok_iff] at hRead
    exact (Action.heldBy_of_read hJson hRead).2.2.2
  · rcases (submit_follows w.page stage button form
        data).exists_makes with
      ⟨ending, v, made, hRun, hTrace, hMakes⟩
    have hPrefix := hMakes.isPrefix
    refine ⟨ending, v, made, hRun, hTrace, hMakes, ?_, ?_, ?_, ?_⟩
    · rw [← countP_isClick_submitScript]
      exact hPrefix.sublist.countP_le
    · intro path hClick
      have hPath :
          path = controlPath button (formLocation form) := by
        have hScript := hPrefix.subset hClick
        rw [submitScript_eq, List.mem_append] at hScript
        rcases hScript with hFilling | hLast
        · cases isClick_of_mem_fillingScript hFilling
        · cases List.mem_singleton.mp hLast
          rfl
      subst hPath
      rw [submitScript_eq] at hMakes
      refine ⟨rfl, hMakes.eq_of_last_mem ?_ hClick⟩
      intro hFilling
      cases isClick_of_mem_fillingScript hFilling
    · intro call hCall path hPath
      exact exists_field_of_mem_submitScript
        (hPrefix.subset hCall) hPath
    · intro path limit hCall
      exact path_of_await_mem_submitScript (hPrefix.subset hCall)

/- A page with a form that has one of two fields only. -/
def halfForm : Page :=
  let field := Element.mk none [] [] none []
  let form :=
    Element.mk none [] [(XPath.anyField "user", [field])] none []
  { Page.blank with elements := [(XPath.form, [form])] }

/- Nothing is clicked if the second field is not there. -/
theorem calls_of_submit_of_halfForm :
    Configuration.loginRecord.IsJson ∧
      Configuration.readStep "login" Configuration.loginRecord =
        .ok (.submit none none
          [("user", .text "alice"), ("stay", .checkbox true)]) ∧
      Action.HasData Configuration.loginRecord
        [("user", .text "alice"), ("stay", .checkbox true)] ∧
      ∃ v,
        (perform ⟨.ofText "state", none⟩
            (.submit none none
              [("user", .text "alice"),
                ("stay", .checkbox true)])).outcome.run
            (World.start .empty halfForm) =
          .ok
            (.error
              (.noElement (XPath.inputField "stay")
                (some XPath.form))) v ∧
        v.trace =
          [.await [XPath.form] none,
            .await [XPath.form, XPath.anyField "user"] none,
            .fill [XPath.form, XPath.anyField "user"] "alice",
            .await [XPath.form, XPath.inputField "stay"]
              none] ∧
        v.trace.countP Call.isClick ≤ 1 := by
  have hJson : Configuration.loginRecord.IsJson := by
    simp [Configuration.loginRecord, Scalar.IsKey, Scalar.IsJson]
  have hRead :
      Configuration.readStep "login" Configuration.loginRecord =
        .ok (.submit none none
          [("user", .text "alice"), ("stay", .checkbox true)]) :=
    rfl
  rcases calls_of_submit ⟨.ofText "state", none⟩ none none
      [("user", .text "alice"), ("stay", .checkbox true)]
      (World.start .empty halfForm) with
    ⟨hData, ending, v, made, hRun, hTrace, _, hOnce, _⟩
  have hMade : v.trace = made := hTrace
  rw [← hMade] at hOnce
  refine ⟨hJson, hRead, hData "login" _ hJson hRead, v, ?_, ?_,
    hOnce⟩
  · cases hRun
    rfl
  · cases hRun
    rfl

end Replay
