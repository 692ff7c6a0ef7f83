import Replay.Proofs.Action.Reader
import Replay.Proofs.Clock
import Replay.Proofs.Performance.Contract

/-
  This file proves how actions fail.  Those that are begun
  fail on the page, on the clock or with the browser.  The
  only actions that are rejected when they are performed are
  assertions about attributes without a name.

  Key definitions include:
    * `Play.FailsOfAction`

  Main results:
    * `perform_failsOfAction`
    * `perform_rejects_iff`
    * `Action.isUnnamed_iff_of_read`
-/

------------------------------------------------------------
-- Pages
------------------------------------------------------------

namespace Replay

open Play Checked Outcome Document

/- The act fails as actions that are begun do. -/
abbrev Play.FailsOfAction
    {α : Type}
    (act : Play α) : Prop :=
  act.FailsOnly fun failure => failure.isOfAction = true

theorem Breakdown.failure_isOfAction (breakdown : Breakdown) :
    breakdown.failure.isOfAction = true := by
  cases breakdown <;> rfl

theorem elementFrame_of_isOfAction :
    ElementFrame (fun failure => failure.isOfAction = true)
      fun _ => True where
  own := fun _ _ hAction => hAction
  timeout := fun _ => rfl
  breakdown := fun _ _ entry _ => entry.2.failure_isOfAction
  child := fun _ _ _ _ _ _ => trivial
  added := fun _ _ _ _ _ _ _ _ => trivial

/- Every page fails as actions do. -/
theorem Page.holds_of_isOfAction (page : Page) :
    page.Holds (fun failure => failure.isOfAction = true)
      fun _ => True where
  elements := fun _ _ _ _ => trivial
  routes := fun _ _ _ _ _ _ => trivial
  unreachable := fun entry _ => entry.2.failure_isOfAction
  title := fun breakdown _ => breakdown.failure_isOfAction

------------------------------------------------------------
-- Actions
------------------------------------------------------------

/- A named action is begun, whatever the page and the files. -/
theorem perform_failsOfAction
    (stage : Stage)
    {action : Action}
    (hNamed : ¬action.IsUnnamed) :
    (perform stage action).FailsOfAction := by
  have hFiles :
      action.MovesFiles
        (fun failure => failure.isOfAction = true)
        (fun _ => True) stage.state (fun _ => True)
        (fun _ => True) := by
    cases action with
    | advance delta =>
        have hAdvance :
            (Clock.advance stage.state delta).FailsOfAction :=
          Clock.advance_failsOnly (fun _ => rfl) (fun _ => rfl)
            (fun _ => rfl) stage.state delta
        exact hAdvance.weaken (fun _ _ => trivial) fun _ u _ =>
          ⟨u.page.holds_of_isOfAction, trivial⟩
    | _ => exact fun _ _ => trivial
  exact
    (perform_meets elementFrame_of_isOfAction stage hNamed
      (fun _ => rfl) hFiles).weaken
      (fun w _ => ⟨w.page.holds_of_isOfAction, trivial⟩)
      fun _ _ _ => trivial

------------------------------------------------------------
-- Rejections
------------------------------------------------------------

/- Only assertions without a name are rejected when performed. -/
theorem perform_rejects_iff
    (stage : Stage)
    (action : Action)
    (w : World) :
    (∃ rejection u,
      (perform stage action).run w =
        .error (.rejected rejection) u) ↔
      action.IsUnnamed := by
  constructor
  · rintro ⟨rejection, u, hRun⟩
    by_contra hNamed
    have hAction :=
      (perform_failsOfAction stage hNamed).mayFail_of_error hRun
    cases hAction
  · intro hUnnamed
    exact ⟨_, w, perform_of_isUnnamed stage hUnnamed w⟩

------------------------------------------------------------
-- Records without Names
------------------------------------------------------------

/-
  An action without a name is read from an assertion about
  an attribute whose name is empty.
-/
theorem Action.isUnnamed_iff_of_read
    [Pattern.Engine]
    {d : Document}
    {action : Action}
    (hRead : read d = .ok action) :
    action.IsUnnamed ↔
      d.HasText "action" "assert-attribute" ∧
        d.HasConverted "attribute" asText "" := by
  rcases bind_tagged_eq_ok_iff.mp hRead with
    ⟨entries, kind, rfl, hTag, hKnown, hKind⟩
  have hOther
      (hKindNe : kind ≠ "assert-attribute")
      (hNamed : ¬action.IsUnnamed) :
      action.IsUnnamed ↔
        HasText (.mapping entries) "action" "assert-attribute" ∧
          HasConverted (.mapping entries) "attribute" asText "" := by
    refine iff_of_false hNamed fun ⟨hText, _⟩ => hKindNe ?_
    simpa using hTag.symm.trans hText
  simp only [kinds, List.mem_cons, List.not_mem_nil, or_false]
    at hKnown
  rcases hKnown with rfl | rfl | rfl | rfl | rfl | rfl | rfl | rfl
  all_goals
    rcases map_eq_ok_iff.mp (closed_eq_ok_iff.mp hKind).1 with
      ⟨x, hField, rfl⟩
  case inr.inr.inr.inr.inr.inr.inl =>
    rcases both_eq_ok_iff.mp hField with ⟨_, hRest⟩
    rcases required_eq_ok_iff.mp (both_eq_ok_iff.mp hRest).2 with
      ⟨value, hFind, hName⟩
    constructor
    · intro hUnnamed
      refine ⟨hTag, value, hFind, hName.trans ?_⟩
      exact congrArg Except.ok hUnnamed
    · rintro ⟨_, other, hOther, hEmpty⟩
      cases hFind.symm.trans hOther
      exact Except.ok.inj (hName.symm.trans hEmpty)
  all_goals
    exact hOther (by decide) fun hUnnamed => hUnnamed.elim

end Replay
