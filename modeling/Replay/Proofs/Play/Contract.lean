import Replay.Proofs.Play

/-
  This file describes acts by what holds when they end, and
  by the failures that they may end with.

  Key definitions include:
    * `Play.Meets`
    * `Play.FailsOnly`

  Main results:
    * `Play.Meets.bind`
    * `Play.Meets.weaken`
    * `Play.FailsOnly.bind`
-/

------------------------------------------------------------
-- Contracts
------------------------------------------------------------

namespace Replay

namespace Play

variable {α β : Type}

/-
  In every world that is as before, the act ends with a value
  in a world as after, or with a failure that it may end
  with.
-/
def Meets
    (before : World → Prop)
    (after : α → World → Prop)
    (mayFail : Failure → Prop)
    (act : Play α) : Prop :=
  ∀ w,
    before w →
      match act.run w with
      | .ok value u => after value u
      | .error failure _ => mayFail failure

namespace Meets

variable {before : World → Prop}
variable {after : α → World → Prop}
variable {mayFail : Failure → Prop}
variable {act : Play α}

/- An act that succeeds meets what was said of its end. -/
theorem after_of_ok
    (hMeets : act.Meets before after mayFail)
    {w u : World}
    (hBefore : before w)
    {value : α}
    (hRun : act.run w = .ok value u) :
    after value u := by
  have hEnd := hMeets w hBefore
  rwa [hRun] at hEnd

/- An act that fails does so in a way that was allowed. -/
theorem mayFail_of_error
    (hMeets : act.Meets before after mayFail)
    {w u : World}
    (hBefore : before w)
    {failure : Failure}
    (hRun : act.run w = .error failure u) :
    mayFail failure := by
  have hEnd := hMeets w hBefore
  rwa [hRun] at hEnd

theorem pure
    {value : α}
    (hAfter : ∀ w, before w → after value w) :
    (Pure.pure value : Play α).Meets before after mayFail :=
  hAfter

theorem throw
    {failure : Failure}
    (hFail : mayFail failure) :
    (MonadExcept.throw failure : Play α).Meets before after
      mayFail :=
  fun _ _ => hFail

/- What holds between two acts leads from one to the other. -/
theorem bind
    {middle : α → World → Prop}
    {after : β → World → Prop}
    {next : α → Play β}
    (hAct : act.Meets before middle mayFail)
    (hNext :
      ∀ value, (next value).Meets (middle value) after mayFail) :
    (act >>= next).Meets before after mayFail := by
  intro w hBefore
  have hMiddle := hAct w hBefore
  rw [EStateM.run_bind]
  cases hRun : act.run w with
  | ok value u =>
      rw [hRun] at hMiddle
      exact hNext value u hMiddle
  | error failure u =>
      rwa [hRun] at hMiddle

/- A contract may ask for more before and promise less after. -/
theorem weaken
    {stronger : World → Prop}
    {weaker : α → World → Prop}
    (hAct : act.Meets before after mayFail)
    (hBefore : ∀ w, stronger w → before w)
    (hAfter : ∀ value w, after value w → weaker value w) :
    act.Meets stronger weaker mayFail := by
  intro w hStronger
  have hEnd := hAct w (hBefore w hStronger)
  cases hRun : act.run w with
  | ok value u =>
      rw [hRun] at hEnd
      exact hAfter value u hEnd
  | error failure u =>
      rwa [hRun] at hEnd

theorem map
    {f : α → β}
    {after : β → World → Prop}
    (hAct :
      act.Meets before (fun value => after (f value)) mayFail) :
    (f <$> act).Meets before after mayFail := by
  rw [← bind_pure_comp]
  exact hAct.bind fun _ => Meets.pure fun _ hAfter => hAfter

/- What is known besides the world may be used. -/
theorem of_and
    {known : Prop}
    (hAct : known → act.Meets before after mayFail) :
    act.Meets (fun w => known ∧ before w) after mayFail :=
  fun w hBoth => hAct hBoth.1 w hBoth.2

/- A change fails in no way. -/
theorem change
    {f : World → World}
    {after : Unit → World → Prop}
    (hAfter : ∀ w, before w → after () (f w)) :
    (modify f : Play Unit).Meets before after mayFail :=
  hAfter

end Meets

------------------------------------------------------------
-- Failures
------------------------------------------------------------

/- In no world does the act end with any other failure. -/
def FailsOnly
    (mayFail : Failure → Prop)
    (act : Play α) : Prop :=
  act.Meets (fun _ => True) (fun _ _ => True) mayFail

namespace FailsOnly

variable {mayFail : Failure → Prop}
variable {act : Play α}

/- An act that fails does so in a way that was allowed. -/
theorem mayFail_of_error
    (hAct : act.FailsOnly mayFail)
    {w u : World}
    {failure : Failure}
    (hRun : act.run w = .error failure u) :
    mayFail failure :=
  Meets.mayFail_of_error hAct trivial hRun

theorem pure (value : α) :
    (Pure.pure value : Play α).FailsOnly mayFail :=
  Meets.pure fun _ _ => trivial

theorem throw
    {failure : Failure}
    (hFail : mayFail failure) :
    (MonadExcept.throw failure : Play α).FailsOnly mayFail :=
  Meets.throw hFail

/- What holds between two acts leads from one to the other. -/
theorem bind
    {next : α → Play β}
    (hAct : act.FailsOnly mayFail)
    (hNext : ∀ value, (next value).FailsOnly mayFail) :
    (act >>= next).FailsOnly mayFail :=
  Meets.bind hAct hNext

/- A change fails in no way. -/
theorem change (f : World → World) :
    (modify f : Play Unit).FailsOnly mayFail :=
  Meets.change fun _ _ => trivial

/- A file that is read may be unreadable, or hold no text. -/
theorem readText
    (hFiles : ∀ fault, mayFail (.files fault))
    (hUndecodable : ∀ failure, mayFail (.undecodable failure))
    (path : Path) :
    (Play.readText path).FailsOnly mayFail := by
  intro w _
  rw [run_readText]
  cases w.files.read path with
  | error fault =>
      exact hFiles fault
  | ok content =>
      cases hLines : content.lines with
      | error failure =>
          simp only [hLines]
          exact hUndecodable failure
      | ok s =>
          simp only [hLines]

/- A file that is written may be closed or find no room. -/
theorem write
    (hFiles : ∀ fault, mayFail (.files fault))
    (path : Path)
    (content : Content) :
    (Play.write path content).FailsOnly mayFail := by
  intro w _
  rw [run_write]
  rcases w.files.write path content with ⟨fault | _, files⟩
  · exact hFiles fault
  · trivial

end FailsOnly

end Play

end Replay
