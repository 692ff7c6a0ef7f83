import Replay.Action.Performance
import Replay.Proofs.FileTree
import Replay.Proofs.Play

/-
  This file proves that performing an action makes calls of
  the page, changes the page, and moves the clock, and that
  it does nothing else.

  Key definitions include:
    * `Call.isOfPage`
    * `Play.Frame`
    * `Play.PageFrame`
    * `Play.ActionFrame`
    * `World.SameFiles`
    * `World.SameDisk`

  Main results:
    * `perform_staysIn_of_move?_eq_none`
    * `perform_staysIn`
-/

------------------------------------------------------------
-- Frames
------------------------------------------------------------

namespace Replay

/- The calls to a page and to its elements. -/
def Call.isOfPage : Call → Bool
  | .visit _ => true
  | .title => true
  | .await _ _ => true
  | .click _ => true
  | .fill _ _ => true
  | .check _ => true
  | .uncheck _ => true
  | .select _ _ => true
  | .attach _ _ => true
  | .readAttribute _ _ => true
  | .readText _ => true
  | _ => false

namespace Play

/-
  What a relation between worlds has to allow for, if acts
  that make the given calls are to stay in it: notes in the
  log, these calls, other pages, and another profile.
-/
structure Frame
    (mayCall : Call → Prop)
    (R : World → World → Prop) : Prop where
  note : ∀ w log, R w { w with log := log }
  record : ∀ w call,
    mayCall call → R w { w with trace := w.trace ++ [call] }
  window : ∀ w pages closed page profile,
    R w
      { w with
        pages := pages
        closed := closed
        page := page
        profile := profile }

/- Acts on a page also make the calls of a page. -/
structure PageFrame
    (mayCall : Call → Prop)
    (R : World → World → Prop) : Prop
    extends Frame mayCall R where
  ofPage : ∀ call, call.isOfPage = true → mayCall call

/- Actions move the clock besides. -/
structure ActionFrame
    (state : Path)
    (mayCall : Call → Prop)
    (R : World → World → Prop) : Prop
    extends PageFrame mayCall R where
  clock : ∀ w content,
    R w
      { w with
        files := (w.files.write (Clock.file state) content).2 }

end Play

/- Two worlds with the same files. -/
def World.SameFiles (w v : World) : Prop :=
  v.files = w.files

instance : IsPreorder World World.SameFiles where
  refl _ := rfl
  trans _ _ _ hFirst hSecond := Eq.trans hSecond hFirst

/- Two worlds whose files are on the same disk. -/
def World.SameDisk (w v : World) : Prop :=
  v.files.flaws = w.files.flaws

instance : IsPreorder World World.SameDisk where
  refl _ := rfl
  trans _ _ _ hFirst hSecond := Eq.trans hSecond hFirst

theorem World.SameDisk.isSound
    {w v : World}
    (hDisk : w.SameDisk v)
    (hSound : w.files.IsSound) :
    v.files.IsSound :=
  Eq.trans hDisk hSound

namespace Play

/- Actions do not wear out the disk. -/
theorem sameDisk_frame (state : Path) :
    ActionFrame state (fun _ => True) World.SameDisk where
  note _ _ := rfl
  record _ _ _ := rfl
  window _ _ _ _ _ := rfl
  clock w content := w.files.flaws_write _ content
  ofPage _ _ := trivial

/- No call, note or page is a file. -/
theorem sameFiles_frame :
    Frame (fun _ => True) World.SameFiles where
  note _ _ := rfl
  record _ _ _ := rfl
  window _ _ _ _ _ := rfl

section

variable {mayCall : Call → Prop}
variable {R : World → World → Prop}

/- A frame speaks of no log. -/
theorem Frame.note_staysIn
    (frame : Frame mayCall R)
    (level : Level)
    (source : String)
    (message : Text) :
    (Play.note level source message).StaysIn R :=
  fun w => frame.note w _

/- Calls of the kinds that a frame allows may be recorded. -/
theorem Frame.record_staysIn
    (frame : Frame mayCall R)
    (call : Call)
    (hCall : mayCall call) :
    (Play.record call).StaysIn R :=
  fun w => frame.record w call hCall

theorem PageFrame.ofPage_staysIn
    (frame : PageFrame mayCall R)
    (call : Call)
    (hCall : call.isOfPage = true) :
    (Play.record call).StaysIn R :=
  frame.record_staysIn call (frame.ofPage call hCall)

end

section

variable {R : World → World → Prop}
variable [IsPreorder World R]

theorem breakDown_staysIn
    (breakdown : Option Breakdown) :
    (breakDown breakdown).StaysIn R := by
  cases breakdown with
  | none =>
      exact StaysIn.pure ()
  | some breakdown =>
      exact StaysIn.throw breakdown.failure

theorem readText_staysIn
    (path : Path) :
    (readText path).StaysIn R := by
  intro w
  have hLeft : (readText path).left w = w := by
    unfold left
    rw [run_readText]
    cases w.files.read path with
    | error fault =>
        rfl
    | ok content =>
        cases hLines : content.lines <;> simp [hLines]
  rw [hLeft]
  exact refl_of R w

end

end Play

------------------------------------------------------------
-- Elements
------------------------------------------------------------

open Play

section Performing

variable {stage : Stage}
variable {mayCall : Call → Prop}
variable {R : World → World → Prop}
variable [IsPreorder World R]

/- To use what was located is one call of the page. -/
theorem Locator.use_staysIn
    (frame : PageFrame mayCall R)
    (locator : Locator)
    (method : Method)
    {call : Call}
    (hCall : call.isOfPage = true) :
    (locator.use method call).StaysIn R := by
  apply (frame.ofPage_staysIn call hCall).bind
  intro _
  cases locator.attempt method with
  | ok element =>
      exact StaysIn.pure element
  | error failure =>
      exact StaysIn.throw failure

/- A click changes the page and nothing else. -/
theorem Locator.click_staysIn
    (frame : PageFrame mayCall R)
    (locator : Locator) :
    locator.click.StaysIn R := by
  apply (locator.use_staysIn frame .click rfl).bind
  intro element
  cases element.clicked with
  | none =>
      exact StaysIn.pure ()
  | some effect =>
      exact fun w => frame.window w w.pages w.closed _ w.profile

theorem await_staysIn
    (frame : PageFrame mayCall R)
    (locator : Locator)
    (xpath : Text)
    (scope : Option Text) :
    (await stage.timeout locator xpath scope).StaysIn R := by
  refine
    (frame.ofPage_staysIn
      (.await locator.path stage.timeout) rfl).bind
        fun _ => ?_
  split
  · exact frame.note_staysIn _ _ _
  · exact StaysIn.throw _
  · exact StaysIn.throw _

/- To wait for an element does not change the page. -/
theorem locate_staysIn
    (frame : PageFrame mayCall R)
    (xpath : Text) :
    (locate stage.timeout xpath).StaysIn R :=
  StaysIn.get.bind fun _ =>
    (await_staysIn frame _ xpath none).bind fun _ =>
      StaysIn.pure _

theorem locateWithin_staysIn
    (frame : PageFrame mayCall R)
    (outer : Locator)
    (scope xpath : Text) :
    (locateWithin stage.timeout outer scope xpath).StaysIn
      R :=
  (await_staysIn frame _ xpath (some scope)).bind fun _ =>
    StaysIn.pure _

------------------------------------------------------------
-- Expectations
------------------------------------------------------------

/- To observe a page does not change it. -/
theorem observe_staysIn
    (frame : PageFrame mayCall R)
    (subject : Subject) :
    (observe stage.timeout subject).StaysIn R := by
  cases subject with
  | url =>
      exact StaysIn.get.bind fun w => StaysIn.pure w.page.url
  | title =>
      exact (frame.ofPage_staysIn .title rfl).bind fun _ =>
        StaysIn.get.bind fun w =>
          (breakDown_staysIn _).bind fun _ =>
            StaysIn.pure w.page.title
  | attributeValue xpath name =>
      apply (locate_staysIn frame xpath).bind
      intro locator
      apply (locator.use_staysIn frame .readAttribute rfl).bind
      intro element
      cases element.values.lookup name with
      | none =>
          exact StaysIn.throw _
      | some value =>
          exact StaysIn.pure value
  | text xpath name =>
      apply (locate_staysIn frame xpath).bind
      intro locator
      apply (locator.use_staysIn frame .readText rfl).bind
      intro element
      cases element.text with
      | none =>
          exact StaysIn.throw _
      | some value =>
          exact StaysIn.pure value

/- To compare what is observed enters a notice at most. -/
theorem expect_staysIn
    (frame : PageFrame mayCall R)
    (subject : Subject)
    (expected : Pattern.Compiled) :
    (expect stage subject expected).StaysIn R := by
  apply (observe_staysIn frame subject).bind
  intro actual
  cases expected.searchIn actual with
  | present =>
      exact frame.note_staysIn _ _ _
  | absent =>
      exact StaysIn.throw _
  | crossed =>
      exact StaysIn.throw _

------------------------------------------------------------
-- Forms
------------------------------------------------------------

/- An input is entered on the page alone. -/
theorem FormInput.enter_staysIn
    (frame : PageFrame mayCall R)
    (field : Locator)
    (input : FormInput) :
    (input.enter field).StaysIn R := by
  cases input with
  | text value =>
      exact (field.use_staysIn frame .fill rfl).map _
  | checkbox checked =>
      cases checked with
      | true =>
          exact (field.use_staysIn frame .check rfl).map _
      | false =>
          exact (field.use_staysIn frame .uncheck rfl).map _
  | radio value =>
      exact (field.use_staysIn frame .check rfl).map _
  | select value =>
      exact (field.use_staysIn frame .select rfl).map _
  | file files =>
      exact (field.use_staysIn frame .attach rfl).map _

/- So are all inputs of a form. -/
theorem fillForm_staysIn
    (frame : PageFrame mayCall R)
    (form : Locator)
    (scope : Text)
    (data : List (Text × FormInput)) :
    (fillForm stage form scope data).StaysIn R := by
  induction data with
  | nil =>
      exact StaysIn.pure ()
  | cons entry rest ih =>
      rcases entry with ⟨name, input⟩
      exact
        (locateWithin_staysIn frame form scope _).bind
          fun field =>
            (input.enter_staysIn frame field).bind fun _ => ih

/- So is a form with its button. -/
theorem submit_staysIn
    (frame : PageFrame mayCall R)
    (button form : Option Text)
    (data : List (Text × FormInput)) :
    (submit stage button form data).StaysIn R := by
  apply (locate_staysIn frame _).bind
  intro found
  apply (fillForm_staysIn frame found _ data).bind
  intro _
  cases button with
  | none =>
      exact (locateWithin_staysIn frame found _ _).bind
        fun control => control.click_staysIn frame
  | some location =>
      exact (locate_staysIn frame location).bind
        fun control => control.click_staysIn frame

------------------------------------------------------------
-- Actions
------------------------------------------------------------

/- How far an action moves the clock, if it does. -/
def Action.move? : Action → Option Int
  | .advance delta => some delta
  | _ => none

/- The only actions that move the time are advances. -/
theorem Action.eq_advance_of_move?
    {action : Action}
    {delta : Int}
    (hMove : action.move? = some delta) :
    action = .advance delta := by
  cases action <;> simp_all [move?]

/- A visit replaces the page and nothing else. -/
theorem visit_staysIn
    (frame : PageFrame mayCall R)
    (url : Text) :
    (visit url).StaysIn R :=
  (frame.ofPage_staysIn (.visit url) rfl).bind fun _ =>
    StaysIn.get.bind fun _ =>
      (breakDown_staysIn _).bind fun _ =>
        fun w => frame.window w w.pages w.closed _ w.profile

theorem Clock.read_staysIn
    (state : Path) :
    (Clock.read state).StaysIn R := by
  refine (readText_staysIn _).bind fun text => ?_
  split
  · exact StaysIn.pure _
  · exact StaysIn.throw _

/- An advance touches the file of the clock alone. -/
theorem Clock.advance_staysIn
    (frame : ActionFrame stage.state mayCall R)
    (delta : Int) :
    (Clock.advance stage.state delta).StaysIn R := by
  refine (Clock.read_staysIn stage.state).bind
    fun time => ?_
  dsimp only
  split
  · rename_i text _
    refine StaysIn.bind ?_ fun _ =>
      (frame.note_staysIn _ _ _).bind fun _ =>
        StaysIn.pure _
    intro w
    rw [writeText_ofString, left_write]
    exact frame.clock w (.text text)
  · exact (StaysIn.throw _).bind fun _ =>
      (frame.note_staysIn _ _ _).bind fun _ =>
        StaysIn.pure _

/- An action that leaves the clock alone only acts on a page. -/
theorem perform_staysIn_of_move?_eq_none
    (frame : PageFrame mayCall R)
    {action : Action}
    (hMove : action.move? = none) :
    (perform stage action).StaysIn R := by
  cases action with
  | visit url =>
      exact visit_staysIn frame url
  | click xpath =>
      exact (locate_staysIn frame xpath).bind
        fun locator => locator.click_staysIn frame
  | submit button form data =>
      exact submit_staysIn frame button form data
  | advance delta =>
      cases hMove
  | assertUrl expected =>
      exact expect_staysIn frame .url expected
  | assertTitle expected =>
      exact expect_staysIn frame .title expected
  | assertAttribute expected xpath name =>
      simp only [perform]
      cases Subject.attributeOf xpath name with
      | ok subject =>
          exact expect_staysIn frame subject expected
      | error rejection =>
          exact StaysIn.throw _
  | assertText expected xpath =>
      exact expect_staysIn frame (.text xpath none) expected

/-
  Performing an action stays in every relation that allows
  for what actions do.
-/
theorem perform_staysIn
    (frame : ActionFrame stage.state mayCall R)
    (action : Action) :
    (perform stage action).StaysIn R := by
  cases hMove : action.move? with
  | none =>
      exact perform_staysIn_of_move?_eq_none frame.toPageFrame
        hMove
  | some delta =>
      rw [Action.eq_advance_of_move? hMove]
      exact (Clock.advance_staysIn frame delta).map _

end Performing

end Replay
