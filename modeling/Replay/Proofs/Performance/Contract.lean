import Replay.Action.Performance
import Replay.Proofs.Pattern.Crossing
import Replay.Proofs.Play.Contract

/-
  This file proves what performing an action can end with:
  it fails in ways that the elements of the page allow for,
  and keeps to pages with such elements.

  Key definitions include:
    * `Failure.isOfAction`
    * `ElementFrame`
    * `Page.Holds`
    * `World.Stands`
    * `Action.IsUnnamed`
    * `Action.MayCross`

  Main results:
    * `Action.not_mayCross`
    * `perform_meets`
    * `perform_of_isUnnamed`
-/

------------------------------------------------------------
-- Pages
------------------------------------------------------------

namespace Replay

open Play

/- Does an action end with such a failure once it is begun? -/
def Failure.isOfAction : Failure → Bool
  | noElement _ _ => true
  | noAttribute _ _ => true
  | noText _ => true
  | mismatch _ _ _ => true
  | crossedGroup => true
  | browser _ => true
  | timeout _ => true
  | runtime _ => true
  | files _ => true
  | undecodable _ => true
  | integer _ => true
  | _ => false

/-
  Elements that only break down with failures that may be:
  so do the elements within them, and those that appear when
  one of them is clicked.  What an action finds wrong by
  itself may be, too.
-/
structure ElementFrame
    (mayFail : Failure → Prop)
    (Member : Element → Prop) : Prop where
  own : ∀ failure,
    failure.isOwn = true →
      failure.isOfAction = true → mayFail failure
  timeout : ∀ message, mayFail (.timeout message)
  breakdown : ∀ element,
    Member element →
      ∀ entry ∈ element.breakdowns, mayFail entry.2.failure
  child : ∀ element,
    Member element →
      ∀ entry ∈ element.children, ∀ inner ∈ entry.2, Member inner
  added : ∀ element,
    Member element →
      ∀ effect, element.clicked = some effect →
        ∀ entry ∈ effect.added, ∀ new ∈ entry.2, Member new

/- A page that has and gets such elements only. -/
structure Page.Holds
    (mayFail : Failure → Prop)
    (Member : Element → Prop)
    (page : Page) : Prop where
  elements :
    ∀ entry ∈ page.elements,
      ∀ element ∈ entry.2, Member element
  routes :
    ∀ route ∈ page.routes,
      ∀ entry ∈ route.2.added, ∀ element ∈ entry.2, Member element
  unreachable :
    ∀ entry ∈ page.unreachable, mayFail entry.2.failure
  title :
    ∀ breakdown,
      page.titleBreakdown = some breakdown →
        mayFail breakdown.failure

/- A world with such a page, and with files of some kind. -/
def World.Stands
    (mayFail : Failure → Prop)
    (Member : Element → Prop)
    (files : FileTree → Prop)
    (w : World) : Prop :=
  w.page.Holds mayFail Member ∧ files w.files

/- The act keeps to such worlds. -/
abbrev Play.Keeps
    {α : Type}
    (mayFail : Failure → Prop)
    (Member : Element → Prop)
    (files : FileTree → Prop)
    (act : Play α) : Prop :=
  act.Meets (World.Stands mayFail Member files)
    (fun _ => World.Stands mayFail Member files) mayFail

section

variable {mayFail : Failure → Prop}
variable {Member : Element → Prop}

/- What is looked up is an entry. -/
theorem mem_of_lookup
    {α β : Type}
    [BEq α] [LawfulBEq α]
    {entries : List (α × β)}
    {key : α}
    {value : β}
    (hLookup : entries.lookup key = some value) :
    (key, value) ∈ entries := by
  rcases List.lookup_eq_some_iff.mp hLookup with ⟨_, _, rfl, _⟩
  simp

/- The elements that match are among those that are listed. -/
theorem mem_of_mem_matching
    {listed : List (Text × List Element)}
    (hListed :
      ∀ entry ∈ listed, ∀ element ∈ entry.2, Member element)
    {selector : Text}
    {element : Element}
    (hElement : element ∈ matching listed selector) :
    Member element := by
  rcases List.mem_flatMap.mp hElement with ⟨entry, hEntry, hIn⟩
  exact hListed entry (List.mem_filter.mp hEntry).1 element hIn

/-
  What elements keep to is kept to after an effect that adds
  such elements.
-/
theorem Page.Holds.apply
    {page : Page}
    (hPage : page.Holds mayFail Member)
    {effect : Effect Element}
    (hAdded :
      ∀ entry ∈ effect.added,
        ∀ element ∈ entry.2, Member element) :
    (page.apply effect).Holds mayFail Member where
  elements := by
    intro entry hEntry
    rcases List.mem_append.mp hEntry with hOld | hNew
    · exact hPage.elements entry (List.mem_filter.mp hOld).1
    · exact hAdded entry hNew
  routes := hPage.routes
  unreachable := hPage.unreachable
  title := hPage.title

/- One effect after another. -/
theorem Page.Holds.foldl
    {routes : List (Text × Effect Element)}
    (hRoutes :
      ∀ route ∈ routes,
        ∀ entry ∈ route.2.added,
          ∀ element ∈ entry.2, Member element)
    {page : Page}
    (hPage : page.Holds mayFail Member) :
    (routes.foldl (fun page route => page.apply route.2)
      page).Holds mayFail Member := by
  induction routes generalizing page with
  | nil =>
      exact hPage
  | cons route rest ih =>
      rw [List.forall_mem_cons] at hRoutes
      exact ih hRoutes.2 (hPage.apply hRoutes.1)

theorem Page.Holds.opened
    {page : Page}
    (hPage : page.Holds mayFail Member)
    (url : Text) :
    (page.opened url).Holds mayFail Member := by
  have hHere :
      ({ page with url := url } : Page).Holds mayFail Member :=
    ⟨hPage.elements, hPage.routes, hPage.unreachable, hPage.title⟩
  refine Page.Holds.foldl (fun route hRoute => ?_) hHere
  exact hPage.routes route (List.mem_filter.mp hRoute).1

end

------------------------------------------------------------
-- Locators
------------------------------------------------------------

section Performing

variable {mayFail : Failure → Prop}
variable {Member : Element → Prop}
variable {files : FileTree → Prop}

theorem record_meets (call : Call) :
    (Play.record call).Keeps mayFail Member files :=
  Meets.change fun _ hStands => hStands

theorem note_meets
    (level : Level)
    (source : String)
    (message : Text) :
    (Play.note level source message).Keeps mayFail Member files :=
  Meets.change fun _ hStands => hStands

/- A breakdown fails in its own way. -/
theorem breakDown_meets
    {breakdown : Option Breakdown}
    (hBreakdown :
      ∀ found, breakdown = some found → mayFail found.failure) :
    (breakDown breakdown).Keeps mayFail Member files := by
  cases breakdown with
  | none =>
      exact Meets.pure fun _ hStands => hStands
  | some found =>
      exact Meets.throw (hBreakdown found rfl)

/- An act that looks at the page finds one that holds. -/
theorem ofPage_meets
    {α : Type}
    {after : α → World → Prop}
    (next : Page → Play α)
    (hNext :
      ∀ page,
        page.Holds mayFail Member →
          (next page).Meets (World.Stands mayFail Member files)
            after mayFail) :
    (do next (← get).page).Meets
      (World.Stands mayFail Member files) after mayFail :=
  fun w hStands => hNext w.page hStands.1 w hStands

/- What it leads to is one of the elements. -/
def Locator.Holds
    (Member : Element → Prop)
    (locator : Locator) : Prop :=
  ∀ element, locator.element = some element → Member element

/- What is located on a page is such an element. -/
theorem Locator.onPage_holds
    {page : Page}
    (hPage : page.Holds mayFail Member)
    (selector : Text) :
    (Locator.onPage page selector).Holds Member :=
  fun _ hFirst =>
    mem_of_mem_matching hPage.elements
      (List.mem_of_head? hFirst)

/- So is what is located within one. -/
theorem Locator.within_holds
    (frame : ElementFrame mayFail Member)
    {outer : Locator}
    (hOuter : outer.Holds Member)
    (selector : Text) :
    (outer.within selector).Holds Member := by
  intro element hInner
  rcases Option.bind_eq_some_iff.mp hInner with
    ⟨around, hAround, hFirst⟩
  exact mem_of_mem_matching
    (frame.child around (hOuter around hAround))
    (List.mem_of_head? hFirst)

/- So is what can be used. -/
theorem Locator.mem_of_attempt
    {locator : Locator}
    (hLocator : locator.Holds Member)
    {method : Method}
    {element : Element}
    (hAttempt : locator.attempt method = .ok element) :
    Member element := by
  unfold Locator.attempt at hAttempt
  split at hAttempt
  · cases hAttempt
  · rename_i found hFound
    split at hAttempt
    · cases hAttempt
    · cases hAttempt
      exact hLocator _ hFound

/- What cannot be used fails in an allowed way. -/
theorem Locator.mayFail_of_attempt
    (frame : ElementFrame mayFail Member)
    {locator : Locator}
    (hLocator : locator.Holds Member)
    {method : Method}
    {failure : Failure}
    (hAttempt : locator.attempt method = .error failure) :
    mayFail failure := by
  unfold Locator.attempt at hAttempt
  split at hAttempt
  · cases hAttempt
    exact frame.timeout _
  · rename_i found hFound
    split at hAttempt
    · rename_i breakdown hBreakdown
      cases hAttempt
      exact frame.breakdown found (hLocator found hFound)
        (method, breakdown) (mem_of_lookup hBreakdown)
    · cases hAttempt

/- To use an element fails in an allowed way, or gives one. -/
theorem Locator.use_meets
    (frame : ElementFrame mayFail Member)
    {locator : Locator}
    (hLocator : locator.Holds Member)
    (method : Method)
    (call : Call) :
    (locator.use method call).Meets
      (World.Stands mayFail Member files)
      (fun element w =>
        Member element ∧ World.Stands mayFail Member files w)
      mayFail := by
  refine (record_meets call).bind fun _ => ?_
  cases hAttempt : locator.attempt method with
  | ok element =>
      exact Meets.pure fun _ hStands =>
        ⟨Locator.mem_of_attempt hLocator hAttempt, hStands⟩
  | error failure =>
      exact Meets.throw
        (Locator.mayFail_of_attempt frame hLocator hAttempt)

theorem Locator.click_meets
    (frame : ElementFrame mayFail Member)
    {locator : Locator}
    (hLocator : locator.Holds Member) :
    locator.click.Keeps mayFail Member files := by
  refine (Locator.use_meets frame hLocator _ _).bind
    fun element => Meets.of_and fun hElement => ?_
  cases hClicked : element.clicked with
  | none =>
      exact Meets.pure fun _ hStands => hStands
  | some effect =>
      exact Meets.change fun _ hStands =>
        ⟨hStands.1.apply
          (frame.added element hElement effect hClicked),
          hStands.2⟩

------------------------------------------------------------
-- Finding Elements
------------------------------------------------------------

variable {stage : Stage}

theorem await_meets
    (frame : ElementFrame mayFail Member)
    {locator : Locator}
    (hLocator : locator.Holds Member)
    (timeout : Option Number.Binary64)
    (xpath : Text)
    (scope : Option Text) :
    (await timeout locator xpath scope).Keeps mayFail Member files := by
  refine (record_meets _).bind fun _ => ?_
  split
  · exact note_meets _ _ _
  · exact Meets.throw (frame.own _ rfl rfl)
  · rename_i failure _ hAttempt
    exact Meets.throw
      (Locator.mayFail_of_attempt frame hLocator hAttempt)

/-
  To wait for an element fails in an allowed way, or locates
  one.
-/
theorem locate_meets
    (frame : ElementFrame mayFail Member)
    (timeout : Option Number.Binary64)
    (xpath : Text) :
    (locate timeout xpath).Meets
      (World.Stands mayFail Member files)
      (fun locator w =>
        locator.Holds Member ∧
          World.Stands mayFail Member files w)
      mayFail :=
  ofPage_meets
    (fun page => do
      await timeout (Locator.onPage page xpath) xpath none
      return Locator.onPage page xpath)
    fun _ hPage =>
      (await_meets frame (Locator.onPage_holds hPage xpath) _ _
        _).bind fun _ => Meets.pure fun _ hStands =>
          ⟨Locator.onPage_holds hPage xpath, hStands⟩

theorem locateWithin_meets
    (frame : ElementFrame mayFail Member)
    {outer : Locator}
    (hOuter : outer.Holds Member)
    (timeout : Option Number.Binary64)
    (scope xpath : Text) :
    (locateWithin timeout outer scope xpath).Meets
      (World.Stands mayFail Member files)
      (fun locator w =>
        locator.Holds Member ∧
          World.Stands mayFail Member files w)
      mayFail :=
  (await_meets frame (Locator.within_holds frame hOuter xpath) _ _
    _).bind fun _ =>
      Meets.pure fun _ hStands =>
        ⟨Locator.within_holds frame hOuter xpath, hStands⟩

------------------------------------------------------------
-- Expectations
------------------------------------------------------------

/- To observe fails in an allowed way. -/
theorem observe_meets
    (frame : ElementFrame mayFail Member)
    (timeout : Option Number.Binary64)
    (subject : Subject) :
    (observe timeout subject).Keeps mayFail Member files := by
  cases subject with
  | url =>
      exact ofPage_meets (fun page => return page.url)
        fun _ _ => Meets.pure fun _ hStands => hStands
  | title =>
      exact (record_meets .title).bind fun _ =>
        ofPage_meets
          (fun page => do
            breakDown page.titleBreakdown
            return page.title)
          fun _ hPage => (breakDown_meets hPage.title).bind
            fun _ => Meets.pure fun _ hStands => hStands
  | attributeValue xpath name =>
      refine (locate_meets frame timeout xpath).bind
        fun locator => Meets.of_and fun hLocator => ?_
      refine (Locator.use_meets frame hLocator _ _).bind
        fun element => Meets.of_and fun _ => ?_
      split
      · exact Meets.pure fun _ hStands => hStands
      · exact Meets.throw (frame.own _ rfl rfl)
  | text xpath name =>
      refine (locate_meets frame timeout xpath).bind
        fun locator => Meets.of_and fun hLocator => ?_
      refine (Locator.use_meets frame hLocator _ _).bind
        fun element => Meets.of_and fun _ => ?_
      split
      · exact Meets.pure fun _ hStands => hStands
      · exact Meets.throw (frame.own _ rfl rfl)

/- So does a comparison, if the search may go wrong. -/
theorem expect_meets
    (frame : ElementFrame mayFail Member)
    (stage : Stage)
    (subject : Subject)
    {expected : Pattern.Compiled}
    (hSearch :
      (∃ text, expected.searchIn text = .crossed) →
        mayFail .crossedGroup) :
    (expect stage subject expected).Keeps mayFail Member files := by
  refine (observe_meets frame _ subject).bind fun actual => ?_
  cases hFinding : expected.searchIn actual with
  | present =>
      exact note_meets _ _ _
  | absent =>
      exact Meets.throw (frame.own _ rfl rfl)
  | crossed =>
      exact Meets.throw (hSearch ⟨actual, hFinding⟩)

------------------------------------------------------------
-- Forms
------------------------------------------------------------

/- So does an input. -/
theorem FormInput.enter_meets
    (frame : ElementFrame mayFail Member)
    {field : Locator}
    (hField : field.Holds Member)
    (input : FormInput) :
    (input.enter field).Keeps mayFail Member files := by
  have hUse
      (method : Method)
      (call : Call) :
      (discard (field.use method call)).Keeps mayFail Member
        files :=
    Meets.map
      ((Locator.use_meets frame hField method call).weaken
        (fun _ hStands => hStands) fun _ _ hBoth => hBoth.2)
  cases input with
  | checkbox checked =>
      cases checked <;> exact hUse _ _
  | _ => exact hUse _ _

/- So does a form. -/
theorem fillForm_meets
    (frame : ElementFrame mayFail Member)
    (stage : Stage)
    {form : Locator}
    (hForm : form.Holds Member)
    (scope : Text)
    (data : List (Text × FormInput)) :
    (fillForm stage form scope data).Keeps mayFail Member files := by
  induction data with
  | nil =>
      exact Meets.pure fun _ hStands => hStands
  | cons entry rest ih =>
      rcases entry with ⟨name, input⟩
      exact (locateWithin_meets frame hForm _ _ _).bind
        fun field => Meets.of_and fun hField =>
          (FormInput.enter_meets frame hField input).bind
            fun _ => ih

/- So does a form with its button. -/
theorem submit_meets
    (frame : ElementFrame mayFail Member)
    (stage : Stage)
    (button form : Option Text)
    (data : List (Text × FormInput)) :
    (submit stage button form data).Keeps mayFail Member files := by
  refine (locate_meets frame _ _).bind
    fun found => Meets.of_and fun hFound => ?_
  refine (fillForm_meets frame stage hFound _ data).bind
    fun _ => ?_
  cases button with
  | none =>
      exact (locateWithin_meets frame hFound _ _ _).bind
        fun control => Meets.of_and fun hControl =>
          Locator.click_meets frame hControl
  | some location =>
      exact (locate_meets frame _ location).bind
        fun control => Meets.of_and fun hControl =>
          Locator.click_meets frame hControl

------------------------------------------------------------
-- Actions
------------------------------------------------------------

/- So does a visit. -/
theorem visit_meets (url : Text) :
    (visit url).Keeps mayFail Member files := by
  refine (record_meets (.visit url)).bind fun _ =>
    ofPage_meets
      (fun page => do
        breakDown (page.unreachable.lookup url)
        modify fun w => { w with page := w.page.opened url })
      fun page hPage => ?_
  have hReach
      (breakdown : Breakdown)
      (hLookup : page.unreachable.lookup url = some breakdown) :
      mayFail breakdown.failure :=
    hPage.unreachable (url, breakdown) (mem_of_lookup hLookup)
  exact (breakDown_meets hReach).bind fun _ =>
    Meets.change fun _ hStands =>
      ⟨hStands.1.opened url, hStands.2⟩

end Performing

/- An assertion about an attribute that has no name. -/
def Action.IsUnnamed : Action → Prop
  | .assertAttribute _ _ name => name = ""
  | _ => False

/- The expression that an action searches for. -/
def Action.pattern? : Action → Option Pattern.Compiled
  | .assertUrl expected => some expected
  | .assertTitle expected => some expected
  | .assertAttribute expected _ _ => some expected
  | .assertText expected _ => some expected
  | _ => none

/- In some text a search for the expression goes wrong. -/
def Action.MayCross (action : Action) : Prop :=
  ∃ pattern text,
    action.pattern? = some pattern ∧
      pattern.searchIn text = .crossed

/- It does not if no group captures. -/
theorem Action.not_mayCross
    {action : Action}
    (hParts :
      ∀ pattern,
        action.pattern? = some pattern →
          Pattern.isGrouplessSequence pattern.expression.parts =
            true) :
    ¬action.MayCross := by
  rintro ⟨pattern, text, hPattern, hCrossed⟩
  exact Pattern.search_ne_crossed _ _ (hParts pattern hPattern) _
    hCrossed

/- What an action has to make of the files. -/
def Action.MovesFiles
    (mayFail : Failure → Prop)
    (Member : Element → Prop)
    (state : Path)
    (before after : FileTree → Prop) : Action → Prop
  | .advance delta =>
    (Clock.advance state delta).Meets
      (World.Stands mayFail Member before)
      (fun _ => World.Stands mayFail Member after) mayFail
  | _ => ∀ files, before files → after files

/-
  Performing an action that has a name where one is needed
  ends with a failure that may be, or keeps to the page.
-/
theorem perform_meets
    {mayFail : Failure → Prop}
    {Member : Element → Prop}
    (frame : ElementFrame mayFail Member)
    (stage : Stage)
    {before after : FileTree → Prop}
    {action : Action}
    (hNamed : ¬action.IsUnnamed)
    (hSearch : action.MayCross → mayFail .crossedGroup)
    (hFiles :
      action.MovesFiles mayFail Member stage.state before after) :
    (perform stage action).Meets
      (World.Stands mayFail Member before)
      (fun _ => World.Stands mayFail Member after) mayFail := by
  have hKeep
      {act : Play Unit}
      (hMeets :
        act.Keeps mayFail Member before)
      (hSame : ∀ files, before files → after files) :
      act.Meets (World.Stands mayFail Member before)
        (fun _ => World.Stands mayFail Member after) mayFail :=
    hMeets.weaken (fun _ hStands => hStands)
      fun _ w hStands => ⟨hStands.1, hSame w.files hStands.2⟩
  have hExpect
      (subject : Subject)
      {expected : Pattern.Compiled}
      (hPattern : action.pattern? = some expected) :
      (expect stage subject expected).Keeps mayFail Member before :=
    expect_meets frame stage subject fun ⟨text, hCrossed⟩ =>
      hSearch ⟨expected, text, hPattern, hCrossed⟩
  cases action with
  | visit url =>
      exact hKeep (visit_meets url) hFiles
  | click xpath =>
      exact hKeep
        ((locate_meets frame _ xpath).bind fun locator =>
          Meets.of_and fun hLocator =>
            Locator.click_meets frame hLocator) hFiles
  | submit button form data =>
      exact hKeep (submit_meets frame stage button form data) hFiles
  | advance delta =>
      exact Meets.map hFiles
  | assertUrl expected =>
      exact hKeep (hExpect .url rfl) hFiles
  | assertTitle expected =>
      exact hKeep (hExpect .title rfl) hFiles
  | assertAttribute expected xpath name =>
      have hSubject :
          Subject.attributeOf xpath name =
            .ok (.attributeValue xpath name) :=
        if_neg hNamed
      simp only [perform, hSubject]
      exact hKeep (hExpect (.attributeValue xpath name) rfl) hFiles
  | assertText expected xpath =>
      exact hKeep (hExpect (.text xpath none) rfl) hFiles

/- An assertion without a name is not even begun. -/
theorem perform_of_isUnnamed
    (stage : Stage)
    {action : Action}
    (hUnnamed : action.IsUnnamed)
    (w : World) :
    (perform stage action).run w =
      .error (.rejected (.faults [⟨[],
        .refused "attribute values need an attribute name"⟩]))
        w := by
  cases action with
  | assertAttribute expected xpath name =>
      cases hUnnamed
      rfl
  | _ => exact hUnnamed.elim

end Replay
