import Replay.Action.Performance
import Replay.Proofs.Play

/-
  This file proves that actions do the same in two worlds, as
  long as these differ only in what actions do not look at.

  Key definitions include:
    * `Page.Twins`
    * `World.Twins`
    * `Locator.Twin`

  Main results:
    * `Twins.locate_agrees`
    * `Twins.observe_agrees`
    * `Twins.submit_agrees`
    * `perform_agrees`
    * `perform_blind`

  What actions look at is a page: its address and title, the
  calls that break down, and the first element that matches.
-/

------------------------------------------------------------
-- Twins
------------------------------------------------------------

namespace Replay

open Number

/-
  What a relation between pages and one between elements have
  to keep, if actions are not to tell related ones apart.
-/
structure Page.Twins
    (P : Page → Page → Prop)
    (E : Element → Element → Prop) : Prop where
  text : ∀ {a b}, E a b → a.text = b.text
  values : ∀ {a b}, E a b → a.values = b.values
  clicked : ∀ {a b}, E a b → a.clicked = b.clicked
  breakdowns : ∀ {a b}, E a b → a.breakdowns = b.breakdowns
  child : ∀ {a b} selector, E a b →
    Option.Rel E (matching a.children selector).head?
      (matching b.children selector).head?
  url : ∀ {p q}, P p q → p.url = q.url
  title : ∀ {p q}, P p q → p.title = q.title
  titleBreakdown : ∀ {p q},
    P p q → p.titleBreakdown = q.titleBreakdown
  unreachable : ∀ {p q}, P p q → p.unreachable = q.unreachable
  first : ∀ {p q} selector, P p q →
    Option.Rel E (matching p.elements selector).head?
      (matching q.elements selector).head?
  apply : ∀ {p q} effect,
    P p q → P (p.apply effect) (q.apply effect)
  opened : ∀ {p q} url, P p q → P (p.opened url) (q.opened url)

/- The same for worlds, which have the same files. -/
structure World.Twins
    (R : World → World → Prop)
    (P : Page → Page → Prop)
    (E : Element → Element → Prop) : Prop
    extends Page.Twins P E where
  page : ∀ {w v}, R w v → P w.page v.page
  files : ∀ {w v}, R w v → w.files = v.files
  record : ∀ {w v} call, R w v →
    R { w with trace := w.trace ++ [call] }
      { v with trace := v.trace ++ [call] }
  note : ∀ {w v} notice, R w v →
    R { w with log := w.log ++ [notice] }
      { v with log := v.log ++ [notice] }
  write : ∀ {w v} files, R w v →
    R { w with files := files } { v with files := files }
  turn : ∀ {w v p q}, R w v → P p q →
    R { w with page := p } { v with page := q }

/- The same way to elements that are related, if any. -/
structure Locator.Twin
    (E : Element → Element → Prop)
    (l k : Locator) : Prop where
  path : l.path = k.path
  element : Option.Rel E l.element k.element

section

open Play

variable {R : World → World → Prop}
variable {P : Page → Page → Prop}
variable {E : Element → Element → Prop}

namespace World.Twins

------------------------------------------------------------
-- Single Acts
------------------------------------------------------------

theorem record_agrees
    (twins : World.Twins R P E)
    (call : Call) :
    Agrees R Eq (Play.record call) (Play.record call) :=
  Agrees.change fun _ _ hWorlds => twins.record call hWorlds

theorem note_agrees
    (twins : World.Twins R P E)
    (level : Level)
    (source : String)
    (message : Text) :
    Agrees R Eq (Play.note level source message)
      (Play.note level source message) :=
  Agrees.change fun _ _ hWorlds => twins.note _ hWorlds

/- What depends on the page alone. -/
theorem ofPage_agrees
    (twins : World.Twins R P E)
    {α : Type}
    {V : α → α → Prop}
    (next : Page → Play α)
    (hNext : ∀ p q, P p q → Agrees R V (next p) (next q)) :
    Agrees R V (get >>= fun w => next w.page)
      (get >>= fun w => next w.page) :=
  Agrees.get.bind fun w v hWorlds =>
    hNext w.page v.page (twins.page hWorlds)

/- Twins have the same files to read. -/
theorem readText_agrees
    (twins : World.Twins R P E)
    (path : Path) :
    Agrees R Eq (readText path) (readText path) := by
  intro w v hWorlds
  rw [run_readText, run_readText, twins.files hWorlds]
  split
  · exact .error hWorlds
  · split
    · exact .ok rfl hWorlds
    · exact .error hWorlds

/- After the same write they have the same files. -/
theorem write_agrees
    (twins : World.Twins R P E)
    (path : Path)
    (content : Content) :
    Agrees R Eq (Play.write path content)
      (Play.write path content) := by
  intro w v hWorlds
  rw [run_write, run_write, twins.files hWorlds]
  split
  · exact .ok rfl (twins.write _ hWorlds)
  · exact .error (twins.write _ hWorlds)

------------------------------------------------------------
-- Elements
------------------------------------------------------------

section

variable {l k : Locator}

/- Twins are both there for a call, or fail in the same way. -/
theorem attempt_twins
    (twins : World.Twins R P E)
    (hTwin : Locator.Twin E l k)
    (method : Method) :
    (∃ a b,
      E a b ∧
        l.attempt method = .ok a ∧
        k.attempt method = .ok b) ∨
      ∃ failure,
        l.attempt method = .error failure ∧
          k.attempt method = .error failure := by
  rcases l with ⟨path, element⟩
  rcases k with ⟨_, other⟩
  rcases hTwin with ⟨rfl, hElements⟩
  cases hElements with
  | none =>
      exact Or.inr ⟨_, rfl, rfl⟩
  | @some a b hRelated =>
      simp only [Locator.attempt,
        twins.breakdowns hRelated]
      cases b.breakdowns.lookup method with
      | none =>
          exact Or.inl ⟨a, b, hRelated, rfl, rfl⟩
      | some breakdown =>
          exact Or.inr ⟨_, rfl, rfl⟩

/- Twin elements can be used the same way. -/
theorem use_agrees
    (twins : World.Twins R P E)
    (hTwin : Locator.Twin E l k)
    (method : Method)
    (call : Call) :
    Agrees R E (l.use method call) (k.use method call) := by
  refine (twins.record_agrees call).bindEq fun _ => ?_
  rcases twins.attempt_twins hTwin method with
    ⟨a, b, hRelated, hFirst, hSecond⟩ | ⟨failure, hFirst, hSecond⟩
  · rw [hFirst, hSecond]
    exact Agrees.pure hRelated
  · rw [hFirst, hSecond]
    exact Agrees.throw failure

/- A click leaves twins, or fails on both pages. -/
theorem click_agrees
    (twins : World.Twins R P E)
    (hTwin : Locator.Twin E l k) :
    Agrees R Eq l.click k.click := by
  unfold Locator.click
  rw [hTwin.path]
  refine (twins.use_agrees hTwin _ _).bind fun a b hRelated => ?_
  rw [twins.clicked hRelated]
  split
  · exact Agrees.pure rfl
  · exact Agrees.change fun w v hWorlds =>
      twins.turn hWorlds (twins.apply _ (twins.page hWorlds))

theorem await_agrees
    (twins : World.Twins R P E)
    (hTwin : Locator.Twin E l k)
    (timeout : Option Binary64)
    (xpath : Text)
    (scope : Option Text) :
    Agrees R Eq (await timeout l xpath scope)
      (await timeout k xpath scope) := by
  unfold await
  rw [hTwin.path]
  refine (twins.record_agrees _).bindEq fun _ => ?_
  rcases twins.attempt_twins hTwin .await with
    ⟨a, b, _, hFirst, hSecond⟩ | ⟨failure, hFirst, hSecond⟩
  · rw [hFirst, hSecond]
    exact twins.note_agrees _ _ _
  · rw [hFirst, hSecond]
    split
    · exact twins.note_agrees _ _ _
    · exact Agrees.throw _
    · exact Agrees.throw _

/- What is waited for is found on both pages, or on none. -/
theorem locate_agrees
    (twins : World.Twins R P E)
    (timeout : Option Binary64)
    (xpath : Text) :
    Agrees R (Locator.Twin E) (locate timeout xpath)
      (locate timeout xpath) := by
  refine twins.ofPage_agrees
    (fun page => do
      await timeout (Locator.onPage page xpath) xpath none
      return Locator.onPage page xpath)
    fun p q hPages => ?_
  have hTwin :
      Locator.Twin E (Locator.onPage p xpath)
        (Locator.onPage q xpath) :=
    ⟨rfl, twins.first xpath hPages⟩
  exact (twins.await_agrees hTwin _ _ _).bindEq fun _ =>
    Agrees.pure hTwin

theorem locateWithin_agrees
    (twins : World.Twins R P E)
    (hTwin : Locator.Twin E l k)
    (timeout : Option Binary64)
    (scope xpath : Text) :
    Agrees R (Locator.Twin E)
      (locateWithin timeout l scope xpath)
      (locateWithin timeout k scope xpath) := by
  have hInner :
      Locator.Twin E (l.within xpath) (k.within xpath) := by
    rcases l with ⟨path, element⟩
    rcases k with ⟨_, other⟩
    rcases hTwin with ⟨rfl, hElements⟩
    refine ⟨rfl, ?_⟩
    cases hElements with
    | none =>
        exact .none
    | some hRelated =>
        exact twins.child xpath hRelated
  exact (twins.await_agrees hInner _ _ _).bindEq fun _ =>
    Agrees.pure hInner

end

------------------------------------------------------------
-- Expectations
------------------------------------------------------------

/- Twins show the same to an observer. -/
theorem observe_agrees
    (twins : World.Twins R P E)
    (timeout : Option Binary64)
    (subject : Subject) :
    Agrees R Eq (observe timeout subject)
      (observe timeout subject) := by
  cases subject with
  | url =>
      exact twins.ofPage_agrees (fun page => return page.url)
        fun p q hPages => Agrees.pure (twins.url hPages)
  | title =>
      refine (twins.record_agrees .title).bindEq fun _ => ?_
      refine twins.ofPage_agrees
        (fun page => do
          breakDown page.titleBreakdown
          return page.title)
        fun p q hPages => ?_
      rw [twins.titleBreakdown hPages, twins.title hPages]
      exact (Agrees.breakDown _).bindEq fun _ => Agrees.pure rfl
  | attributeValue xpath name =>
      refine (twins.locate_agrees timeout xpath).bind
        fun l k hTwin => ?_
      rw [hTwin.path]
      refine (twins.use_agrees hTwin _ _).bind
        fun a b hRelated => ?_
      rw [twins.values hRelated]
      split
      · exact Agrees.pure rfl
      · exact Agrees.throw _
  | text xpath name =>
      refine (twins.locate_agrees timeout xpath).bind
        fun l k hTwin => ?_
      rw [hTwin.path]
      refine (twins.use_agrees hTwin _ _).bind
        fun a b hRelated => ?_
      rw [twins.text hRelated]
      split
      · exact Agrees.pure rfl
      · exact Agrees.throw _

/- So the same is expected of both. -/
theorem expect_agrees
    (twins : World.Twins R P E)
    (stage : Stage)
    (subject : Subject)
    (expected : Pattern.Compiled) :
    Agrees R Eq (expect stage subject expected)
      (expect stage subject expected) := by
  refine (twins.observe_agrees stage.timeout subject).bindEq
    fun actual => ?_
  split
  · exact twins.note_agrees _ _ _
  · exact Agrees.throw _
  · exact Agrees.throw _

------------------------------------------------------------
-- Forms
------------------------------------------------------------

section

variable {l k : Locator}

/- An input leaves twins. -/
theorem enter_agrees
    (twins : World.Twins R P E)
    (hTwin : Locator.Twin E l k)
    (input : FormInput) :
    Agrees R Eq (input.enter l) (input.enter k) := by
  have hUse
      (method : Method)
      (call : Call) :
      Agrees R Eq (discard (l.use method call))
        (discard (k.use method call)) :=
    (twins.use_agrees hTwin method call).map fun _ _ _ => rfl
  unfold FormInput.enter
  rw [hTwin.path]
  cases input with
  | checkbox checked =>
      cases checked <;> exact hUse _ _
  | _ =>
      exact hUse _ _

/- The fields are entered one after another. -/
theorem fillForm_agrees
    (twins : World.Twins R P E)
    (hTwin : Locator.Twin E l k)
    (stage : Stage)
    (scope : Text)
    (data : List (Text × FormInput)) :
    Agrees R Eq (fillForm stage l scope data)
      (fillForm stage k scope data) := by
  induction data with
  | nil =>
      exact Agrees.pure rfl
  | cons entry rest ih =>
      rcases entry with ⟨name, input⟩
      exact (twins.locateWithin_agrees hTwin _ _ _).bind
        fun _ _ hField =>
          (twins.enter_agrees hField input).bindEq fun _ => ih

end

/- So does a form with its button. -/
theorem submit_agrees
    (twins : World.Twins R P E)
    (stage : Stage)
    (button form : Option Text)
    (data : List (Text × FormInput)) :
    Agrees R Eq (submit stage button form data)
      (submit stage button form data) := by
  refine (twins.locate_agrees _ _).bind fun l k hTwin => ?_
  refine (twins.fillForm_agrees hTwin stage _ data).bindEq
    fun _ => ?_
  cases button with
  | none =>
      exact (twins.locateWithin_agrees hTwin _ _ _).bind
        fun _ _ hControl => twins.click_agrees hControl
  | some location =>
      exact (twins.locate_agrees _ location).bind
        fun _ _ hControl => twins.click_agrees hControl

------------------------------------------------------------
-- Actions
------------------------------------------------------------

/- A visit leads both to twin pages. -/
theorem visit_agrees
    (twins : World.Twins R P E)
    (url : Text) :
    Agrees R Eq (visit url) (visit url) := by
  refine (twins.record_agrees (.visit url)).bindEq fun _ => ?_
  refine twins.ofPage_agrees
    (fun page => do
      breakDown (page.unreachable.lookup url)
      modify fun w => { w with page := w.page.opened url })
    fun p q hPages => ?_
  rw [twins.unreachable hPages]
  refine (Agrees.breakDown _).bindEq fun _ => ?_
  exact Agrees.change fun w v hWorlds =>
    twins.turn hWorlds (twins.opened url (twins.page hWorlds))

/- The clock of twins is the same one. -/
theorem advance_agrees
    (twins : World.Twins R P E)
    (state : Path)
    (delta : Int) :
    Agrees R Eq (Clock.advance state delta)
      (Clock.advance state delta) := by
  have hRead :
      Agrees R Eq (Clock.read state) (Clock.read state) := by
    refine (twins.readText_agrees _).bindEq fun text => ?_
    split
    · exact Agrees.pure rfl
    · exact Agrees.throw _
  refine hRead.bindEq fun time => ?_
  dsimp only
  split
  · rw [Play.writeText_ofString]
    exact (twins.write_agrees _ _).bindEq fun _ =>
      (twins.note_agrees _ _ _).bindEq fun _ => Agrees.pure rfl
  · exact (Agrees.throw _).bindEq fun _ =>
      (twins.note_agrees _ _ _).bindEq fun _ => Agrees.pure rfl

end World.Twins

/- An action does the same in worlds that are twins. -/
theorem perform_agrees
    (twins : World.Twins R P E)
    (stage : Stage)
    (action : Action) :
    Agrees R Eq (perform stage action) (perform stage action) := by
  cases action with
  | visit url =>
      exact twins.visit_agrees url
  | click xpath =>
      exact (twins.locate_agrees _ xpath).bind
        fun _ _ hTwin => twins.click_agrees hTwin
  | submit button form data =>
      exact twins.submit_agrees stage button form data
  | advance delta =>
      exact (twins.advance_agrees stage.state delta).map
        fun _ _ _ => rfl
  | assertUrl expected =>
      exact twins.expect_agrees stage .url expected
  | assertTitle expected =>
      exact twins.expect_agrees stage .title expected
  | assertAttribute expected xpath name =>
      simp only [perform]
      split
      · exact twins.expect_agrees stage _ expected
      · exact Agrees.throw _
  | assertText expected xpath =>
      exact twins.expect_agrees stage _ expected

end

------------------------------------------------------------
-- The Log
------------------------------------------------------------

/- Nothing differs from itself, if no value does. -/
theorem rel_self
    {α : Type}
    {r : α → α → Prop}
    (hSelf : ∀ x, r x x)
    (x : Option α) :
    Option.Rel r x x := by
  cases x with
  | none =>
      exact .none
  | some x =>
      exact .some (hSelf x)

/- Pages and elements do not differ from themselves. -/
theorem Page.eq_twins :
    Page.Twins Eq Eq where
  text := congrArg _
  values := congrArg _
  clicked := congrArg _
  breakdowns := congrArg _
  child selector hSame := by
    subst hSame
    exact rel_self Eq.refl _
  url := congrArg _
  title := congrArg _
  titleBreakdown := congrArg _
  unreachable := congrArg _
  first selector hSame := by
    subst hSame
    exact rel_self Eq.refl _
  apply effect hSame := congrArg (Page.apply · effect) hSame
  opened url hSame := congrArg (Page.opened · url) hSame

/- Worlds that differ in their logs at most are twins. -/
theorem World.alike_twins :
    World.Twins World.Alike Eq Eq where
  toTwins := Page.eq_twins
  page := World.Alike.page
  files := World.Alike.files
  record call hAlike :=
    hAlike.map
      (fun u => { u with trace := u.trace ++ [call] })
      fun _ => World.Alike.rfl
  note notice hAlike :=
    hAlike.map
      (fun u => { u with log := u.log ++ [notice] })
      fun _ => World.Alike.rfl
  write files hAlike :=
    hAlike.map (fun u => { u with files := files })
      fun _ => World.Alike.rfl
  turn hAlike hSame := by
    subst hSame
    exact hAlike.map (fun u => { u with page := _ })
      fun _ => World.Alike.rfl

/- No action reads the log. -/
theorem perform_blind
    (stage : Stage)
    (action : Action) :
    (perform stage action).Blind :=
  perform_agrees World.alike_twins stage action

end Replay
