import Replay.Action.Performance
import Replay.Proofs.Performance
import Replay.Proofs.Performance.Contract

/-
  This file describes what an action does on a page by a
  script: the calls that it makes, one after another, until
  one of them breaks down.

  Key definitions include:
    * `Page.elementAt?`
    * `Page.answer`
    * `Page.made`
    * `Page.failure?`
    * `Play.Follows`
    * `Action.script`
    * `Action.ending`

  Main results:
    * `Play.Follows.of_call`
    * `Play.Follows.bind`
    * `perform_follows`

  Only the last call of a script may change the page.  So all
  calls of a script are asked of the page as it was at first.
-/

------------------------------------------------------------
-- Answers to Calls
------------------------------------------------------------

namespace Replay

open Number Play

/- What a page says to a call. -/
inductive Answer where
  | breaks (failure : Failure)
  | done
  | gives (value : Option Text)
  deriving DecidableEq, Repr

/- The element that selectors lead to, each within the last. -/
def Page.elementAt?
    (page : Page) :
    List Text → Option Element
  | [] => none
  | selector :: inner =>
    inner.foldl
      (fun outer selector => outer.bind fun element =>
        (matching element.children selector).head?)
      (matching page.elements selector).head?

/- What a call does with an element, and which one it is. -/
def Call.target? : Call → Option (Method × List Text)
  | .await path _ => some (.await, path)
  | .click path => some (.click, path)
  | .fill path _ => some (.fill, path)
  | .check path => some (.check, path)
  | .uncheck path => some (.uncheck, path)
  | .select path _ => some (.select, path)
  | .attach path _ => some (.attach, path)
  | .readAttribute path _ => some (.readAttribute, path)
  | .readText path => some (.readText, path)
  | _ => none

/- What an element says to a call that does not break down. -/
def Call.reading
    (element : Element) : Call → Answer
  | .readAttribute _ name => .gives (element.values.lookup name)
  | .readText _ => .gives element.text
  | _ => .done

/- What a page says to a call that is to no element. -/
def Page.ownAnswer
    (page : Page) : Call → Answer
  | .visit url =>
    match page.unreachable.lookup url with
    | some breakdown => .breaks breakdown.failure
    | none => .done
  | .title =>
    match page.titleBreakdown with
    | some breakdown => .breaks breakdown.failure
    | none => .gives (some page.title)
  | _ => .done

/- What a page says to a call. -/
def Page.answer
    (page : Page)
    (call : Call) : Answer :=
  match call.target? with
  | none => page.ownAnswer call
  | some (method, path) =>
    match Locator.attempt ⟨path, page.elementAt? path⟩ method with
    | .error failure => .breaks failure
    | .ok element => call.reading element

/-
  The last selector of a path is looked up among the
  children.
-/
theorem Page.elementAt?_append
    (page : Page)
    {path : List Text}
    (hPath : path ≠ [])
    (selector : Text) :
    page.elementAt? (path ++ [selector]) =
      (page.elementAt? path).bind fun element =>
        (matching element.children selector).head? := by
  cases path with
  | nil =>
      exact absurd rfl hPath
  | cons first inner =>
      simp [elementAt?]

/- A call with a target is answered by the element there. -/
theorem Page.answer_of_target
    (page : Page)
    {call : Call}
    {method : Method}
    {path : List Text}
    (hTarget : call.target? = some (method, path)) :
    page.answer call =
      match Locator.attempt ⟨path, page.elementAt? path⟩ method with
      | .error failure => .breaks failure
      | .ok element => call.reading element := by
  simp only [answer, hTarget]

theorem Locator.element_of_attempt
    {locator : Locator}
    {method : Method}
    {element : Element}
    (hAttempt : locator.attempt method = .ok element) :
    locator.element = some element := by
  unfold Locator.attempt at hAttempt
  split at hAttempt
  · cases hAttempt
  · rename_i found hFound
    split at hAttempt
    · cases hAttempt
    · cases hAttempt
      exact hFound

/- What is read of an element is no breakdown. -/
theorem Call.reading_ne_breaks
    (element : Element)
    (call : Call)
    (failure : Failure) :
    call.reading element ≠ .breaks failure := by
  cases call <;> simp [reading]

/- How a call breaks down, if it does. -/
def Page.breakdown?
    (page : Page)
    (call : Call) : Option Failure :=
  match page.answer call with
  | .breaks failure => some failure
  | _ => none

/-
  How the breakdown of a call is reported.  Waiting in vain
  is told as an element that is missing, by its selector and
  by the one that it was searched within.
-/
def Call.report : Call → Failure → Failure
  | .await path _, .timeout _ =>
    .noElement (path.getLastD "") path.dropLast.getLast?
  | _, failure => failure

/- The calls of a script, up to the first that breaks down. -/
def Page.made
    (page : Page) : List Call → List Call
  | [] => []
  | call :: rest =>
    match page.breakdown? call with
    | some _ => [call]
    | none => call :: page.made rest

/- What is reported of the first call that breaks down. -/
def Page.failure?
    (page : Page) : List Call → Option Failure
  | [] => none
  | call :: rest =>
    match page.breakdown? call with
    | some failure => some (call.report failure)
    | none => page.failure? rest

section

variable {page : Page}
variable {script : List Call}

@[simp] theorem Page.made_nil :
    page.made [] = [] := rfl

theorem Page.made_cons
    (call : Call)
    (rest : List Call) :
    page.made (call :: rest) =
      match page.breakdown? call with
      | some _ => [call]
      | none => call :: page.made rest := rfl

theorem Page.failure?_cons
    (call : Call)
    (rest : List Call) :
    page.failure? (call :: rest) =
      match page.breakdown? call with
      | some failure => some (call.report failure)
      | none => page.failure? rest := rfl

/- A call breaks down exactly if that is its answer. -/
theorem Page.breakdown?_eq_some_iff
    {call : Call}
    {failure : Failure} :
    page.breakdown? call = some failure ↔
      page.answer call = .breaks failure := by
  unfold breakdown?
  cases page.answer call <;> simp

/-
  The first failure of two scripts is that of the first one,
  or else that of the second.
-/
theorem Page.failure?_append
    (page : Page)
    (script more : List Call) :
    page.failure? (script ++ more) =
      (page.failure? script).or (page.failure? more) := by
  induction script with
  | nil =>
      rfl
  | cons call rest ih =>
      simp only [List.cons_append, failure?_cons]
      cases page.breakdown? call with
      | some failure =>
          rfl
      | none =>
          exact ih

/- What follows a script is done only if no call breaks down. -/
theorem Page.made_append
    (page : Page)
    (script more : List Call) :
    page.made (script ++ more) =
      match page.failure? script with
      | some _ => page.made script
      | none => script ++ page.made more := by
  induction script with
  | nil =>
      rfl
  | cons call rest ih =>
      simp only [List.cons_append, made_cons, failure?_cons]
      cases page.breakdown? call with
      | some failure =>
          rfl
      | none =>
          simp only [ih]
          cases page.failure? rest <;> rfl

/- A script breaks down at the last call that is made. -/
theorem Page.exists_of_failure?
    {reported : Failure}
    (hFailure : page.failure? script = some reported) :
    ∃ front call failure,
      page.made script = front ++ [call] ∧
        (∀ earlier ∈ front, page.breakdown? earlier = none) ∧
        call ∈ script ∧
        page.answer call = .breaks failure ∧
        reported = call.report failure := by
  induction script with
  | nil =>
      cases hFailure
  | cons call rest ih =>
      rw [failure?_cons] at hFailure
      cases hCall : page.breakdown? call with
      | some failure =>
          simp only [hCall, Option.some.injEq] at hFailure
          refine ⟨[], call, failure, ?_, ?_, ?_, ?_, ?_⟩
          · simp [made_cons, hCall]
          · simp
          · exact List.mem_cons_self
          · exact breakdown?_eq_some_iff.mp hCall
          · exact hFailure.symm
      | none =>
          simp only [hCall] at hFailure
          rcases ih hFailure with
            ⟨front, last, failure, hFront, hEarlier, hIn, hLast⟩
          refine ⟨call :: front, last, failure, ?_, ?_, ?_, hLast⟩
          · simp [made_cons, hCall, hFront]
          · exact List.forall_mem_cons.mpr ⟨hCall, hEarlier⟩
          · exact List.mem_cons_of_mem call hIn

/- Then none of its calls breaks down. -/
theorem Page.breakdown?_of_failure?_eq_none
    (hNone : page.failure? script = none)
    {call : Call}
    (hCall : call ∈ script) :
    page.breakdown? call = none := by
  rcases List.append_of_mem hCall with ⟨front, rest, rfl⟩
  rw [failure?_append, Option.or_eq_none_iff] at hNone
  cases hBreaks : page.breakdown? call with
  | some failure =>
      simp [failure?_cons, hBreaks] at hNone
  | none =>
      rfl

end

------------------------------------------------------------
-- Acts That Follow a Script
------------------------------------------------------------

/- A world after some calls and notes, with a page. -/
def World.called
    (w : World)
    (calls : List Call)
    (log : List Notice)
    (page : Page) : World :=
  { w with trace := w.trace ++ calls, log := log, page := page }

/- The end of a script, unless a call breaks down before. -/
def Page.endOf
    {α : Type}
    (page : Page)
    (script : List Call)
    (ending : Except Failure α) : Except Failure α :=
  match page.failure? script with
  | some failure => .error failure
  | none => ending

@[simp] theorem Page.endOf_nil
    {α : Type}
    (page : Page)
    (ending : Except Failure α) :
    page.endOf [] ending = ending := rfl

/-
  A script ends where its first call breaks down, or as the
  rest of it.
-/
theorem Page.endOf_cons
    {α : Type}
    (page : Page)
    (call : Call)
    (rest : List Call)
    (ending : Except Failure α) :
    page.endOf (call :: rest) ending =
      match page.breakdown? call with
      | some failure => .error (call.report failure)
      | none => page.endOf rest ending := by
  unfold endOf
  rw [failure?_cons]
  cases page.breakdown? call <;> rfl

/-
  On the given page, an act makes the calls of a script until
  one of them breaks down.  If none does, the act comes to
  its ending.  A failure leaves the page as it was, and
  success leaves the page that is given for after it.
-/
def Play.Follows
    {α : Type}
    (page : Page)
    (script : List Call)
    (ending : Except Failure α)
    (after : Page)
    (act : Play α) : Prop :=
  ∀ w,
    w.page = page →
      ∃ log,
        act.run w =
          match page.endOf script ending with
          | .ok value => .ok value (w.called script log after)
          | .error failure =>
            .error failure (w.called (page.made script) log page)

namespace Play

namespace Follows

variable {α β : Type}
variable {page after : Page}
variable {script more : List Call}
variable {ending : Except Failure β}

theorem pure (value : α) :
    (Pure.pure value : Play α).Follows page [] (.ok value)
      page := by
  intro w hPage
  subst hPage
  refine ⟨w.log, ?_⟩
  change EStateM.Result.ok value w = _
  simp [World.called]

/- A failure follows no calls. -/
theorem throw (failure : Failure) :
    (MonadExcept.throw failure : Play α).Follows page []
      (.error failure) after := by
  intro w hPage
  subst hPage
  refine ⟨w.log, ?_⟩
  change EStateM.Result.error failure w = _
  simp [World.called]

/- A notice follows no calls. -/
theorem note
    (level : Level)
    (source : String)
    (message : Text) :
    (Play.note level source message).Follows page [] (.ok ())
      page := by
  intro w hPage
  subst hPage
  refine ⟨w.log ++ [⟨level, source, message⟩], ?_⟩
  rw [run_note]
  simp [World.called]

/- An act that makes one call, and succeeds if it does. -/
theorem of_call
    {act : Play β}
    {call : Call}
    {value : β}
    (hRun :
      ∀ w,
        w.page = page →
          ∃ log,
            act.run w =
              match page.breakdown? call with
              | none => .ok value (w.called [call] log after)
              | some failure =>
                .error (call.report failure)
                  (w.called [call] log page)) :
    act.Follows page [call] (.ok value) after := by
  intro w hPage
  rcases hRun w hPage with ⟨log, hAct⟩
  refine ⟨log, ?_⟩
  rw [hAct, Page.endOf_cons, Page.made_cons]
  cases page.breakdown? call <;> rfl

/- What acts do on the page that they look at. -/
theorem get
    {next : World → Play β}
    (hNext :
      ∀ w, w.page = page →
        (next w).Follows page script ending after) :
    (MonadState.get >>= next).Follows page script ending
      after :=
  fun w hPage => hNext w hPage w hPage

/- One script after another, on the page that the first left. -/
theorem bind
    {act : Play α}
    {next : α → Play β}
    {value : α}
    (hAct : act.Follows page script (.ok value) page)
    (hNext : (next value).Follows page more ending after) :
    (act >>= next).Follows page (script ++ more) ending
      after := by
  intro w hPage
  rcases hAct w hPage with ⟨log, hRun⟩
  cases hFailure : page.failure? script with
  | some failure =>
      refine ⟨log, ?_⟩
      simp only [Page.endOf, hFailure] at hRun
      rw [EStateM.run_bind, hRun]
      simp only [Page.endOf, Page.failure?_append,
        Page.made_append, hFailure, Option.some_or]
  | none =>
      simp only [Page.endOf, hFailure] at hRun
      rcases hNext (w.called script log page) rfl with
        ⟨last, hMore⟩
      refine ⟨last, ?_⟩
      have hEnd :
          page.endOf (script ++ more) ending =
            page.endOf more ending := by
        simp only [Page.endOf, Page.failure?_append, hFailure,
          Option.none_or]
      have hMade :
          page.made (script ++ more) =
            script ++ page.made more := by
        simp only [Page.made_append, hFailure]
      rw [EStateM.run_bind, hRun]
      dsimp only
      rw [hMore, hEnd, hMade]
      cases page.endOf more ending with
      | ok value =>
          simp [World.called]
      | error failure =>
          simp [World.called]

end Follows

end Play

------------------------------------------------------------
-- Elements
------------------------------------------------------------

/- A locator that leads to what is on a page. -/
structure Locator.IsOn
    (page : Page)
    (locator : Locator) : Prop where
  path : locator.path ≠ []
  element : locator.element = page.elementAt? locator.path

theorem Locator.onPage_isOn
    (page : Page)
    (selector : Text) :
    (Locator.onPage page selector).IsOn page where
  path := List.cons_ne_nil _ _
  element := rfl

theorem Locator.within_isOn
    {page : Page}
    {outer : Locator}
    (hOuter : outer.IsOn page)
    (selector : Text) :
    (outer.within selector).IsOn page where
  path := by
    simp [within]
  element := by
    simp only [within]
    rw [page.elementAt?_append hOuter.path, hOuter.element]

section Performing

variable {page : Page}

/- The page says to a call what an attempt of it comes to. -/
theorem Locator.answer_of_isOn
    {locator : Locator}
    (hOn : locator.IsOn page)
    {call : Call}
    {method : Method}
    (hTarget : call.target? = some (method, locator.path)) :
    page.answer call =
      match locator.attempt method with
      | .error failure => .breaks failure
      | .ok element => call.reading element := by
  rw [page.answer_of_target hTarget, ← hOn.element]

/- An element is used after the call is recorded. -/
theorem Locator.run_use
    (locator : Locator)
    (method : Method)
    (call : Call)
    (w : World) :
    (locator.use method call).run w =
      match locator.attempt method with
      | .ok element =>
        .ok element { w with trace := w.trace ++ [call] }
      | .error failure =>
        .error failure { w with trace := w.trace ++ [call] } := by
  unfold Locator.use
  rw [EStateM.run_bind, run_record]
  cases locator.attempt method <;> rfl

/- A call to an element, and what follows if it is answered. -/
theorem Locator.use_follows
    {α : Type}
    {locator : Locator}
    (hOn : locator.IsOn page)
    {call : Call}
    {method : Method}
    (hTarget : call.target? = some (method, locator.path))
    (hReport : ∀ failure, call.report failure = failure)
    {next : Element → Play α}
    {more : List Call}
    {ending : Except Failure α}
    {after : Page}
    (hNext :
      ∀ element,
        page.elementAt? locator.path = some element →
          page.answer call = call.reading element →
            (next element).Follows page more ending after) :
    (locator.use method call >>= next).Follows page
      (call :: more) ending after := by
  intro w hPage
  have hAnswer := locator.answer_of_isOn hOn hTarget
  rw [EStateM.run_bind, Locator.run_use]
  cases hAttempt : locator.attempt method with
  | error failure =>
      have hBreaks : page.breakdown? call = some failure := by
        rw [Page.breakdown?_eq_some_iff, hAnswer, hAttempt]
      refine ⟨w.log, ?_⟩
      subst hPage
      simp [Page.endOf_cons, Page.made_cons, hBreaks, hReport,
        World.called]
  | ok element =>
      have hReading : page.answer call = call.reading element := by
        rw [hAnswer, hAttempt]
      have hNone : page.breakdown? call = none := by
        cases hBreaks : page.breakdown? call with
        | none =>
            rfl
        | some failure =>
            rw [Page.breakdown?_eq_some_iff, hReading] at hBreaks
            exact absurd hBreaks (Call.reading_ne_breaks _ _ _)
      have hFound :
          page.elementAt? locator.path = some element := by
        rw [← hOn.element]
        exact locator.element_of_attempt hAttempt
      rcases hNext element hFound hReading
          { w with trace := w.trace ++ [call] } hPage with
        ⟨log, hRun⟩
      refine ⟨log, ?_⟩
      dsimp only
      rw [hRun]
      simp only [Page.endOf_cons, Page.made_cons, hNone]
      cases page.endOf more ending <;> simp [World.called]

/- A call whose answer does not matter. -/
theorem Locator.use_discard_follows
    {locator : Locator}
    (hOn : locator.IsOn page)
    {call : Call}
    {method : Method}
    (hTarget : call.target? = some (method, locator.path))
    (hReport : ∀ failure, call.report failure = failure) :
    (discard (locator.use method call)).Follows page [call]
      (.ok ()) page := by
  have hDiscard :
      discard (locator.use method call) =
        locator.use method call >>= fun _ => pure () :=
    (bind_pure_comp (fun _ => ()) (locator.use method call)).symm
  rw [hDiscard]
  exact locator.use_follows hOn hTarget hReport
    fun _ _ _ => Follows.pure ()

/- What a page becomes by a click on what selectors lead to. -/
def Page.clicked
    (page : Page)
    (path : List Text) : Page :=
  match (page.elementAt? path).bind Element.clicked with
  | none => page
  | some effect => page.apply effect

/- A click is one call, and the page is clicked. -/
theorem Locator.click_follows
    {locator : Locator}
    (hOn : locator.IsOn page) :
    locator.click.Follows page [.click locator.path] (.ok ())
      (page.clicked locator.path) := by
  apply locator.use_follows hOn rfl fun _ => rfl
  intro element hFound _
  unfold Page.clicked
  rw [hFound]
  dsimp only [Option.bind_some]
  cases element.clicked with
  | none =>
      exact Follows.pure ()
  | some effect =>
      intro w hPage
      subst hPage
      refine ⟨w.log, ?_⟩
      change EStateM.Result.ok () _ = _
      simp [World.called]

------------------------------------------------------------
-- Finding Elements
------------------------------------------------------------

theorem await_follows
    {locator : Locator}
    (hOn : locator.IsOn page)
    (timeout : Option Binary64)
    (xpath : Text)
    (scope : Option Text)
    (hPath : locator.path = scope.toList ++ [xpath]) :
    (await timeout locator xpath scope).Follows page
      [.await locator.path timeout] (.ok ()) page := by
  have hTarget :
      (Call.await locator.path timeout).target? =
        some (.await, locator.path) := rfl
  have hAnswer := locator.answer_of_isOn hOn hTarget
  apply Follows.of_call
  intro w hPage
  subst hPage
  unfold await Page.breakdown?
  rw [EStateM.run_bind, run_record, hAnswer]
  dsimp only
  cases locator.attempt .await with
  | ok element =>
      refine ⟨w.log ++ [⟨.debug, "netero.resolver.resolver",
        "Resolved " ++ xpath⟩], ?_⟩
      dsimp only
      rw [run_note]
      rfl
  | error failure =>
      have hNames :
          locator.path.getLast? = some xpath ∧
            locator.path.dropLast.getLast? = scope := by
        rw [hPath]
        cases scope <;> simp
      refine ⟨w.log, ?_⟩
      cases failure with
      | timeout message =>
          simp [Call.report, hNames.1, hNames.2, World.called]
      | _ => rfl

/- An element is waited for with one call. -/
theorem locate_follows
    (page : Page)
    (timeout : Option Binary64)
    (xpath : Text) :
    (locate timeout xpath).Follows page
      [.await [xpath] timeout]
      (.ok (Locator.onPage page xpath)) page := by
  apply Follows.get
  intro w hPage
  rw [hPage]
  have hAwait :=
    await_follows (Locator.onPage_isOn page xpath) timeout xpath
      none rfl
  exact hAwait.bind (Follows.pure _)

/- So is an element within another one. -/
theorem locateWithin_follows
    {outer : Locator}
    (hOuter : outer.IsOn page)
    (timeout : Option Binary64)
    {scope : Text}
    (hScope : outer.path = [scope])
    (xpath : Text) :
    (locateWithin timeout outer scope xpath).Follows page
      [.await [scope, xpath] timeout]
      (.ok (outer.within xpath)) page := by
  have hPath : (outer.within xpath).path = [scope, xpath] := by
    simp [Locator.within, hScope]
  have hAwait :=
    await_follows (outer.within_isOn hOuter xpath) timeout xpath
      (some scope) hPath
  rw [hPath] at hAwait
  exact hAwait.bind (Follows.pure _)

------------------------------------------------------------
-- Observing
------------------------------------------------------------

/- The calls by which a subject is observed. -/
def Subject.script
    (timeout : Option Binary64) : Subject → List Call
  | .url => []
  | .title => [.title]
  | .attributeValue xpath name =>
    [.await [xpath] timeout, .readAttribute [xpath] name]
  | .text xpath _ => [.await [xpath] timeout, .readText [xpath]]

/- What is observed if no call breaks down. -/
def Page.observed
    (page : Page) : Subject → Except Failure Text
  | .url => .ok page.url
  | .title => .ok page.title
  | .attributeValue xpath name =>
    match page.answer (.readAttribute [xpath] name) with
    | .gives (some value) => .ok value
    | _ => .error (.noAttribute name xpath)
  | .text xpath _ =>
    match page.answer (.readText [xpath]) with
    | .gives (some value) => .ok value
    | _ => .error (.noText xpath)

/- What comes of comparing a value with an expression. -/
def Subject.verdict
    (subject : Subject)
    (expected : Pattern.Compiled)
    (value : Text) : Except Failure Unit :=
  match expected.searchIn value with
  | .present => .ok ()
  | .absent =>
    .error (.mismatch subject.describe value expected.source)
  | .crossed => .error .crossedGroup

/- The call that enters an input into a field. -/
def FormInput.call
    (path : List Text) : FormInput → Call
  | text value => .fill path value
  | checkbox true => .check path
  | checkbox false => .uncheck path
  | radio _ => .check path
  | select value => .select path value
  | file files => .attach path files

/- The calls that fill one field of a form. -/
def fieldScript
    (timeout : Option Binary64)
    (scope : Text)
    (field : Text × FormInput) : List Call :=
  let path := [scope, field.2.selector field.1]
  [.await path timeout, field.2.call path]

/- The selectors that lead to what sends a form. -/
def controlPath
    (button : Option Text)
    (scope : Text) : List Text :=
  match button with
  | some location => [location]
  | none => [scope, XPath.submitControl]

/- The calls that fill a form and send it. -/
def submitScript
    (timeout : Option Binary64)
    (button form : Option Text)
    (data : List (Text × FormInput)) : List Call :=
  let scope := formLocation form
  let control := controlPath button scope
  .await [scope] timeout ::
    (data.flatMap (fieldScript timeout scope) ++
      [.await control timeout, .click control])

/- An input is entered with one call. -/
theorem FormInput.enter_follows
    {field : Locator}
    (hField : field.IsOn page)
    (input : FormInput) :
    (input.enter field).Follows page [input.call field.path]
      (.ok ()) page := by
  cases input with
  | checkbox checked =>
      cases checked with
      | true =>
          exact field.use_discard_follows hField rfl fun _ => rfl
      | false =>
          exact field.use_discard_follows hField rfl fun _ => rfl
  | _ => exact field.use_discard_follows hField rfl fun _ => rfl

/- The fields of a form are filled one after another. -/
theorem fillForm_follows
    (stage : Stage)
    {form : Locator}
    (hForm : form.IsOn page)
    {scope : Text}
    (hScope : form.path = [scope])
    (data : List (Text × FormInput)) :
    (fillForm stage form scope data).Follows page
      (data.flatMap (fieldScript stage.timeout scope)) (.ok ())
      page := by
  induction data with
  | nil =>
      exact Follows.pure ()
  | cons entry rest ih =>
      rcases entry with ⟨name, input⟩
      have hPath :
          (form.within (input.selector name)).path =
            [scope, input.selector name] := by
        simp [Locator.within, hScope]
      have hEnter :=
        FormInput.enter_follows
          (form.within_isOn hForm (input.selector name)) input
      rw [hPath] at hEnter
      exact
        (locateWithin_follows hForm stage.timeout hScope _).bind
          (hEnter.bind ih)

/- A form is filled, and its button is clicked. -/
theorem submit_follows
    (page : Page)
    (stage : Stage)
    (button form : Option Text)
    (data : List (Text × FormInput)) :
    (submit stage button form data).Follows page
      (submitScript stage.timeout button form data) (.ok ())
      (page.clicked (controlPath button (formLocation form))) := by
  have hForm := Locator.onPage_isOn page (formLocation form)
  refine (locate_follows page stage.timeout _).bind ?_
  refine (fillForm_follows stage hForm rfl data).bind ?_
  cases button with
  | none =>
      refine (locateWithin_follows hForm stage.timeout rfl _).bind
        ?_
      exact Locator.click_follows (Locator.within_isOn hForm _)
  | some location =>
      refine (locate_follows page stage.timeout location).bind ?_
      exact Locator.click_follows
        (Locator.onPage_isOn page location)

------------------------------------------------------------
-- Actions
------------------------------------------------------------

/- What an assertion observes. -/
def Action.subject? : Action → Option Subject
  | .assertUrl _ => some .url
  | .assertTitle _ => some .title
  | .assertAttribute _ xpath name =>
    some (.attributeValue xpath name)
  | .assertText _ xpath => some (.text xpath none)
  | _ => none

/- The calls that an action makes if none breaks down. -/
def Action.script
    (timeout : Option Binary64) : Action → List Call
  | .visit url => [.visit url]
  | .click xpath => [.await [xpath] timeout, .click [xpath]]
  | .submit button form data =>
    submitScript timeout button form data
  | .advance _ => []
  | .assertUrl _ => Subject.url.script timeout
  | .assertTitle _ => Subject.title.script timeout
  | .assertAttribute _ xpath name =>
    (Subject.attributeValue xpath name).script timeout
  | .assertText _ xpath => (Subject.text xpath none).script timeout

/- What an action on a page comes to if no call breaks down. -/
def Action.ending
    (page : Page)
    (action : Action) : Except Failure Unit :=
  match action.subject?, action.pattern? with
  | some subject, some expected =>
    page.observed subject >>= subject.verdict expected
  | _, _ => .ok ()

end Performing

end Replay
