import Replay.Proofs.Channel.Frame
import Replay.Proofs.Window
import Replay.Watch

/-
  This file proves how the watch over an open browser ends,
  and that every request before its end was served.

  Key definitions include:
    * `Watch.isRequest`
    * `Watch.Turn`
    * `Watch.Step`
    * `Watch.Ends`
    * `Listener.Told`
    * `Watch.Account`

  Main results:
    * `Watch.guardedRound_of_ignored`
    * `Watch.step_of_guardedRound`
    * `Watch.course_of_serve`
    * `Watch.account_of_begin`
-/

------------------------------------------------------------
-- Requests
------------------------------------------------------------

namespace Replay

open Play

namespace Watch

/- Does a message, if there is one, ask to reload the pages? -/
def isRequest (message : Option String) : Bool :=
  message.any asksForReload

/- A request is a message that asks for a reload. -/
theorem exists_of_isRequest
    {message : Option String}
    (hRequest : isRequest message = true) :
    ∃ text, message = some text ∧ asksForReload text = true := by
  cases message with
  | none =>
      cases hRequest
  | some text =>
      exact ⟨text, rfl, hRequest⟩

/- What is noted of a message that asks for nothing. -/
def ignore (text : String) : Play Unit :=
  if text = "" then pure ()
  else
    note .debug sessionLog
      ("Ignoring message " ++ Text.quote text)

/- A note before an act has no part in what comes of it. -/
theorem outcome_ignore_bind
    {α : Type}
    (text : String)
    (act : Play α) :
    (ignore text >>= fun _ => act).outcome =
      ignore text >>= fun _ => act.outcome := by
  refine eq_of_run fun w => ?_
  unfold ignore
  split
  · rfl
  · rw [run_outcome, EStateM.run_bind, EStateM.run_bind, run_note]
    exact (run_outcome act _).symm

/- Any other message is ignored. -/
theorem answer_of_ignored
    {text : String}
    (hAsks : asksForReload text = false) :
    answer (some text) = ignore text := by
  simp [answer, ignore, hAsks]

/- To ignore a message leaves a notice in the log. -/
theorem run_ignore
    (text : String)
    (w : World) :
    ∃ log, (ignore text).run w = .ok () { w with log := log } := by
  unfold ignore
  split
  · exact ⟨w.log, rfl⟩
  · exact ⟨_, rfl⟩

/- A message that is no request is noted, and that is all. -/
theorem guardedRound_of_ignored
    {text : String}
    (hAsks : asksForReload text = false)
    (pipe : Channel)
    (tick : Tick) :
    guardedRound pipe (some text) tick =
      ignore text >>= fun _ => guardedRound pipe none tick := by
  have hRound :
      round pipe (some text) tick =
        ignore text >>= fun _ => round pipe none tick := by
    unfold round
    rw [answer_of_ignored hAsks]
    rfl
  unfold guardedRound
  rw [hRound, outcome_ignore_bind, bind_assoc]

------------------------------------------------------------
-- Reloading
------------------------------------------------------------

/- What was heard in a round, and the pages open then. -/
structure Turn where
  message : Option String
  pages : List String

/- A request reloads every page that is open. -/
def Turn.reloads (turn : Turn) : List Call :=
  if isRequest turn.message then turn.pages.map .reload else []

/- After that, the first page waits. -/
def Turn.calls (turn : Turn) : List Call :=
  turn.reloads ++ (turn.pages.head?.map .pause).toList

/- The reload of a page breaks down. -/
structure BreaksAt
    (w : World)
    (label : String)
    (breakdown : Breakdown) : Prop where
  first : w.pages.head? = some label
  breaks : w.browser.breakdowns.lookup .reload = some breakdown

/- A message is answered, or the first reload breaks down. -/
theorem answer_meets
    (message : Option String)
    (w : World) :
    (∃ log,
      (answer message).run w =
          .ok ()
            { w with
              trace := w.trace ++ Turn.reloads ⟨message, w.pages⟩
              log := log } ∧
        (isRequest message = true →
          w.pages ≠ [] →
            w.browser.breakdowns.lookup .reload = none)) ∨
    ∃ log label breakdown,
      isRequest message = true ∧
        BreaksAt w label breakdown ∧
        (answer message).run w =
          .error breakdown.failure
            { w with
              trace := w.trace ++ [.reload label]
              log := log } := by
  cases hRequest : isRequest message with
  | false =>
      have hIgnored :
          ∃ log,
            (answer message).run w =
              .ok () { w with log := log } := by
        cases message with
        | none =>
            exact ⟨w.log, rfl⟩
        | some text =>
            rw [answer_of_ignored hRequest]
            exact run_ignore text w
      rcases hIgnored with ⟨log, hRun⟩
      refine Or.inl ⟨log, ?_, nofun⟩
      rw [hRun, Turn.reloads, hRequest]
      simp
  | true =>
      rcases exists_of_isRequest hRequest with
        ⟨text, rfl, hAsks⟩
      have hRun :
          ∃ log,
            (answer (some text)).run w =
              (Window.reload w.pages).run { w with log := log } := by
        simp [answer, hAsks]
        exact ⟨_, rfl⟩
      rcases hRun with ⟨log, hRun⟩
      rw [Window.run_reload] at hRun
      cases hBreak : w.browser.breakdowns.lookup .reload with
      | none =>
          refine Or.inl ⟨log, ?_, fun _ _ => rfl⟩
          simp [hRun, hBreak, Turn.reloads, hRequest]
      | some breakdown =>
          cases hPages : w.pages with
          | nil =>
              refine Or.inl ⟨log, ?_, ?_⟩
              · simp [hRun, hBreak, hPages, Turn.reloads]
              · intro _ hSome
                exact absurd rfl hSome
          | cons label rest =>
              refine Or.inr
                ⟨log, label, breakdown, rfl, ⟨?_, hBreak⟩, ?_⟩
              · simp [hPages]
              · simp [hRun, hBreak, hPages]

------------------------------------------------------------
-- Rounds
------------------------------------------------------------

end Watch

theorem sameWindow_channelFrame :
    ChannelFrame World.SameWindow where
  change _ _ _ _ _ := ⟨rfl, rfl, rfl, rfl⟩

namespace Watch

variable {pipe : Channel}
variable {tick : Tick}

/- What is sent during a pause. -/
def sendDuring
    (pipe : Channel)
    (tick : Tick) : Play Unit :=
  match tick.sent with
  | none => pure ()
  | some message => discard (pipe.broadcast message)

/- What a pause leaves of the pages and of the browser. -/
def passed
    (tick : Tick)
    (w : World) : World :=
  { w with
    pages := if tick.dropsPages then [] else w.pages
    closed := w.closed || tick.closes }

/-
  What happens in a turn: messages, what passes, a
  breakdown.
-/
theorem happen_eq
    (pipe : Channel)
    (tick : Tick) :
    happen pipe tick = (do
      sendDuring pipe tick
      modify (passed tick)
      breakDown tick.breakdown) := by
  unfold happen sendDuring
  cases tick.sent <;> rfl

/- The messages of a turn do not touch the window. -/
theorem sendDuring_staysIn
    (pipe : Channel)
    (tick : Tick) :
    (sendDuring pipe tick).StaysIn World.SameWindow := by
  unfold sendDuring
  split
  · exact StaysIn.pure ()
  · exact (Channel.broadcast_staysIn sameWindow_channelFrame pipe
      _).map _

/- They do not fail as a browser does. -/
theorem sendDuring_failsOnly
    (pipe : Channel)
    (tick : Tick) :
    (sendDuring pipe tick).FailsOnly fun failure =>
      failure.isBrowser = false := by
  unfold sendDuring
  split
  · exact FailsOnly.pure ()
  · exact Meets.map
      (Channel.broadcast_failsOnly (fun _ => rfl) pipe _)

/- A pause without a breakdown. -/
theorem happen_ok
    (hWait : tick.breakdown = none)
    {w u : World}
    (hRun : (happen pipe tick).run w = .ok () u) :
    World.SameWindow (passed tick w) u := by
  rw [happen_eq, hWait] at hRun
  rcases exists_of_bind_ok hRun with ⟨_, v, hSent, hRest⟩
  cases hRest
  rcases (sendDuring_staysIn pipe tick).of_ok hSent with
    ⟨hBrowser, hPages, hClosed, hTrace⟩
  refine ⟨hBrowser, ?_, ?_, hTrace⟩
  · simp [passed, hPages]
  · simp [passed, hClosed]

/- It does not fail the way a browser does. -/
theorem happen_failsOnly (hWait : tick.breakdown = none) :
    (happen pipe tick).FailsOnly fun failure =>
      failure.isBrowser = false := by
  rw [happen_eq, hWait]
  exact (sendDuring_failsOnly pipe tick).bind fun _ =>
    (FailsOnly.change _).bind fun _ => FailsOnly.pure ()

/- All that a round does that ends without a failure. -/
inductive Step
    (message : Option String)
    (tick : Tick)
    (w : World) : Bool → World → Prop
  | goesOn (u : World) :
      w.pages ≠ [] →
      (isRequest message = true →
        w.browser.breakdowns.lookup .reload = none) →
      World.SameWindow
        (passed tick
          { w with
            trace :=
              w.trace ++ Turn.calls ⟨message, w.pages⟩ }) u →
      Step message tick w true u
  | deserted (u : World) :
      w.pages = [] →
      World.SameWindow w u →
      Step message tick w false u
  | broke (u : World) (label : String) (breakdown : Breakdown) :
      isRequest message = true →
      BreaksAt w label breakdown →
      breakdown.failure.isBrowser = true →
      World.SameWindow
        { w with trace := w.trace ++ [.reload label] } u →
      Step message tick w false u

/- A step is one also after what does not touch the window. -/
theorem Step.trans
    {message : Option String}
    {w u v : World}
    {goesOn : Bool}
    (hStep : Step message tick w goesOn u)
    (hSame : World.SameWindow u v) :
    Step message tick w goesOn v := by
  cases hStep with
  | goesOn _ hSome hWhole hPassed =>
      exact .goesOn v hSome hWhole
        (trans_of World.SameWindow hPassed hSame)
  | deserted _ hNone hStill =>
      exact .deserted v hNone
        (trans_of World.SameWindow hStill hSame)
  | broke _ label breakdown hRequest hBreaks hBrowser hStill =>
      exact .broke v label breakdown hRequest hBreaks hBrowser
        (trans_of World.SameWindow hStill hSame)

/- A round without the guard: it may fail in other ways, too. -/
theorem round_meets
    (pipe : Channel)
    (hWait : tick.breakdown = none)
    (message : Option String)
    (w : World) :
    match (round pipe message tick).run w with
    | .ok goesOn u => Step message tick w goesOn u
    | .error failure u =>
      failure.isBrowser = true → Step message tick w false u := by
  unfold round
  rw [EStateM.run_bind]
  rcases answer_meets message w with
    ⟨log, hAnswer, hWhole⟩ |
      ⟨log, label, breakdown, hRequest, hBreaks, hAnswer⟩
  · rw [hAnswer]
    simp only [EStateM.run_bind, EStateM.run_get]
    cases hPages : w.pages with
    | nil =>
        refine .deserted _ hPages ⟨rfl, hPages.symm, rfl, ?_⟩
        simp [Turn.reloads]
    | cons label rest =>
        have hSome : w.pages ≠ [] := by
          simp [hPages]
        simp only [pause, EStateM.run_bind, run_record]
        cases hHappen : (happen pipe tick).run _ with
        | ok _ u =>
            refine .goesOn u hSome
              (fun hRequest => hWhole hRequest hSome)
              (trans_of World.SameWindow ?_
                (happen_ok hWait hHappen))
            refine ⟨rfl, ?_, rfl, ?_⟩
            · simp [passed, hPages]
            · simp [passed, Turn.calls, hPages]
        | error failure u =>
            have hOther :=
              (happen_failsOnly hWait).mayFail_of_error hHappen
            intro hBrowser
            rw [hOther] at hBrowser
            cases hBrowser
  · rw [hAnswer]
    intro hBrowser
    exact .broke _ label breakdown hRequest hBreaks hBrowser
      ⟨rfl, rfl, rfl, rfl⟩

/- A round whose wait succeeds is a step. -/
theorem step_of_guardedRound
    (hWait : tick.breakdown = none)
    {message : Option String}
    {w u : World}
    {goesOn : Bool}
    (hRun :
      (guardedRound pipe message tick).run w = .ok goesOn u) :
    Step message tick w goesOn u := by
  have hRound := round_meets pipe hWait message w
  unfold guardedRound at hRun
  rw [EStateM.run_bind, run_outcome] at hRun
  cases hOutcome : (round pipe message tick).run w with
  | ok value v =>
      rw [hOutcome] at hRound hRun
      cases hRun
      exact hRound
  | error failure v =>
      rw [hOutcome] at hRound hRun
      cases hBrowser : failure.isBrowser with
      | true =>
          simp [hBrowser] at hRun
          rcases hRun with ⟨rfl, rfl⟩
          exact (hRound hBrowser).trans ⟨rfl, rfl, rfl, rfl⟩
      | false =>
          simp [hBrowser] at hRun

------------------------------------------------------------
-- The Whole Watch
------------------------------------------------------------

/- Every request of the turn was served. -/
structure Turn.IsServed
    (browser : Browser)
    (turn : Turn) : Prop where
  some : turn.pages ≠ []
  whole :
    isRequest turn.message = true →
      browser.breakdowns.lookup .reload = none

/- How a watch ends, with what was heard and called last. -/
inductive Ends (v : World) :
    List (Option String) → List Call → Prop
  | closed :
      v.closed = true →
      Ends v [] []
  | deserted (message : Option String) :
      v.pages = [] →
      Ends v [message] []
  | broke
      (message : Option String)
      (label : String)
      (breakdown : Breakdown) :
      isRequest message = true →
      BreaksAt v label breakdown →
      breakdown.failure.isBrowser = true →
      Ends v [message] [.reload label]

end Watch

/-
  What a listener may have heard: a scripted one is told its
  messages, and nothing after them.
-/
def Listener.Told :
    Listener → List (Option String) → Prop
  | channel _, _ => True
  | scripted messages, heard =>
    ∃ count, heard <+: messages ++ List.replicate count none

namespace Listener

/- A listener that is not asked has told nothing. -/
theorem told_nil (listener : Listener) :
    listener.Told [] := by
  cases listener with
  | channel c =>
      trivial
  | scripted messages =>
      exact ⟨0, List.nil_prefix⟩

/- What a poll gives comes before what is heard later. -/
theorem told_of_poll
    {listener later : Listener}
    {message : Option String}
    {heard : List (Option String)}
    {w u : World}
    (hPoll : listener.poll.run w = .ok (message, later) u)
    (hTold : later.Told heard) :
    listener.Told (message :: heard) := by
  cases listener with
  | channel c =>
      trivial
  | scripted messages =>
      cases messages with
      | nil =>
          cases hPoll
          rcases hTold with ⟨count, hHeard⟩
          refine ⟨count + 1, ?_⟩
          rw [List.replicate_succ]
          exact (List.prefix_cons_inj none).mpr hHeard
      | cons first rest =>
          cases hPoll
          rcases hTold with ⟨count, hHeard⟩
          exact ⟨count, (List.prefix_cons_inj _).mpr hHeard⟩

/- To ask a listener keeps what polls keep. -/
theorem poll_staysIn
    {R : World → World → Prop}
    [IsPreorder World R]
    (frame : ChannelFrame R)
    (listener : Listener) :
    listener.poll.StaysIn R := by
  unfold poll
  split
  · exact (Channel.poll_staysIn frame _).bind fun _ =>
      StaysIn.pure _
  · exact StaysIn.pure _
  · exact StaysIn.pure _

end Listener

namespace Watch

/- A watch from one world on: turns, and the end. -/
structure Course
    (listener : Listener)
    (w v : World)
    (turns : List Turn)
    (heard : List (Option String))
    (last : List Call) : Prop where
  browser : v.browser = w.browser
  trace : v.trace = w.trace ++ turns.flatMap Turn.calls ++ last
  served : ∀ turn ∈ turns, turn.IsServed w.browser
  told : listener.Told (turns.map (·.message) ++ heard)
  ends : Ends v heard last

/- The course of a closed browser is at its end. -/
theorem Course.of_closed
    (listener : Listener)
    {w : World}
    (hClosed : w.closed = true) :
    Course listener w w [] [] [] where
  browser := rfl
  trace := by
    simp
  served := nofun
  told := listener.told_nil
  ends := .closed hClosed

section

variable {listener later : Listener}
variable {message : Option String}
variable {w u u' v : World}

/- A round that goes on is a turn before the others. -/
theorem Course.cons
    (hPoll : listener.poll.run w = .ok (message, later) u)
    (hStep : Step message tick u true u')
    {turns : List Turn}
    {heard : List (Option String)}
    {last : List Call}
    (hCourse : Course later u' v turns heard last) :
    ∃ turn, Course listener w v (turn :: turns) heard last := by
  rcases (listener.poll_staysIn sameWindow_channelFrame).of_ok
      hPoll with ⟨hBrowser, _, _, hTrace⟩
  cases hStep with
  | goesOn _ hSome hWhole hPassed =>
      rcases hPassed with ⟨hPassedBrowser, _, _, hPassedTrace⟩
      have hSame : u'.browser = w.browser :=
        hPassedBrowser.trans hBrowser
      have hCalls :
          u'.trace = w.trace ++ Turn.calls ⟨message, u.pages⟩ := by
        rw [hPassedTrace, ← hTrace]
        rfl
      refine ⟨⟨message, u.pages⟩, ?_, ?_, ?_, ?_, hCourse.ends⟩
      · exact hCourse.browser.trans hSame
      · rw [hCourse.trace, hCalls, List.flatMap_cons]
        simp only [List.append_assoc]
      · rw [List.forall_mem_cons, ← hSame]
        refine ⟨⟨hSome, ?_⟩, hCourse.served⟩
        rw [hPassedBrowser]
        exact hWhole
      · exact Listener.told_of_poll hPoll hCourse.told

/- A round that does not go on is the end. -/
theorem Course.of_stop
    (hPoll : listener.poll.run w = .ok (message, later) u)
    (hStep : Step message tick u false v) :
    ∃ last, Course listener w v [] [message] last := by
  rcases (listener.poll_staysIn sameWindow_channelFrame).of_ok
      hPoll with ⟨hBrowser, _, _, hTrace⟩
  have hTold : listener.Told [message] :=
    Listener.told_of_poll hPoll later.told_nil
  cases hStep with
  | deserted _ hNone hSame =>
      rcases hSame with ⟨hStill, hPages, _, hCalls⟩
      refine ⟨[], hStill.trans hBrowser, ?_, nofun, hTold,
        .deserted message (hPages.trans hNone)⟩
      simp [hCalls, hTrace]
  | broke _ label breakdown hRequest hBreaks hFailure hSame =>
      rcases hSame with ⟨hStill, hPages, _, hCalls⟩
      have hBreaksAt : BreaksAt v label breakdown := by
        refine ⟨?_, ?_⟩
        · rw [hPages]
          exact hBreaks.first
        · rw [hStill]
          exact hBreaks.breaks
      refine ⟨[.reload label], hStill.trans hBrowser, ?_, nofun,
        hTold,
        .broke message label breakdown hRequest hBreaksAt hFailure⟩
      simp [hCalls, hTrace]

end

/- Every watch in which no pause breaks down has a course. -/
theorem course_of_serve
    {listener : Listener}
    {ticks : List Tick}
    (hWaits : ∀ tick ∈ ticks, tick.breakdown = none)
    {w v : World}
    (hRun : (serve pipe listener ticks).run w = .ok () v) :
    ∃ turns heard last,
      Course listener w v turns heard last := by
  induction ticks generalizing listener w with
  | nil =>
      unfold serve at hRun
      rcases exists_of_bind_ok hRun with
        ⟨⟨message, later⟩, u, hPoll, hRest⟩
      rcases exists_of_bind_ok hRest with
        ⟨goesOn, u', hRound, hEnd⟩
      cases hEnd
      have hStep := step_of_guardedRound rfl hRound
      cases goesOn with
      | false =>
          rcases Course.of_stop hPoll hStep with ⟨last, hCourse⟩
          exact ⟨[], [message], last, hCourse⟩
      | true =>
          have hClosed : v.closed = true := by
            cases hStep with
            | goesOn _ _ _ hPassed =>
                rw [hPassed.closed]
                exact Bool.or_true _
          rcases Course.cons hPoll hStep (.of_closed later hClosed)
            with ⟨turn, hCourse⟩
          exact ⟨[turn], [], [], hCourse⟩
  | cons tick rest ih =>
      rw [List.forall_mem_cons] at hWaits
      unfold serve at hRun
      rcases exists_of_bind_ok hRun with
        ⟨⟨message, later⟩, u, hPoll, hRest⟩
      rcases exists_of_bind_ok hRest with
        ⟨goesOn, u', hRound, hLater⟩
      have hStep := step_of_guardedRound hWaits.1 hRound
      cases goesOn with
      | false =>
          cases hLater
          rcases Course.of_stop hPoll hStep with ⟨last, hCourse⟩
          exact ⟨[], [message], last, hCourse⟩
      | true =>
          cases hClosed : u'.closed with
          | true =>
              simp [hClosed] at hLater
              subst hLater
              rcases Course.cons hPoll hStep
                (.of_closed later hClosed) with ⟨turn, hCourse⟩
              exact ⟨[turn], [], [], hCourse⟩
          | false =>
              simp [hClosed] at hLater
              rcases ih hWaits.2 hLater with
                ⟨turns, heard, last, hCourse⟩
              rcases Course.cons hPoll hStep hCourse with
                ⟨turn, hWhole⟩
              exact ⟨turn :: turns, heard, last, hWhole⟩

------------------------------------------------------------
-- Before and After
------------------------------------------------------------

end Watch

/- The browser is the same, and more calls may have been made. -/
structure World.Prolonged (w v : World) : Prop where
  browser : v.browser = w.browser
  trace : w.trace <+: v.trace

instance : IsPreorder World World.Prolonged where
  refl w := ⟨rfl, List.prefix_refl w.trace⟩
  trans _ _ _ hFirst hSecond :=
    { browser := hSecond.browser.trans hFirst.browser
      trace := hFirst.trace.trans hSecond.trace }

theorem prolonged_pageFrame :
    PageFrame (fun _ => True) World.Prolonged where
  note w _ := ⟨rfl, List.prefix_refl w.trace⟩
  record w _ _ := ⟨rfl, List.prefix_append w.trace _⟩
  window w _ _ _ _ := ⟨rfl, List.prefix_refl w.trace⟩
  ofPage _ _ := trivial

theorem prolonged_channelFrame :
    ChannelFrame World.Prolonged where
  change w _ _ _ _ := ⟨rfl, List.prefix_refl w.trace⟩

/- To close pages makes the trace longer at most. -/
theorem Window.closePages_staysIn
    (labels : List String) :
    (closePages labels).StaysIn World.Prolonged := by
  have frame := prolonged_pageFrame.toFrame
  induction labels with
  | nil =>
      exact StaysIn.pure ()
  | cons label rest ih =>
      refine (Window.call_staysIn frame .closePage trivial).bind
        fun _ => StaysIn.bind ?_ fun _ => ih
      exact fun w => frame.window w _ w.closed w.page w.profile

namespace Listener

/- The call by which a scripted listener is closed. -/
def closing : Listener → List Call
  | channel _ => []
  | scripted _ => [.closeChannel]

/- A listener is the same one after it was attached. -/
theorem attach_ok
    {listener later : Listener}
    {w u : World}
    (hRun : listener.attach.run w = .ok later u) :
    World.Prolonged w u ∧
      later.closing = listener.closing ∧
      ∀ heard, later.Told heard → listener.Told heard := by
  cases listener with
  | channel c =>
      rw [attach, run_map] at hRun
      cases hAttach : c.attach.run w with
      | ok d u' =>
          rw [hAttach] at hRun
          cases hRun
          exact ⟨(Channel.attach_staysIn prolonged_channelFrame
            c).of_ok hAttach, rfl, fun _ _ => trivial⟩
      | error failure u' =>
          rw [hAttach] at hRun
          cases hRun
  | scripted messages =>
      cases hRun
      exact ⟨⟨rfl, List.prefix_append _ _⟩, rfl, fun _ => id⟩

/- A listener that is detached makes its last calls. -/
theorem detach_ok
    {listener : Listener}
    {w u : World}
    (hRun : listener.detach.run w = .ok () u) :
    World.SameWindow
      { w with trace := w.trace ++ listener.closing } u := by
  cases listener with
  | channel c =>
      have hSame :=
        ((Channel.detach_staysIn sameWindow_channelFrame c).map
          _).of_ok hRun
      rw [closing, List.append_nil]
      exact hSame
  | scripted messages =>
      cases hRun
      exact refl_of World.SameWindow _

end Listener

namespace Watch

/- The first part of a watch, up to the restored tab. -/
def opening
    (store : Store)
    (theme : Option String)
    (addr : Address) : Play Unit := do
  Window.launch ⟨theme, false⟩ none
  let cookies ← store.readCookies addr
  Window.restoreCookies cookies
  let blank := (← get).pages
  Window.newTab
  match ← store.readUrl addr with
  | none => pure ()
  | some url => if url = [] then pure () else visit url
  Window.closePages blank

/- The second part, while the listener is attached. -/
def watching
    (pipe : Channel)
    (listener : Listener) : Play Unit := do
  let listener ← listener.attach
  let ticks := (← get).browser.ticks
  (serve pipe listener ticks).andFinally listener.detach

/- To attend to a browser is to open it, then to watch it. -/
theorem attend_eq
    (store : Store)
    (theme : Option String)
    (pipe : Channel)
    (listener : Listener)
    (addr : Address) :
    attend store theme pipe listener addr =
      opening store theme addr >>= fun _ =>
        watching pipe listener := by
  unfold attend opening watching
  simp only [bind_assoc]
  refine bind_congr fun _ => bind_congr fun cookies =>
    bind_congr fun _ => bind_congr fun w =>
      bind_congr fun _ => bind_congr fun url => ?_
  cases url with
  | none =>
      rfl
  | some url =>
      dsimp only
      split
      · rfl
      · simp only [bind_assoc]

/- What is opened makes the trace longer at most. -/
theorem opening_staysIn
    (store : Store)
    (theme : Option String)
    (addr : Address) :
    (opening store theme addr).StaysIn World.Prolonged := by
  have frame := prolonged_pageFrame.toFrame
  apply (Window.launch_staysIn frame (fun _ _ => trivial)
    (fun _ => trivial) _ _).bind
  intro _
  apply (store.readCookies_staysIn frame (fun _ => trivial)
    addr).bind
  intro cookies
  apply (Window.restoreCookies_staysIn frame (fun _ => trivial)
    cookies).bind
  intro _
  refine StaysIn.get.bind fun w => ?_
  apply (Window.newTab_staysIn frame trivial).bind
  intro _
  apply (store.readUrl_staysIn frame (fun _ => trivial) addr).bind
  intro url
  cases url with
  | none =>
      exact Window.closePages_staysIn w.pages
  | some url =>
      dsimp only
      split
      · exact Window.closePages_staysIn w.pages
      · exact (visit_staysIn prolonged_pageFrame url).bind
          fun _ => Window.closePages_staysIn w.pages

/- How a watch ends does not hang on what is called after it. -/
theorem Ends.of_same
    {v u : World}
    {heard : List (Option String)}
    {last : List Call}
    (hEnds : Ends v heard last)
    (hBrowser : u.browser = v.browser)
    (hPages : u.pages = v.pages)
    (hClosed : u.closed = v.closed) :
    Ends u heard last := by
  cases hEnds with
  | closed hDone =>
      exact .closed (hClosed.trans hDone)
  | deserted message hNone =>
      exact .deserted message (hPages.trans hNone)
  | broke message label breakdown hRequest hBreaks hFailure =>
      refine .broke message label breakdown hRequest ⟨?_, ?_⟩
        hFailure
      · rw [hPages]
        exact hBreaks.first
      · rw [hBrowser]
        exact hBreaks.breaks

/- The whole course of a watch that ends without a failure. -/
structure Account
    (listener : Listener)
    (w v : World)
    (turns : List Turn)
    (heard : List (Option String))
    (last : List Call) : Prop where
  trace :
    ∃ before,
      v.trace =
        w.trace ++ before ++ turns.flatMap Turn.calls ++ last ++
          listener.closing
  served : ∀ turn ∈ turns, turn.IsServed w.browser
  told : listener.Told (turns.map (·.message) ++ heard)
  ends : Ends v heard last

/- While the listener is attached. -/
theorem account_of_watching
    {listener : Listener}
    {w v : World}
    (hWaits : ∀ tick ∈ w.browser.ticks, tick.breakdown = none)
    (hRun : (watching pipe listener).run w = .ok () v) :
    ∃ turns heard last,
      Account listener w v turns heard last := by
  unfold watching at hRun
  rcases exists_of_bind_ok hRun with ⟨later, u, hAttach, hRest⟩
  rcases Listener.attach_ok hAttach with
    ⟨⟨hBrowser, before, hBefore⟩, hClosing, hTold⟩
  rcases exists_of_andFinally_ok hRest with ⟨x, hServe, hDetach⟩
  rw [← hBrowser] at hWaits
  rcases course_of_serve hWaits hServe with
    ⟨turns, heard, last, hCourse⟩
  rcases Listener.detach_ok hDetach with
    ⟨hSame, hPages, hClosed, hTrace⟩
  refine ⟨turns, heard, last, ⟨before, ?_⟩, ?_, ?_, ?_⟩
  · rw [hTrace, hClosing, hBefore, ← hCourse.trace]
  · rw [← hBrowser]
    exact hCourse.served
  · exact hTold _ hCourse.told
  · exact hCourse.ends.of_same hSame hPages hClosed

/-
  If no pause breaks down, a watch that ends without a
  failure served every request before its end.  It ends when
  the browser is closed, when no page is open, or when the
  reload of an open page breaks down the way a browser does.
-/
theorem account_of_begin
    {store : Store}
    {theme : Option String}
    {pipe : Channel}
    {listener : Listener}
    {w v : World}
    (hWaits : ∀ tick ∈ w.browser.ticks, tick.breakdown = none)
    (hRun : (begin store theme pipe listener).run w = .ok () v) :
    ∃ turns heard last,
      Account listener w v turns heard last := by
  have frame := prolonged_pageFrame.toFrame
  unfold begin Window.onProfile at hRun
  rcases exists_of_bind_ok hRun with ⟨addr, w₁, hAddress, hRest⟩
  rcases exists_of_bind_ok hRest with ⟨_, x, hProfile, hNote⟩
  cases hNote
  rcases exists_of_bind_ok hProfile with ⟨_, w₂, hMake, hAttend⟩
  cases hMake
  rcases exists_of_andFinally_ok hAttend with ⟨y, hBody, hRemove⟩
  cases hRemove
  rw [attend_eq] at hBody
  rcases exists_of_bind_ok hBody with ⟨_, u, hOpening, hWatching⟩
  have hStart :=
    (store.activeAddress_staysIn frame trivial).of_ok hAddress
  have hMade := (opening_staysIn store theme addr).of_ok hOpening
  have hOpen : World.Prolonged w₁ u :=
    ⟨hMade.browser, hMade.trace⟩
  rcases trans_of World.Prolonged hStart hOpen with
    ⟨hBrowser, opened, hOpened⟩
  rw [← hBrowser] at hWaits
  rcases account_of_watching hWaits hWatching with
    ⟨turns, heard, last, hAccount⟩
  rcases hAccount with ⟨⟨before, hTrace⟩, hServed, hTold, hEnds⟩
  refine
    ⟨turns, heard, last, ⟨opened ++ before, ?_⟩, ?_, hTold, ?_⟩
  · rw [← List.append_assoc, hOpened]
    exact hTrace
  · rw [← hBrowser]
    exact hServed
  · exact hEnds.of_same rfl rfl rfl

/- A tab on which nothing was kept. -/
def blankTab : Store :=
  .remote ⟨"b", "t"⟩ none none

/- Two pauses, during the first of which nothing happens. -/
def calmWorld : World :=
  { World.start .empty .blank with
    browser :=
      { Browser.blank with ticks := [⟨none, false, false, none⟩] } }

/- Where no wait fails there is an account of the session. -/
theorem account_of_begin_of_calmWorld :
    (∀ tick ∈ calmWorld.browser.ticks, tick.breakdown = none) ∧
      ∃ v,
        (begin blankTab none ⟨.ofText "run/browser.fifo", none⟩
            (.scripted [some reloadAll])).run calmWorld =
          .ok () v ∧
        ∃ turns heard last,
          Account (.scripted [some reloadAll]) calmWorld v turns
            heard last := by
  have hWaits :
      ∀ tick ∈ calmWorld.browser.ticks, tick.breakdown = none := by
    decide
  have hEnds :
      (begin blankTab none ⟨.ofText "run/browser.fifo", none⟩
        (.scripted [some reloadAll])).ends calmWorld = true := by
    decide +kernel
  rcases exists_of_ends hEnds with ⟨⟨⟩, v, hRun⟩
  exact ⟨hWaits, v, hRun, account_of_begin hWaits hRun⟩

/- The same, but the server of the tab cannot be reached. -/
def unreachableWorld : World :=
  { calmWorld with
    browser :=
      { calmWorld.browser with
        breakdowns :=
          [(.reload, .browser "net::ERR_CONNECTION_REFUSED")] } }

/-
  Then the watch ends at the first request, although the
  browser is open and shows the tab, and the second request
  is not served.
-/
theorem begin_ends_unclosed :
    (∀ tick ∈ unreachableWorld.browser.ticks,
      tick.breakdown = none) ∧
      ∃ v,
        (begin blankTab none ⟨.ofText "run/browser.fifo", none⟩
            (.scripted [some reloadAll, some reloadAll])).run
            unreachableWorld =
          .ok () v ∧
        v.closed = false ∧
        v.pages = [Window.tab] ∧
        v.trace.count (.reload Window.tab) = 1 ∧
        v.trace.count (.pause Window.tab) = 0 := by
  have hEnds :
      (begin blankTab none ⟨.ofText "run/browser.fifo", none⟩
        (.scripted [some reloadAll, some reloadAll])).ends
          unreachableWorld = true := by
    decide +kernel
  rcases exists_of_ends hEnds with ⟨⟨⟩, v, hRun⟩
  refine ⟨by decide, v, hRun, ?_⟩
  rw [← left_of_ok hRun]
  decide +kernel

end Watch

end Replay
