import Replay.Proofs.Channel.Scenes
import Replay.Proofs.Watch

/-
  This file proves which calls the rounds of a watch make, and
  that a watch ends, if no call breaks down.

  Key definitions include:
    * `Tick.heard`
    * `Watch.turns`
    * `Watch.Succeeds`
    * `World.Leads`
    * `Listener.Hears`
    * `Listener.Waits`
    * `Watch.Passes`

  Main results:
    * `Listener.Hears.poll`
    * `Listener.Waits.send`
    * `Watch.guardedRound_run`
    * `Watch.serve_run`

  A listener hears at each round what was sent during the
  pause before it.  This is carried through the rounds by two
  relations: before a poll at most one message stands in the
  pipe, and after it nothing does.
-/

------------------------------------------------------------
-- Messages
------------------------------------------------------------

namespace Replay

open Play Text

/- What is heard of a text that was sent; an empty one is not. -/
def hearing (sent : String) : Option String :=
  if sent = "" then none else some (trim sent)

namespace Tick

/- What was sent during a pause, or nothing. -/
def text (tick : Tick) : String :=
  tick.sent.getD ""

/- What is heard after a pause. -/
def heard (tick : Tick) : Option String :=
  hearing tick.text

/- All that was sent during the pause is read at once. -/
def Fits (tick : Tick) : Prop :=
  (Utf8.bytesOf tick.text).length ≤ chunkLimit

end Tick

/- What a listener hears at each round, one after another. -/
def Listener.heard
    (ticks : List Tick) :
    Listener → List (Option String)
  | channel _ => none :: ticks.map Tick.heard
  | scripted messages => messages

/- A text that fits is read as it was sent. -/
theorem Channel.reading_take_bytesOf
    {sent : String}
    (hFits : (Utf8.bytesOf sent).length ≤ chunkLimit) :
    reading ((Utf8.bytesOf sent).take chunkLimit) =
      .ok (hearing sent) := by
  rw [List.take_of_length_le hFits, hearing]
  split
  · rename_i hNothing
    subst hNothing
    rfl
  · rename_i hSome
    exact reading_bytesOf hSome

------------------------------------------------------------
-- Turns
------------------------------------------------------------

namespace Watch

/-
  The turns of a watch over some pages, given what is heard.
  It ends at the close of the browser, after the first pause
  in which it is closed, or as soon as no page is open.
-/
def turns
    (pages : List String)
    (heard : List (Option String)) :
    List Tick → List Turn
  | [] =>
    if pages = [] then [] else [⟨heard.headD none, pages⟩]
  | tick :: rest =>
    if pages = [] then []
    else
      ⟨heard.headD none, pages⟩ ::
        if tick.closes then []
        else
          turns (if tick.dropsPages then [] else pages) heard.tail
            rest

/- Without open pages there are no turns. -/
theorem turns_of_deserted
    (heard : List (Option String))
    (ticks : List Tick) :
    turns [] heard ticks = [] := by
  cases ticks <;> rfl

/- No call of some turns breaks down, nor does any pause. -/
structure Succeeds
    (browser : Browser)
    (ticks : List Tick)
    (turns : List Turn) : Prop where
  reloads :
    ∀ turn ∈ turns,
      turn.reloads ≠ [] → browser.breakdowns.lookup .reload = none
  pauses :
    ∀ tick ∈ ticks.take turns.length, tick.breakdown = none

end Watch

/-
  A world after some calls.  The files, the open ends and the
  browser are as they were.
-/
structure World.Leads
    (w : World)
    (calls : List Call)
    (v : World) : Prop where
  files : v.files = w.files
  handles : v.handles = w.handles
  browser : v.browser = w.browser
  trace : v.trace = w.trace ++ calls

/- Calls after calls lead from the first world to the last. -/
theorem World.Leads.trans
    {w u v : World}
    {calls more : List Call}
    (hFirst : w.Leads calls u)
    (hSecond : u.Leads more v) :
    w.Leads (calls ++ more) v where
  files := hSecond.files.trans hFirst.files
  handles := hSecond.handles.trans hFirst.handles
  browser := hSecond.browser.trans hFirst.browser
  trace := by
    rw [hSecond.trace, hFirst.trace, List.append_assoc]

------------------------------------------------------------
-- What Stands in the Pipe
------------------------------------------------------------

/- Scenes with the same files and ends are tuned alike. -/
theorem Scene.Tuned.of_same
    {listener : Channel}
    {w u : World}
    (hTuned : Tuned ⟨listener, w⟩)
    (hFiles : u.files = w.files)
    (hHandles : u.handles = w.handles)
    (hPending : u.pending = w.pending) :
    Tuned ⟨listener, u⟩ := by
  cases w
  cases u
  cases hFiles
  cases hHandles
  cases hPending
  exact ⟨hTuned.noFile, hTuned.pipe, hTuned.own, hTuned.silent⟩

/- To drain a pipe changes what stands in pipes at most. -/
theorem World.exists_drained_eq
    (w : World)
    (place : Place) :
    ∃ pending, w.drained place = { w with pending := pending } := by
  unfold drained
  split
  · exact ⟨w.pending, rfl⟩
  · exact ⟨_, rfl⟩

namespace Listener

/-
  A channel on the path of the senders whose end is open, in a
  pipe in which the given bytes stand.
-/
structure Holds
    (pipe : Channel)
    (w : World)
    (bytes : List UInt8)
    (c : Channel) : Prop where
  path : c.path = pipe.path
  tuned : Scene.Tuned ⟨c, w⟩
  inside : Scene.inside ⟨c, w⟩ = true
  pending : Scene.pending ⟨c, w⟩ = bytes

/- A listener before a poll, and what it hears from then on. -/
inductive Hears
    (pipe : Channel)
    (w : World)
    (ticks : List Tick) :
    Listener → List (Option String) → Prop
  | channel {c : Channel} {sent : String} :
      Holds pipe w (Utf8.bytesOf sent) c →
      (Utf8.bytesOf sent).length ≤ chunkLimit →
      (∀ tick ∈ ticks, tick.Fits) →
      Hears pipe w ticks (.channel c)
        (hearing sent :: ticks.map Tick.heard)
  | scripted {messages : List (Option String)} :
      (∀ tick ∈ ticks, tick.sent = none) →
      Hears pipe w ticks (.scripted messages) messages

/- A listener after a poll, and what it hears from then on. -/
inductive Waits
    (pipe : Channel)
    (w : World)
    (ticks : List Tick) :
    Listener → List (Option String) → Prop
  | channel {c : Channel} :
      Holds pipe w [] c →
      (∀ tick ∈ ticks, tick.Fits) →
      Waits pipe w ticks (.channel c) (ticks.map Tick.heard)
  | scripted {messages : List (Option String)} :
      (∀ tick ∈ ticks, tick.sent = none) →
      Waits pipe w ticks (.scripted messages) messages

section

variable {pipe : Channel}
variable {w u : World}
variable {ticks : List Tick}
variable {listener : Listener}
variable {heard : List (Option String)}

/- What a pipe holds depends on files and handles alone. -/
theorem Holds.of_same
    {bytes : List UInt8}
    {c : Channel}
    (hHolds : Holds pipe w bytes c)
    (hFiles : u.files = w.files)
    (hHandles : u.handles = w.handles)
    (hPending : u.pending = w.pending) :
    Holds pipe u bytes c where
  path := hHolds.path
  tuned := hHolds.tuned.of_same hFiles hHandles hPending
  inside := hHolds.inside
  pending := by
    rw [← hHolds.pending]
    simp only [Scene.pending, World.pendingAt, hPending]
    rfl

/- The pages and the log have no part in what is heard. -/
theorem Waits.of_same
    (hListener : Waits pipe w ticks listener heard)
    (hFiles : u.files = w.files)
    (hHandles : u.handles = w.handles)
    (hPending : u.pending = w.pending) :
    Waits pipe u ticks listener heard := by
  cases hListener with
  | channel hHolds hFit =>
      exact .channel (hHolds.of_same hFiles hHandles hPending) hFit
  | scripted hSilent =>
      exact .scripted hSilent

/- So does what a listener hears. -/
theorem Hears.of_same
    (hListener : Hears pipe w ticks listener heard)
    (hFiles : u.files = w.files)
    (hHandles : u.handles = w.handles)
    (hPending : u.pending = w.pending) :
    Hears pipe u ticks listener heard := by
  cases hListener with
  | channel hHolds hSent hFit =>
      exact .channel (hHolds.of_same hFiles hHandles hPending)
        hSent hFit
  | scripted hSilent =>
      exact .scripted hSilent

/- A poll reads all that stands in the pipe. -/
theorem Holds.poll
    {c : Channel}
    {sent : String}
    (hHolds : Holds pipe w (Utf8.bytesOf sent) c)
    (hSent : (Utf8.bytesOf sent).length ≤ chunkLimit) :
    ∃ pending,
      c.poll.run w =
          .ok (hearing sent) { w with pending := pending } ∧
        Holds pipe { w with pending := pending } [] c := by
  let scene : Scene := ⟨c, w⟩
  rcases Option.isSome_iff_exists.mp hHolds.inside with
    ⟨id, hHandle⟩
  have hRun :=
    Channel.poll_run hHandle (hHolds.tuned.own id hHandle)
      hHolds.tuned.noFile
  have hPending : w.pendingAt scene.place = Utf8.bytesOf sent :=
    hHolds.pending
  have hRead :
      Channel.reading (w.chunkAt scene.place) =
        .ok (hearing sent) := by
    rw [World.chunkAt, hPending]
    exact Channel.reading_take_bytesOf hSent
  have hDrained :
      (w.drained scene.place).pendingAt scene.place = [] := by
    rw [World.pendingAt_drained, hPending]
    exact List.drop_eq_nil_of_le hSent
  have hTuned : Scene.Tuned ⟨c, w.drained scene.place⟩ :=
    hHolds.tuned.drained
  rw [hRead] at hRun
  rcases w.exists_drained_eq scene.place with ⟨pending, hSame⟩
  rw [hSame] at hRun hDrained hTuned
  exact ⟨pending, hRun, hHolds.path, hTuned, hHolds.inside,
    hDrained⟩

/- What is sent into an empty pipe stands there then. -/
theorem Holds.send
    {c : Channel}
    (hHolds : Holds pipe w [] c)
    (message : String) :
    ∃ pending,
      (pipe.broadcast message).run w =
          .ok true { w with pending := pending } ∧
        Holds pipe { w with pending := pending }
          (Utf8.bytesOf message) c := by
  let scene : Scene := ⟨c, w⟩
  have hAttached : scene.attached = true :=
    hHolds.tuned.attached_of_inside hHolds.inside
  have hPipe : w.files.standing? pipe.path = some .pipe := by
    rw [← hHolds.path]
    exact hHolds.tuned.pipe hAttached
  have hPlace : FileTree.goal pipe.path = scene.place :=
    congrArg FileTree.goal hHolds.path.symm
  have hPending : w.pendingAt scene.place = [] := hHolds.pending
  have hReader : w.hasReader (FileTree.goal pipe.path) = true := by
    rw [hPlace]
    exact hAttached
  have hRun :=
    Channel.broadcast_run_of_hasReader hPipe hReader message
  rw [hPlace, hPending, List.nil_append] at hRun
  exact ⟨_, hRun, hHolds.path,
    hHolds.tuned.setPending hAttached _, hHolds.inside,
    World.pendingAt_setPending w scene.place _⟩

/- A poll gives what is heard first, and changes no page. -/
theorem Hears.poll
    (hHears : Hears pipe w ticks listener heard) :
    ∃ later u,
      listener.poll.run w = .ok (heard.headD none, later) u ∧
        w.Leads [] u ∧
        u.pages = w.pages ∧
        u.closed = w.closed ∧
        Waits pipe u ticks later heard.tail := by
  have hSame (pending : List (Place × List UInt8)) :
      w.Leads [] { w with pending := pending } :=
    ⟨rfl, rfl, rfl, (List.append_nil _).symm⟩
  cases hHears with
  | @channel c sent hHolds hSent hFit =>
      rcases hHolds.poll hSent with ⟨pending, hRun, hLater⟩
      refine ⟨.channel c, _, ?_, hSame pending, rfl, rfl,
        .channel hLater hFit⟩
      simp [Listener.poll, hRun]
  | scripted hSilent =>
      cases heard with
      | nil =>
          exact ⟨_, _, rfl, hSame w.pending, rfl, rfl,
            .scripted hSilent⟩
      | cons message rest =>
          exact ⟨_, _, rfl, hSame w.pending, rfl, rfl,
            .scripted hSilent⟩

/- What is sent during a pause is heard after it. -/
theorem Waits.send
    {tick : Tick}
    (hWaits : Waits pipe w (tick :: ticks) listener heard) :
    ∃ pending,
      (Watch.sendDuring pipe tick).run w =
          .ok () { w with pending := pending } ∧
        Hears pipe { w with pending := pending } ticks listener
          heard := by
  cases hWaits with
  | @channel c hHolds hFit =>
      rw [List.forall_mem_cons] at hFit
      cases hSent : tick.sent with
      | none =>
          have hText : tick.text = "" := by
            rw [Tick.text, hSent]
            rfl
          refine ⟨w.pending, ?_, ?_⟩
          · rw [Watch.sendDuring, hSent]
            rfl
          · rw [List.map_cons, Tick.heard]
            refine .channel ?_ hFit.1 hFit.2
            rw [hText]
            exact hHolds
      | some message =>
          have hText : tick.text = message := by
            rw [Tick.text, hSent]
            rfl
          rcases hHolds.send message with ⟨pending, hRun, hLater⟩
          refine ⟨pending, ?_, ?_⟩
          · rw [Watch.sendDuring, hSent]
            exact (run_map (fun _ => ()) _ w).trans (by rw [hRun])
          · rw [List.map_cons, Tick.heard]
            refine .channel ?_ hFit.1 hFit.2
            rw [hText]
            exact hLater
  | scripted hSilent =>
      rw [List.forall_mem_cons] at hSilent
      refine ⟨w.pending, ?_, .scripted hSilent.2⟩
      rw [Watch.sendDuring, hSilent.1]
      rfl

end

end Listener

------------------------------------------------------------
-- Rounds
------------------------------------------------------------

namespace Watch

variable {pipe : Channel}
variable {tick : Tick}
variable {w : World}

/- A message is answered unless a reload breaks down. -/
theorem answer_run
    {message : Option String}
    (hReloads :
      Turn.reloads ⟨message, w.pages⟩ ≠ [] →
        w.browser.breakdowns.lookup .reload = none) :
    ∃ log,
      (answer message).run w =
        .ok ()
          { w with
            trace := w.trace ++ Turn.reloads ⟨message, w.pages⟩
            log := log } := by
  rcases answer_meets message w with
    ⟨log, hRun, _⟩ | ⟨_, label, _, hRequest, hBreaks, _⟩
  · exact ⟨log, hRun⟩
  · have hSome : Turn.reloads ⟨message, w.pages⟩ ≠ [] := by
      rw [Turn.reloads, if_pos hRequest]
      intro hNone
      rw [List.map_eq_nil_iff] at hNone
      have hFirst := hBreaks.first
      simp [show w.pages = [] from hNone] at hFirst
    have hBroke := hBreaks.breaks
    rw [hReloads hSome] at hBroke
    cases hBroke

/- A round without a page is the last one, and without calls. -/
theorem guardedRound_run_of_deserted
    (pipe : Channel)
    (message : Option String)
    (tick : Tick)
    (hPages : w.pages = []) :
    ∃ v,
      (guardedRound pipe message tick).run w = .ok false v ∧
        w.Leads [] v := by
  have hReloads : Turn.reloads ⟨message, w.pages⟩ = [] := by
    simp [Turn.reloads, hPages]
  rcases answer_run fun hSome => absurd hReloads hSome with
    ⟨log, hAnswer⟩
  rw [hReloads, List.append_nil] at hAnswer
  have hRound :
      (round pipe message tick).run w =
        .ok false { w with log := log } := by
    rw [round, EStateM.run_bind, hAnswer]
    simp [hPages]
  refine ⟨{ w with log := log }, ?_, rfl, rfl, rfl,
    (List.append_nil _).symm⟩
  rw [guardedRound, EStateM.run_bind, run_outcome, hRound]
  rfl

/- A turn is served, and a pause passes. -/
structure Passes
    (turn : Turn)
    (tick : Tick)
    (w v : World) : Prop
    extends w.Leads turn.calls v where
  pages : v.pages = if tick.dropsPages then [] else w.pages
  closed : v.closed = (w.closed || tick.closes)

/- What comes of a round, given what comes of what is sent. -/
theorem guardedRound_run_of_sent
    {message : Option String}
    (hPages : w.pages ≠ [])
    (hPause : tick.breakdown = none)
    (hReloads :
      Turn.reloads ⟨message, w.pages⟩ ≠ [] →
        w.browser.breakdowns.lookup .reload = none) :
    ∃ log,
      let u :=
        { w with
          trace := w.trace ++ Turn.calls ⟨message, w.pages⟩
          log := log }
      ∀ pending,
        (sendDuring pipe tick).run u =
            .ok () { u with pending := pending } →
          (guardedRound pipe message tick).run w =
            .ok true (passed tick { u with pending := pending }) := by
  rcases answer_run hReloads with ⟨log, hAnswer⟩
  refine ⟨log, fun pending hSend => ?_⟩
  rcases List.exists_cons_of_ne_nil hPages with
    ⟨label, rest, hLabels⟩
  have hCalls :
      Turn.calls ⟨message, w.pages⟩ =
        Turn.reloads ⟨message, w.pages⟩ ++ [.pause label] := by
    simp [Turn.calls, hLabels]
  have hRound :
      (round pipe message tick).run w =
        .ok true
          (passed tick
            { w with
              trace := w.trace ++ Turn.calls ⟨message, w.pages⟩
              log := log
              pending := pending }) := by
    rw [round, EStateM.run_bind, hAnswer]
    simp only [EStateM.run_bind, EStateM.run_get, hLabels, pause,
      run_record, happen_eq, hPause]
    rw [hCalls, ← List.append_assoc] at hSend
    simp only [hLabels] at hSend hCalls
    rw [hSend, hCalls]
    simp [breakDown]
  rw [guardedRound, EStateM.run_bind, run_outcome, hRound]
  rfl

/- A turn before a pause: what is sent then is heard next. -/
theorem guardedRound_run
    {message : Option String}
    {listener : Listener}
    {heard : List (Option String)}
    {rest : List Tick}
    (hWaits : listener.Waits pipe w (tick :: rest) heard)
    (hPages : w.pages ≠ [])
    (hPause : tick.breakdown = none)
    (hReloads :
      Turn.reloads ⟨message, w.pages⟩ ≠ [] →
        w.browser.breakdowns.lookup .reload = none) :
    ∃ v,
      (guardedRound pipe message tick).run w = .ok true v ∧
        Passes ⟨message, w.pages⟩ tick w v ∧
        listener.Hears pipe v rest heard := by
  rcases guardedRound_run_of_sent hPages hPause hReloads with
    ⟨log, hRound⟩
  have hStill :
      listener.Waits pipe
        { w with
          trace := w.trace ++ Turn.calls ⟨message, w.pages⟩
          log := log }
        (tick :: rest) heard :=
    hWaits.of_same rfl rfl rfl
  rcases hStill.send with ⟨pending, hSend, hHears⟩
  exact ⟨_, hRound pending hSend, ⟨⟨rfl, rfl, rfl, rfl⟩, rfl, rfl⟩,
    hHears.of_same rfl rfl rfl⟩

/- The last turn: nothing is sent, and the browser is closed. -/
theorem guardedRound_run_of_last
    {message : Option String}
    (hPages : w.pages ≠ [])
    (hReloads :
      Turn.reloads ⟨message, w.pages⟩ ≠ [] →
        w.browser.breakdowns.lookup .reload = none) :
    ∃ v,
      (guardedRound pipe message .last).run w = .ok true v ∧
        Passes ⟨message, w.pages⟩ .last w v := by
  rcases @guardedRound_run_of_sent pipe .last w message hPages rfl
      hReloads with ⟨log, hRound⟩
  exact ⟨_, hRound w.pending rfl,
    ⟨⟨rfl, rfl, rfl, rfl⟩, rfl, rfl⟩⟩

------------------------------------------------------------
-- The Whole Loop
------------------------------------------------------------

section Loop

variable {listener later : Listener}
variable {message : Option String}
variable {u v : World}
variable {goesOn : Bool}

/- After the last tick there is one more round. -/
theorem serve_nil_run
    (hPoll : listener.poll.run w = .ok (message, later) u)
    (hRound :
      (guardedRound pipe message .last).run u = .ok goesOn v) :
    (serve pipe listener []).run w = .ok () v := by
  rw [serve, EStateM.run_bind, hPoll]
  exact (run_map (fun _ => ()) _ u).trans (by rw [hRound])

/- A round decides whether the rest of the ticks is served. -/
theorem serve_cons_run
    (hPoll : listener.poll.run w = .ok (message, later) u)
    (hRound :
      (guardedRound pipe message tick).run u = .ok goesOn v)
    (rest : List Tick) :
    (serve pipe listener (tick :: rest)).run w =
      if goesOn && !v.closed then (serve pipe later rest).run v
      else .ok () v := by
  rw [serve, EStateM.run_bind, hPoll]
  simp only [EStateM.run_bind, hRound, EStateM.run_get]
  split <;> rfl

end Loop

/-
  What succeeds in all turns succeeds in the first one and
  in the others.
-/
theorem Succeeds.of_cons
    {browser : Browser}
    {ticks : List Tick}
    {turn : Turn}
    {more : List Turn}
    (hSucceeds : Succeeds browser (tick :: ticks) (turn :: more)) :
    tick.breakdown = none ∧
      (turn.reloads ≠ [] →
        browser.breakdowns.lookup .reload = none) ∧
      Succeeds browser ticks more := by
  rcases hSucceeds with ⟨hReloads, hPauses⟩
  rw [List.forall_mem_cons] at hReloads
  rw [List.length_cons, List.take_succ_cons,
    List.forall_mem_cons] at hPauses
  exact ⟨hPauses.1, hReloads.1, hReloads.2, hPauses.2⟩

/- The turns of a watch are served, and it ends. -/
theorem serve_run
    {listener : Listener}
    {heard : List (Option String)}
    {ticks : List Tick}
    (hHears : listener.Hears pipe w ticks heard)
    (hOpen : w.closed = false)
    (hSucceeds :
      Succeeds w.browser ticks (turns w.pages heard ticks)) :
    ∃ v,
      (serve pipe listener ticks).run w = .ok () v ∧
        w.Leads ((turns w.pages heard ticks).flatMap Turn.calls)
          v := by
  induction ticks generalizing listener heard w with
  | nil =>
      rcases hHears.poll with ⟨later, u, hPoll, hLeads, hSame, _⟩
      rw [← hSame, ← hLeads.browser] at hSucceeds
      rw [← hSame]
      by_cases hPages : u.pages = []
      · rcases guardedRound_run_of_deserted pipe
            (heard.headD none) .last hPages with
          ⟨v, hRound, hEnd⟩
        rw [hPages, turns_of_deserted]
        exact ⟨v, serve_nil_run hPoll hRound, hLeads.trans hEnd⟩
      · rw [turns, if_neg hPages] at hSucceeds ⊢
        rcases guardedRound_run_of_last hPages
            (hSucceeds.reloads _ List.mem_cons_self) with
          ⟨v, hRound, hPasses⟩
        rw [List.flatMap_singleton]
        exact ⟨v, serve_nil_run hPoll hRound,
          hLeads.trans hPasses.toLeads⟩
  | cons tick rest ih =>
      rcases hHears.poll with
        ⟨later, u, hPoll, hLeads, hSame, hClosed, hWaits⟩
      rw [← hSame, ← hLeads.browser] at hSucceeds
      rw [← hSame]
      by_cases hPages : u.pages = []
      · rcases guardedRound_run_of_deserted pipe
            (heard.headD none) tick hPages with
          ⟨v, hRound, hEnd⟩
        rw [hPages, turns_of_deserted]
        exact ⟨v, serve_cons_run hPoll hRound rest,
          hLeads.trans hEnd⟩
      · rw [turns, if_neg hPages] at hSucceeds ⊢
        rcases hSucceeds.of_cons with ⟨hPause, hReloads, hMore⟩
        rcases guardedRound_run hWaits hPages hPause hReloads with
          ⟨v, hRound, hPasses, hLater⟩
        have hRun := serve_cons_run hPoll hRound rest
        have hEnds : v.closed = tick.closes := by
          rw [hPasses.closed, hClosed, hOpen, Bool.false_or]
        rw [List.flatMap_cons]
        cases hCloses : tick.closes with
        | true =>
            rw [hEnds, hCloses] at hRun
            rw [if_pos rfl, List.flatMap_nil, List.append_nil]
            exact ⟨v, hRun, hLeads.trans hPasses.toLeads⟩
        | false =>
            rw [hEnds, hCloses] at hRun
            rw [hCloses, if_neg Bool.false_ne_true,
              ← hPasses.pages, ← hPasses.browser] at hMore
            rw [if_neg Bool.false_ne_true, ← hPasses.pages]
            rcases ih hLater (hEnds.trans hCloses) hMore with
              ⟨x, hServe, hRest⟩
            exact ⟨x, hRun.trans hServe,
              hLeads.trans (hPasses.toLeads.trans hRest)⟩

end Watch

end Replay
