import Replay.Proofs.Channel

/-
  This file describes what one listener and any number of
  senders do on the path of a channel, deed after deed.

  Key definitions include:
    * `Deed`
    * `Scene`
    * `Scene.reply`
    * `Scene.after`
    * `Scene.Tuned`
    * `Scene.Turn`

  Main results:
    * `Scene.Tuned.turn`
    * `Scene.Tuned.after`

  A scene is tuned if a pipe or nothing stands where the path
  leads to, if the listener's end is open, and if nothing
  stands in a pipe of which no end is open.  Every deed keeps
  a scene tuned, and a turn tells all that it can do.
-/

------------------------------------------------------------
-- Deeds
------------------------------------------------------------

namespace Replay

open FileTree Play Text

/- What is done on the path: by the listener, or by a sender. -/
inductive Deed where
  | enter
  | leave
  | poll
  | send (message : String)
  deriving DecidableEq, Repr

/- What comes of a deed that does not fail. -/
inductive Reply where
  | done
  | heard (message : Option String)
  | sent (received : Bool)
  deriving DecidableEq, Repr

/- A deed; a sender has a channel of its own on the path. -/
def Deed.act (listener : Channel) : Deed → Play (Reply × Channel)
  | enter => do
    return (.done, ← listener.attach)
  | leave => do
    return (.done, ← listener.detach)
  | poll => do
    return (.heard (← listener.poll), listener)
  | send message => do
    let sender : Channel := ⟨listener.path, none⟩
    return (.sent (← sender.broadcast message), listener)

------------------------------------------------------------
-- Scenes
------------------------------------------------------------

/- The channel of a listener, and the world that it is in. -/
structure Scene where
  listener : Channel
  world : World

namespace Scene

/- Where the path leads to. -/
def place (scene : Scene) : Place :=
  goal scene.listener.path

/- Does the listener hold an end by which it can poll? -/
def inside (scene : Scene) : Bool :=
  scene.listener.handle.isSome

/- Is an end open at all? -/
def attached (scene : Scene) : Bool :=
  scene.world.hasReader scene.place

/- What was sent and is not read yet. -/
def pending (scene : Scene) : List UInt8 :=
  scene.world.pendingAt scene.place

/-
  What comes of a deed, and the scene after it.  A deed that
  fails leaves the listener as it was.
-/
def does
    (scene : Scene)
    (deed : Deed) : Except Failure Reply × Scene :=
  match (deed.act scene.listener).run scene.world with
  | .ok (reply, listener) w => (.ok reply, ⟨listener, w⟩)
  | .error failure w => (.error failure, ⟨scene.listener, w⟩)

def reply
    (scene : Scene)
    (deed : Deed) : Except Failure Reply :=
  (scene.does deed).1

def next
    (scene : Scene)
    (deed : Deed) : Scene :=
  (scene.does deed).2

/- The scene after some deeds. -/
def after
    (scene : Scene)
    (deeds : List Deed) : Scene :=
  deeds.foldl next scene

@[simp] theorem after_nil (scene : Scene) :
    scene.after [] = scene := rfl

@[simp] theorem after_cons
    (scene : Scene)
    (deed : Deed)
    (rest : List Deed) :
    scene.after (deed :: rest) = (scene.next deed).after rest := rfl

/- Deeds are done in their order. -/
theorem after_append
    (scene : Scene)
    (deeds rest : List Deed) :
    scene.after (deeds ++ rest) = (scene.after deeds).after rest :=
  List.foldl_append

------------------------------------------------------------
-- Tuned Scenes
------------------------------------------------------------

/- What holds of a scene between any two deeds. -/
structure Tuned (scene : Scene) : Prop where
  /- No file stands where the path leads to. -/
  noFile : scene.world.files.held? scene.place = none
  /- An open end is the end of a pipe that is there. -/
  pipe :
    scene.attached = true →
      scene.world.files.standing? scene.listener.path = some .pipe
  /- The listener's end is open. -/
  own :
    ∀ id,
      scene.listener.handle = some id →
        scene.world.handles.lookup id = some ⟨scene.place, 0⟩
  /- Nothing stands in a pipe of which no end is open. -/
  silent : scene.attached = false → scene.pending = []

/- A quiet scene: nobody listens, and nothing was sent. -/
structure Quiet (scene : Scene) : Prop where
  noFile : scene.world.files.held? scene.place = none
  outside : scene.listener.handle = none
  unattached : scene.attached = false
  nothing : scene.pending = []

/- A quiet scene is in tune. -/
theorem Quiet.tuned
    {scene : Scene}
    (hQuiet : scene.Quiet) :
    scene.Tuned where
  noFile := hQuiet.noFile
  pipe := by
    intro hAttached
    rw [hQuiet.unattached] at hAttached
    cases hAttached
  own := by
    intro id hInside
    rw [hQuiet.outside] at hInside
    cases hInside
  silent _ := hQuiet.nothing

/- A scene with a path on which nothing is there yet. -/
def quietScene : Scene :=
  ⟨⟨.ofText "run/browser.fifo", none⟩, .start .empty .blank⟩

theorem quiet_quietScene :
    quietScene.Quiet :=
  ⟨rfl, rfl, rfl, rfl⟩

/- All that a deed can do in a tuned scene. -/
inductive Turn (scene : Scene) :
    Deed → Except Failure Reply → Scene → Prop
  | entered (u : World) :
      scene.world.Prepared u →
      u.files.standing? scene.listener.path = some .pipe →
      Turn scene .enter (.ok .done)
        ⟨{ scene.listener with handle := some u.freshHandle },
          u.withEnd scene.listener.path⟩
  | barred (u : World) (fault : FileTree.Fault) :
      scene.attached = false →
      scene.world.Prepared u →
      Turn scene .enter (.error (.files fault))
        ⟨scene.listener, u⟩
  | stayedOut :
      scene.listener.handle = none →
      Turn scene .leave (.ok .done) scene
  | left (id : Nat) :
      scene.listener.handle = some id →
      Turn scene .leave (.ok .done)
        ⟨{ scene.listener with handle := none },
          scene.world.closeHandle id⟩
  | refused :
      scene.listener.handle = none →
      Turn scene .poll
        (.error (.runtime
          "ReloadChannel.poll() called outside 'with channel:'"))
        scene
  | polled :
      scene.inside = true →
      Turn scene .poll
        ((Channel.reading (scene.pending.take chunkLimit)).map .heard)
        ⟨scene.listener, scene.world.drained scene.place⟩
  | received (message : String) :
      scene.attached = true →
      Turn scene (.send message) (.ok (.sent true))
        ⟨scene.listener,
          scene.world.setPending scene.place
            (scene.pending ++ Utf8.bytesOf message)⟩
  | unheard (message : String) (u : World) :
      scene.attached = false →
      scene.world.Prepared u →
      Turn scene (.send message) (.ok (.sent false))
        ⟨scene.listener, u⟩
  | failed (message : String) (u : World) (fault : FileTree.Fault) :
      scene.attached = false →
      scene.world.Prepared u →
      Turn scene (.send message) (.error (.files fault))
        ⟨scene.listener, u⟩

namespace Turn

variable {scene : Scene}
variable {deed : Deed}

/- A deed that succeeds takes its listener along. -/
theorem of_ok
    {reply : Reply}
    {listener : Channel}
    {u : World}
    (hRun :
      (deed.act scene.listener).run scene.world =
        .ok (reply, listener) u)
    (hTurn : scene.Turn deed (.ok reply) ⟨listener, u⟩) :
    scene.Turn deed (scene.reply deed) (scene.next deed) := by
  have hDoes : scene.does deed = (.ok reply, ⟨listener, u⟩) := by
    rw [does, hRun]
  rw [Scene.reply, Scene.next, hDoes]
  exact hTurn

/- A deed that fails leaves the listener as it was. -/
theorem of_error
    {failure : Failure}
    {u : World}
    (hRun :
      (deed.act scene.listener).run scene.world =
        .error failure u)
    (hTurn :
      scene.Turn deed (.error failure) ⟨scene.listener, u⟩) :
    scene.Turn deed (scene.reply deed) (scene.next deed) := by
  have hDoes :
      scene.does deed = (.error failure, ⟨scene.listener, u⟩) := by
    rw [does, hRun]
  rw [Scene.reply, Scene.next, hDoes]
  exact hTurn

end Turn

namespace Tuned

variable {scene : Scene}

/- A listener that is inside holds an open end. -/
theorem attached_of_inside
    (hTuned : scene.Tuned)
    (hInside : scene.inside = true) :
    scene.attached = true := by
  rcases Option.isSome_iff_exists.mp hInside with ⟨id, hHandle⟩
  exact World.hasReader_of_lookup (hTuned.own id hHandle)

/- To enter attaches the listener, or fails. -/
theorem turn_enter (hTuned : scene.Tuned) :
    scene.Turn .enter (scene.reply .enter) (scene.next .enter) := by
  cases hAttached : scene.attached with
  | true =>
      have hPipe := hTuned.pipe hAttached
      have hRun := Channel.attach_run_of_standing hPipe
      exact .of_ok (by simp [Deed.act, hRun])
        (.entered _ (refl_of World.Prepared _) hPipe)
  | false =>
      rcases Channel.attach_meets scene.listener hTuned.noFile with
        ⟨u, hPrepared, hPipe, hRun⟩ |
          ⟨u, fault, hPrepared, hRun⟩
      · exact .of_ok (by simp [Deed.act, hRun])
          (.entered u hPrepared hPipe)
      · exact .of_error (by simp [Deed.act, hRun])
          (.barred u fault hAttached hPrepared)

/- To leave closes the handle, if there is one. -/
theorem turn_leave (scene : Scene) :
    scene.Turn .leave (scene.reply .leave) (scene.next .leave) := by
  cases hHandle : scene.listener.handle with
  | none =>
      exact .of_ok (by simp [Deed.act, Channel.detach, hHandle])
        (.stayedOut hHandle)
  | some id =>
      exact .of_ok (by simp [Deed.act, Channel.detach, hHandle])
        (.left id hHandle)

/- A poll drains the pipe, or fails outside. -/
theorem turn_poll (hTuned : scene.Tuned) :
    scene.Turn .poll (scene.reply .poll) (scene.next .poll) := by
  cases hHandle : scene.listener.handle with
  | none =>
      have hRun := Channel.poll_run_of_outside hHandle scene.world
      exact .of_error (by simp [Deed.act, hRun])
        (.refused hHandle)
  | some id =>
      have hRun :=
        Channel.poll_run hHandle (hTuned.own id hHandle)
          hTuned.noFile
      have hInside : scene.inside = true := by
        rw [inside, hHandle]
        rfl
      have hTurn := Turn.polled hInside
      have hChunk :
          scene.world.chunkAt scene.place =
            scene.pending.take chunkLimit := rfl
      rw [hChunk] at hRun
      cases hReading :
          Channel.reading (scene.pending.take chunkLimit) with
      | ok message =>
          rw [hReading] at hRun hTurn
          exact .of_ok (by simp [Deed.act, hRun]) hTurn
      | error failure =>
          rw [hReading] at hRun hTurn
          exact .of_error (by simp [Deed.act, hRun]) hTurn

/- A message is put where a reader is, or nowhere. -/
theorem turn_send
    (hTuned : scene.Tuned)
    (message : String) :
    scene.Turn (.send message) (scene.reply (.send message))
      (scene.next (.send message)) := by
  let sender : Channel := ⟨scene.listener.path, none⟩
  cases hAttached : scene.attached with
  | true =>
      have hPipe := hTuned.pipe hAttached
      have hRun :
          (sender.broadcast message).run scene.world =
            .ok true (scene.world.setPending scene.place
              (scene.pending ++ Utf8.bytesOf message)) :=
        Channel.broadcast_run_of_hasReader hPipe hAttached message
      exact .of_ok (by simp [Deed.act, sender, hRun])
        (.received message hAttached)
  | false =>
      rcases @Channel.broadcast_meets_of_not_hasReader sender _
          hTuned.noFile hAttached message with
        ⟨u, hPrepared, hRun⟩ | ⟨u, fault, hPrepared, hRun⟩
      · exact .of_ok (by simp [Deed.act, sender, hRun])
          (.unheard message u hAttached hPrepared)
      · exact .of_error (by simp [Deed.act, sender, hRun])
          (.failed message u fault hAttached hPrepared)

/- In a tuned scene every deed is one of the turns. -/
theorem turn
    (hTuned : scene.Tuned)
    (deed : Deed) :
    scene.Turn deed (scene.reply deed) (scene.next deed) := by
  cases deed with
  | enter =>
      exact hTuned.turn_enter
  | leave =>
      exact turn_leave scene
  | poll =>
      exact hTuned.turn_poll
  | send message =>
      exact hTuned.turn_send message

/- What is prepared for a pipe keeps a scene in tune. -/
theorem prepared
    (hTuned : scene.Tuned)
    {u : World}
    (hPrepared : scene.world.Prepared u) :
    Tuned ⟨scene.listener, u⟩ where
  noFile := (hPrepared.1.2 scene.place).trans hTuned.noFile
  pipe hAttached := by
    apply hPrepared.1.standing?_eq_some
    apply hTuned.pipe
    rwa [attached, place, hPrepared.hasReader] at hAttached
  own id hHandle := by
    rw [hPrepared.handles]
    exact hTuned.own id hHandle
  silent hAttached := by
    rw [attached, place, hPrepared.hasReader] at hAttached
    rw [pending, place, hPrepared.pendingAt]
    exact hTuned.silent hAttached

/- The end that was opened last is open. -/
theorem attached_withEnd
    (path : Path)
    (handle : Option Nat)
    (w : World) :
    attached ⟨⟨path, handle⟩, w.withEnd path⟩ = true := by
  refine World.hasReader_iff.mpr
    ⟨w.freshHandle, ⟨goal path, 0⟩, ?_, rfl⟩
  exact List.mem_append_right _ List.mem_cons_self

/- A new end of the pipe is the one the listener has. -/
theorem withEnd
    (hTuned : scene.Tuned)
    (hPipe :
      scene.world.files.standing? scene.listener.path =
        some .pipe) :
    Tuned
      ⟨{ scene.listener with
          handle := some scene.world.freshHandle },
        scene.world.withEnd scene.listener.path⟩ where
  noFile := hTuned.noFile
  pipe _ := hPipe
  own id hHandle := by
    cases hHandle
    change (scene.world.handles ++ _).lookup _ = _
    rw [List.lookup_append, World.lookup_freshHandle]
    exact List.lookup_cons_self
  silent hAttached := by
    rw [attached_withEnd] at hAttached
    cases hAttached

/- No end is opened by closing one. -/
theorem attached_of_closeHandle
    {handle : Option Nat}
    {id : Nat}
    (hAttached :
      attached
        ⟨{ scene.listener with handle := handle },
          scene.world.closeHandle id⟩ =
          true) :
    scene.attached = true := by
  rcases World.hasReader_iff.mp hAttached with
    ⟨other, end', hMember, hPlace⟩
  exact World.hasReader_iff.mpr
    ⟨other, end', (List.mem_filter.mp hMember).1, hPlace⟩

/- A handle that is closed is not known any more. -/
theorem closeHandle
    (hTuned : scene.Tuned)
    (id : Nat) :
    Tuned
      ⟨{ scene.listener with handle := none },
        scene.world.closeHandle id⟩ where
  noFile := hTuned.noFile
  pipe hAttached := hTuned.pipe (attached_of_closeHandle hAttached)
  own id hHandle := by
    cases hHandle
  silent hAttached := by
    unfold pending
    rw [World.pendingAt_closeHandle, if_neg]
    simpa [attached] using hAttached

/- What is pending may change where there is a reader. -/
theorem setPending
    (hTuned : scene.Tuned)
    (hAttached : scene.attached = true)
    (bytes : List UInt8) :
    Tuned
      ⟨scene.listener,
        scene.world.setPending scene.place bytes⟩ where
  noFile := hTuned.noFile
  pipe := hTuned.pipe
  own := hTuned.own
  silent hSilent := by
    change scene.attached = false at hSilent
    rw [hAttached] at hSilent
    cases hSilent

theorem drained (hTuned : scene.Tuned) :
    Tuned ⟨scene.listener, scene.world.drained scene.place⟩ := by
  unfold World.drained
  split
  · exact hTuned
  · rename_i hPending
    cases hAttached : scene.attached with
    | true =>
        exact hTuned.setPending hAttached _
    | false =>
        exact absurd (hTuned.silent hAttached) hPending

/- Every deed keeps a scene tuned. -/
theorem next
    (hTuned : scene.Tuned)
    (deed : Deed) :
    (scene.next deed).Tuned := by
  have hTurn := hTuned.turn deed
  generalize scene.reply deed = reply at hTurn
  generalize scene.next deed = later at hTurn ⊢
  cases hTurn with
  | entered u hPrepared hPipe =>
      exact (hTuned.prepared hPrepared).withEnd hPipe
  | barred u fault hAttached hPrepared =>
      exact hTuned.prepared hPrepared
  | stayedOut hOutside =>
      exact hTuned
  | left id hInside =>
      exact hTuned.closeHandle id
  | refused hOutside =>
      exact hTuned
  | polled hInside =>
      exact hTuned.drained
  | received message hAttached =>
      exact hTuned.setPending hAttached _
  | unheard message u hAttached hPrepared =>
      exact hTuned.prepared hPrepared
  | failed message u fault hAttached hPrepared =>
      exact hTuned.prepared hPrepared

/- So do any deeds. -/
theorem after
    (hTuned : scene.Tuned)
    (deeds : List Deed) :
    (scene.after deeds).Tuned := by
  induction deeds generalizing scene with
  | nil =>
      exact hTuned
  | cons deed rest ih =>
      exact ih (hTuned.next deed)

------------------------------------------------------------
-- What Is Seen of a Turn
------------------------------------------------------------

/- To enter drops nothing of what is pending. -/
theorem enter_of_ok
    (hTuned : scene.Tuned)
    (hReply : scene.reply .enter = .ok .done) :
    (scene.next .enter).inside = true ∧
      (scene.next .enter).pending = scene.pending := by
  have hTurn := hTuned.turn .enter
  rw [hReply] at hTurn
  generalize scene.next .enter = later at hTurn ⊢
  cases hTurn with
  | entered u hPrepared hPipe =>
      exact ⟨rfl, hPrepared.pendingAt scene.place⟩

/- An end is opened beside one that is open. -/
theorem enter_of_attached
    (hTuned : scene.Tuned)
    (hAttached : scene.attached = true) :
    scene.reply .enter = .ok .done := by
  have hTurn := hTuned.turn .enter
  generalize scene.reply .enter = reply at hTurn ⊢
  generalize scene.next .enter = later at hTurn
  cases hTurn with
  | entered u hPrepared hPipe =>
      rfl
  | barred u fault hUnattached hPrepared =>
      rw [hAttached] at hUnattached
      cases hUnattached

/- Inside, a poll tells of the first chunk and takes it. -/
theorem poll_of_inside
    (hTuned : scene.Tuned)
    (hInside : scene.inside = true) :
    scene.reply .poll =
        (Channel.reading (scene.pending.take chunkLimit)).map
          .heard ∧
      (scene.next .poll).inside = true ∧
      (scene.next .poll).pending =
        scene.pending.drop chunkLimit := by
  have hTurn := hTuned.turn .poll
  generalize scene.reply .poll = reply at hTurn ⊢
  generalize scene.next .poll = later at hTurn ⊢
  cases hTurn with
  | refused hOutside =>
      rw [inside, hOutside] at hInside
      cases hInside
  | polled _ =>
      exact ⟨rfl, hInside, World.pendingAt_drained _ _⟩

/- To a reader every message is sent as a whole. -/
theorem send_of_attached
    (hTuned : scene.Tuned)
    (hAttached : scene.attached = true)
    (message : String) :
    scene.reply (.send message) = .ok (.sent true) ∧
      (scene.next (.send message)).inside = scene.inside ∧
      (scene.next (.send message)).pending =
        scene.pending ++ Utf8.bytesOf message := by
  have hTurn := hTuned.turn (.send message)
  generalize scene.reply (.send message) = reply at hTurn ⊢
  generalize scene.next (.send message) = later at hTurn ⊢
  cases hTurn with
  | received _ _ =>
      exact ⟨rfl, rfl, World.pendingAt_setPending _ _ _⟩
  | unheard _ u hUnattached hPrepared =>
      rw [hAttached] at hUnattached
      cases hUnattached
  | failed _ u fault hUnattached hPrepared =>
      rw [hAttached] at hUnattached
      cases hUnattached

/- Without a reader no message is sent. -/
theorem send_of_unattached
    (hTuned : scene.Tuned)
    (hUnattached : scene.attached = false)
    (message : String) :
    scene.reply (.send message) = .ok (.sent false) ∨
      ∃ fault,
        scene.reply (.send message) = .error (.files fault) := by
  have hTurn := hTuned.turn (.send message)
  generalize scene.reply (.send message) = reply at hTurn ⊢
  generalize scene.next (.send message) = later at hTurn
  cases hTurn with
  | received _ hAttached =>
      rw [hAttached] at hUnattached
      cases hUnattached
  | unheard _ u _ hPrepared =>
      exact Or.inl rfl
  | failed _ u fault _ hPrepared =>
      exact Or.inr ⟨fault, rfl⟩

/- What is pending is left, lost, read, or followed by more. -/
theorem pending_next
    (hTuned : scene.Tuned)
    (deed : Deed) :
    (scene.next deed).pending = scene.pending ∨
      (scene.next deed).pending = [] ∨
      (scene.next deed).pending = scene.pending.drop chunkLimit ∨
      ∃ message,
        deed = .send message ∧
          (scene.next deed).pending =
            scene.pending ++ Utf8.bytesOf message := by
  have hTurn := hTuned.turn deed
  generalize scene.reply deed = reply at hTurn
  generalize scene.next deed = later at hTurn ⊢
  cases hTurn with
  | entered u hPrepared hPipe =>
      exact Or.inl (hPrepared.pendingAt scene.place)
  | barred u fault hAttached hPrepared =>
      exact Or.inl (hPrepared.pendingAt scene.place)
  | stayedOut hOutside =>
      exact Or.inl rfl
  | left id hInside =>
      have hPending :=
        World.pendingAt_closeHandle scene.world id scene.place
      split at hPending
      · exact Or.inl hPending
      · exact Or.inr (Or.inl hPending)
  | refused hOutside =>
      exact Or.inl rfl
  | polled hInside =>
      exact Or.inr (Or.inr (Or.inl (World.pendingAt_drained _ _)))
  | received message hAttached =>
      exact Or.inr (Or.inr (Or.inr
        ⟨message, rfl, World.pendingAt_setPending _ _ _⟩))
  | unheard message u hAttached hPrepared =>
      exact Or.inl (hPrepared.pendingAt scene.place)
  | failed message u fault hAttached hPrepared =>
      exact Or.inl (hPrepared.pendingAt scene.place)

end Tuned

end Scene

end Replay
