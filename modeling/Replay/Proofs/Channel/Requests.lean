import Replay.Proofs.Channel.Scenes

/-
  This file proves that every request to reload the pages is
  heard by the next poll of the listener, however many of
  them are pending and wherever earlier polls have cut them.

  Key definitions include:
    * `IsLeftover`
    * `Scene.Orderly`
    * `Scene.Serves`

  Main results:
    * `IsLeftover.drop`
    * `IsLeftover.isInfix_take`
    * `Scene.leftover_after`
    * `Scene.IsSolo.attached_eq`
    * `Scene.serves_after`

  Whatever was read of requests, what is left of them is the
  rest of one and some whole ones.  A whole one is always
  near enough to the start to be read at once.
-/

------------------------------------------------------------
-- What Is Left of Requests
------------------------------------------------------------

namespace Replay

open FileTree Play Text

/- The rest of a request that was cut, and whole ones. -/
def IsLeftover
    (count : Nat)
    (bytes : List UInt8) : Prop :=
  ∃ rest,
    rest <:+ requestBytes ∧
      rest ≠ requestBytes ∧
      bytes = rest ++ (List.replicate count requestBytes).flatten

namespace IsLeftover

variable {count : Nat}
variable {bytes : List UInt8}

theorem nil :
    IsLeftover 0 [] :=
  ⟨[], List.nil_suffix, List.cons_ne_nil _ _ ∘ Eq.symm, rfl⟩

/- One more request follows the others. -/
theorem append (hLeftover : IsLeftover count bytes) :
    IsLeftover (count + 1) (bytes ++ requestBytes) := by
  rcases hLeftover with ⟨rest, hRest, hCut, rfl⟩
  refine ⟨rest, hRest, hCut, ?_⟩
  rw [List.replicate_succ', List.flatten_append,
    List.flatten_singleton, List.append_assoc]

/- A byte is read of the rest, or of the first whole one. -/
theorem tail (hLeftover : IsLeftover count bytes) :
    ∃ fewer, IsLeftover fewer bytes.tail := by
  rcases hLeftover with ⟨rest, hRest, hCut, rfl⟩
  cases rest with
  | cons b more =>
      have hMore : more <:+ requestBytes :=
        (List.suffix_cons b more).trans hRest
      refine ⟨count, more, hMore, ?_, rfl⟩
      rintro rfl
      have hLength := hRest.length_le
      rw [List.length_cons] at hLength
      omega
  | nil =>
      cases count with
      | zero =>
          exact ⟨0, nil⟩
      | succ fewer =>
          refine ⟨fewer, requestBytes.tail,
            List.tail_suffix _, ?_, ?_⟩
          · intro hSame
            have hLength := congrArg List.length hSame
            cases hLength
          · rw [List.nil_append, List.replicate_succ,
              List.flatten_cons]
            rfl

/- So is any number of bytes. -/
theorem drop
    (hLeftover : IsLeftover count bytes)
    (n : Nat) :
    ∃ fewer, IsLeftover fewer (bytes.drop n) := by
  induction n generalizing count bytes with
  | zero =>
      exact ⟨count, hLeftover⟩
  | succ n ih =>
      rcases hLeftover.tail with ⟨fewer, hTail⟩
      rw [← List.drop_tail]
      exact ih hTail

/- The first whole request is read at once. -/
theorem isInfix_take
    (hLeftover : IsLeftover (count + 1) bytes) :
    requestBytes <:+: bytes.take chunkLimit := by
  rcases hLeftover with ⟨rest, hRest, _, rfl⟩
  have hStart :
      rest ++ requestBytes <+:
        rest ++ (List.replicate (count + 1) requestBytes).flatten := by
    rw [List.replicate_succ, List.flatten_cons,
      List.prefix_append_right_inj]
    exact List.prefix_append _ _
  have hLength : (rest ++ requestBytes).length ≤ chunkLimit := by
    have hRequest : requestBytes.length = 10 := rfl
    have hShort := hRest.length_le
    rw [List.length_append, chunkLimit]
    omega
  have hRead := List.prefix_take_iff.mpr ⟨hStart, hLength⟩
  exact (List.suffix_append rest requestBytes).isInfix.trans
    hRead.isInfix

/- All of it is plain, so that no cut falls into a character. -/
theorem isText_take
    (hLeftover : IsLeftover count bytes)
    (n : Nat) :
    Utf8.IsText (bytes.take n) := by
  have hPlain : ∀ b ∈ requestBytes, b.toNat < 128 := by
    have hAll :
        (requestBytes.all fun b => b.toNat < 128) = true := rfl
    simpa using hAll
  rcases hLeftover with ⟨rest, hRest, _, rfl⟩
  apply Utf8.isText_of_lt
  intro b hMember
  rcases List.mem_append.mp (List.mem_of_mem_take hMember) with
    hIn | hIn
  · exact hPlain b (hRest.subset hIn)
  · rcases List.mem_flatten.mp hIn with ⟨whole, hWhole, hByte⟩
    rw [List.eq_of_mem_replicate hWhole] at hByte
    exact hPlain b hByte

end IsLeftover

------------------------------------------------------------
-- Scenes of Requests
------------------------------------------------------------

/- Nothing is sent but the request to reload all pages. -/
def Deed.IsDefault : Deed → Prop
  | send message => message = reloadAll
  | _ => True

instance (deed : Deed) : Decidable deed.IsDefault := by
  cases deed with
  | send message =>
      exact inferInstanceAs (Decidable (message = reloadAll))
  | _ => exact inferInstanceAs (Decidable True)

namespace Scene

variable {scene : Scene}

/- What is left over of requests is so after each deed too. -/
theorem leftover_next
    (hTuned : scene.Tuned)
    {deed : Deed}
    (hDefault : deed.IsDefault)
    {count : Nat}
    (hLeftover : IsLeftover count scene.pending) :
    ∃ later, IsLeftover later (scene.next deed).pending := by
  rcases hTuned.pending_next deed with
    hSame | hLost | hRead | ⟨message, rfl, hSent⟩
  · rw [hSame]
    exact ⟨count, hLeftover⟩
  · rw [hLost]
    exact ⟨0, .nil⟩
  · rw [hRead]
    exact hLeftover.drop chunkLimit
  · cases hDefault
    rw [hSent]
    exact ⟨count + 1, hLeftover.append⟩

/- Whatever is done, requests are left over. -/
theorem leftover_after
    (hTuned : scene.Tuned)
    {deeds : List Deed}
    (hDefault : ∀ deed ∈ deeds, deed.IsDefault)
    {count : Nat}
    (hLeftover : IsLeftover count scene.pending) :
    ∃ later, IsLeftover later (scene.after deeds).pending := by
  induction deeds generalizing scene count with
  | nil =>
      exact ⟨count, hLeftover⟩
  | cons deed rest ih =>
      rw [List.forall_mem_cons] at hDefault
      rcases leftover_next hTuned hDefault.1 hLeftover with
        ⟨later, hLater⟩
      exact ih (hTuned.next deed) hDefault.2 hLater

------------------------------------------------------------
-- Sessions
------------------------------------------------------------

/-
  The listener comes only while it is outside.  An end that
  is opened beside another one stays open for ever.
-/
def Orderly : Scene → List Deed → Prop
  | _, [] => True
  | scene, deed :: rest =>
    (deed = .enter → scene.inside = false) ∧
      Orderly (scene.next deed) rest

/- No end is open but the one by which the listener polls. -/
def IsSolo (scene : Scene) : Prop :=
  ∀ id handle,
    (id, handle) ∈ scene.world.handles →
      handle.place = scene.place →
        scene.listener.handle = some id

/- A deed leaves the listener the only one. -/
theorem IsSolo.next
    (hSolo : scene.IsSolo)
    (hTuned : scene.Tuned)
    {deed : Deed}
    (hOrderly : deed = .enter → scene.inside = false) :
    (scene.next deed).IsSolo := by
  have hTurn := hTuned.turn deed
  generalize scene.reply deed = reply at hTurn
  generalize scene.next deed = later at hTurn ⊢
  intro id handle hMember hPlace
  cases hTurn with
  | entered u hPrepared hPipe =>
      rcases List.mem_append.mp hMember with hOld | hNew
      · rw [hPrepared.handles] at hOld
        have hInside := hOrderly rfl
        rw [inside, hSolo id handle hOld hPlace] at hInside
        cases hInside
      · cases List.mem_singleton.mp hNew
        rfl
  | barred u fault hAttached hPrepared =>
      rw [hPrepared.handles] at hMember
      exact hSolo id handle hMember hPlace
  | stayedOut hOutside =>
      exact hSolo id handle hMember hPlace
  | left closed hInside =>
      rcases List.mem_filter.mp hMember with ⟨hOpen, hOther⟩
      have hOwn := hSolo id handle hOpen hPlace
      rw [hInside, Option.some.injEq] at hOwn
      simp [hOwn] at hOther
  | refused hOutside =>
      exact hSolo id handle hMember hPlace
  | polled hInside =>
      rw [World.handles_drained] at hMember
      exact hSolo id handle hMember hPlace
  | received message hAttached =>
      exact hSolo id handle hMember hPlace
  | unheard message u hAttached hPrepared =>
      rw [hPrepared.handles] at hMember
      exact hSolo id handle hMember hPlace
  | failed message u fault hAttached hPrepared =>
      rw [hPrepared.handles] at hMember
      exact hSolo id handle hMember hPlace

/- So do all deeds of an orderly row. -/
theorem IsSolo.after
    (hSolo : scene.IsSolo)
    (hTuned : scene.Tuned)
    {deeds : List Deed}
    (hOrderly : scene.Orderly deeds) :
    (scene.after deeds).IsSolo := by
  induction deeds generalizing scene with
  | nil =>
      exact hSolo
  | cons deed rest ih =>
      exact ih (hSolo.next hTuned hOrderly.1)
        (hTuned.next deed) hOrderly.2

/- Then an end is open just while the listener is inside. -/
theorem IsSolo.attached_eq
    (hSolo : scene.IsSolo)
    (hTuned : scene.Tuned) :
    scene.attached = scene.inside := by
  rw [Bool.eq_iff_iff]
  constructor
  · intro hAttached
    rcases World.hasReader_iff.mp hAttached with
      ⟨id, handle, hMember, hPlace⟩
    rw [inside, hSolo id handle hMember hPlace]
    rfl
  · exact hTuned.attached_of_inside

theorem Quiet.isSolo
    (hQuiet : scene.Quiet) :
    scene.IsSolo := by
  intro id handle hMember hPlace
  have hAttached : scene.attached = true :=
    World.hasReader_iff.mpr ⟨id, handle, hMember, hPlace⟩
  rw [hQuiet.unattached] at hAttached
  cases hAttached

------------------------------------------------------------
-- Requests That Are Heard
------------------------------------------------------------

/- How requests are served from a scene on. -/
structure Serves (scene : Scene) : Prop where
  /- A request is received while an end is open. -/
  received :
    scene.attached = true →
      scene.reply (.send reloadAll) = .ok (.sent true)
  /- It is not otherwise, even if there is no pipe to open. -/
  unheard :
    scene.attached = false →
      scene.reply (.send reloadAll) = .ok (.sent false) ∨
        ∃ fault,
          scene.reply (.send reloadAll) = .error (.files fault)
  /- The first poll after it in a session hears it. -/
  heard :
    scene.inside = true →
      ∀ between,
        (∀ deed ∈ between,
          deed = .enter ∨ deed = .send reloadAll) →
          ∃ text,
            (scene.after (.send reloadAll :: between)).reply .poll =
                .ok (.heard (some text)) ∧
              asksForReload text = true
  /- In a session in which nothing was sent, nothing is heard. -/
  nothing :
    scene.attached = false →
      scene.reply .enter = .ok .done →
        ∀ since,
          (∀ deed ∈ since, deed = .enter ∨ deed = .poll) →
            (scene.after (.enter :: since)).reply .poll =
              .ok (.heard none)

/- A whole request is pending. -/
def Waits (scene : Scene) : Prop :=
  ∃ count, IsLeftover (count + 1) scene.pending

/- Where a request waits, a poll hears one. -/
theorem poll_of_waits
    (hTuned : scene.Tuned)
    (hInside : scene.inside = true)
    (hWaits : scene.Waits) :
    ∃ text,
      scene.reply .poll = .ok (.heard (some text)) ∧
        asksForReload text = true := by
  rcases hWaits with ⟨count, hLeftover⟩
  have hText := hLeftover.isText_take chunkLimit
  rcases (Channel.reading_asks_iff hText).mpr
      hLeftover.isInfix_take with
    ⟨text, hRead, hAsks⟩
  refine ⟨text, ?_, hAsks⟩
  rw [(hTuned.poll_of_inside hInside).1, hRead]
  rfl

/- It waits while others are sent and no poll is made. -/
theorem poll_after_waits
    (hTuned : scene.Tuned)
    (hInside : scene.inside = true)
    (hWaits : scene.Waits)
    {between : List Deed}
    (hBetween :
      ∀ deed ∈ between,
        deed = .enter ∨ deed = .send reloadAll) :
    ∃ text,
      (scene.after between).reply .poll =
          .ok (.heard (some text)) ∧
        asksForReload text = true := by
  induction between generalizing scene with
  | nil =>
      exact poll_of_waits hTuned hInside hWaits
  | cons deed rest ih =>
      have hAttached := hTuned.attached_of_inside hInside
      rw [List.forall_mem_cons] at hBetween
      rcases hBetween with ⟨rfl | rfl, hRest⟩
      · have hDone := hTuned.enter_of_attached hAttached
        rcases hTuned.enter_of_ok hDone with ⟨hStill, hPending⟩
        apply ih (hTuned.next .enter) hStill _ hRest
        rwa [Waits, hPending]
      · rcases hTuned.send_of_attached hAttached reloadAll with
          ⟨_, hStill, hPending⟩
        rcases hWaits with ⟨count, hLeftover⟩
        apply ih (hTuned.next _) (hStill.trans hInside) _ hRest
        rw [Waits, hPending]
        exact ⟨count + 1, hLeftover.append⟩

/- Polls of a pipe in which nothing stands hear nothing. -/
theorem poll_after_nothing
    (hTuned : scene.Tuned)
    (hInside : scene.inside = true)
    (hNothing : scene.pending = [])
    {since : List Deed}
    (hSince : ∀ deed ∈ since, deed = .enter ∨ deed = .poll) :
    (scene.after since).reply .poll = .ok (.heard none) := by
  induction since generalizing scene with
  | nil =>
      rw [after_nil, (hTuned.poll_of_inside hInside).1, hNothing]
      rfl
  | cons deed rest ih =>
      rw [List.forall_mem_cons] at hSince
      rcases hSince with ⟨rfl | rfl, hRest⟩
      · have hAttached := hTuned.attached_of_inside hInside
        have hDone := hTuned.enter_of_attached hAttached
        rcases hTuned.enter_of_ok hDone with ⟨hStill, hPending⟩
        exact ih (hTuned.next .enter) hStill
          (hPending.trans hNothing) hRest
      · rcases hTuned.poll_of_inside hInside with
          ⟨_, hStill, hPending⟩
        apply ih (hTuned.next .poll) hStill _ hRest
        rw [hPending, hNothing, List.drop_nil]

/- With nothing but requests left over, requests are served. -/
theorem serves_of_leftover
    (hTuned : scene.Tuned)
    {count : Nat}
    (hLeftover : IsLeftover count scene.pending) :
    scene.Serves where
  received hAttached :=
    (hTuned.send_of_attached hAttached reloadAll).1
  unheard hUnattached :=
    hTuned.send_of_unattached hUnattached reloadAll
  heard hInside between hBetween := by
    have hAttached := hTuned.attached_of_inside hInside
    rcases hTuned.send_of_attached hAttached reloadAll with
      ⟨_, hStill, hPending⟩
    have hWaits : (scene.next (.send reloadAll)).Waits := by
      rw [Waits, hPending]
      exact ⟨count, hLeftover.append⟩
    exact poll_after_waits (hTuned.next _)
      (hStill.trans hInside) hWaits hBetween
  nothing hUnattached hDone since hSince := by
    rcases hTuned.enter_of_ok hDone with ⟨hStill, hPending⟩
    exact poll_after_nothing (hTuned.next .enter) hStill
      (hPending.trans (hTuned.silent hUnattached)) hSince

/-
  Whatever one listener and any number of senders of requests
  do on a quiet path, each request reaches the next poll.  If
  the listener comes only while it is outside, it is attached
  just while it is inside.
-/
theorem serves_after
    (hQuiet : scene.Quiet)
    {deeds : List Deed}
    (hDefault : ∀ deed ∈ deeds, deed.IsDefault) :
    (scene.after deeds).Serves ∧
      (scene.Orderly deeds →
        (scene.after deeds).attached =
          (scene.after deeds).inside) := by
  have hTuned := hQuiet.tuned
  have hStart : IsLeftover 0 scene.pending := by
    rw [hQuiet.nothing]
    exact .nil
  rcases leftover_after hTuned hDefault hStart with
    ⟨count, hLeftover⟩
  constructor
  · exact serves_of_leftover (hTuned.after deeds) hLeftover
  · intro hOrderly
    exact (hQuiet.isSolo.after hTuned hOrderly).attached_eq
      (hTuned.after deeds)

/- A session with two requests that are read together. -/
def someDeeds : List Deed :=
  [.send reloadAll, .enter, .send reloadAll, .send reloadAll, .poll]

/- After some deeds a request is still heard. -/
theorem serves_after_of_someDeeds :
    quietScene.Quiet ∧
      (∀ deed ∈ someDeeds, deed.IsDefault) ∧
      quietScene.Orderly someDeeds ∧
      (quietScene.after someDeeds).attached = true ∧
      ∃ text,
        ((quietScene.after someDeeds).after
            [.send reloadAll]).reply .poll =
            .ok (.heard (some text)) ∧
          asksForReload text = true := by
  have hQuiet := quiet_quietScene
  have hDefault : ∀ deed ∈ someDeeds, deed.IsDefault := by
    decide
  have hOrderly : quietScene.Orderly someDeeds :=
    ⟨nofun, fun _ => rfl, nofun, nofun, nofun, trivial⟩
  have hInside : (quietScene.after someDeeds).inside = true := rfl
  rcases serves_after hQuiet hDefault with ⟨hServes, hAttached⟩
  refine ⟨hQuiet, hDefault, hOrderly, ?_, ?_⟩
  · rw [hAttached hOrderly, hInside]
  · exact hServes.heard hInside [] (by simp)

end Scene

end Replay
