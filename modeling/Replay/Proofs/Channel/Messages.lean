import Replay.Proofs.Channel.Scenes
import Replay.Proofs.Watch

/-
  This file proves what becomes of any messages that are sent
  in one session of a listener.  Their bytes are read in
  order, chunk by chunk, and a cut between two chunks may
  fall into a character or into a request.

  Key definitions include:
    * `Deed.InSession`
    * `bytesSent`
    * `Scene.chunks`
    * `Scene.polls`
    * `Scene.Roomy`
    * `Scene.Listening`
    * `Scene.Conveys`

  Main results:
    * `exists_chunk_or_cut`
    * `Scene.Listening.flatten_chunks`
    * `Scene.Listening.polls_eq`
    * `Scene.Listening.heard_or_cut`
    * `Scene.Roomy.heard`
    * `Scene.conveys_of_session`
-/

------------------------------------------------------------
-- Cuts
------------------------------------------------------------

namespace Replay

open FileTree Play Text

/-
  A part of a row that comes in chunks stands in one of them,
  unless a cut between two of them divides it.
-/
theorem exists_chunk_or_cut
    {α : Type}
    {chunks : List (List α)}
    {front part back : List α}
    (hPart : part ≠ [])
    (hRow : chunks.flatten = front ++ part ++ back) :
    (∃ chunk ∈ chunks, part <:+: chunk) ∨
      ∃ early,
        early <+: chunks ∧
          front.length < early.flatten.length ∧
          early.flatten.length < (front ++ part).length := by
  induction chunks generalizing front with
  | nil =>
      have hNil : front ++ part ++ back = [] := hRow.symm
      simp [hPart] at hNil
  | cons chunk rest ih =>
      rw [List.flatten_cons] at hRow
      have hChunk : chunk <+: front ++ part ++ back :=
        ⟨rest.flatten, hRow⟩
      by_cases hBefore : chunk.length ≤ front.length
      · -- The chunk ends before the part begins.
        have hFront : front <+: front ++ part ++ back := by
          rw [List.append_assoc]
          exact List.prefix_append _ _
        rcases List.prefix_of_prefix_length_le hChunk hFront
            hBefore with ⟨more, rfl⟩
        have hRest : rest.flatten = more ++ part ++ back := by
          simpa using hRow
        rcases ih hRest with
          ⟨later, hLater, hIn⟩ | ⟨early, hEarly, hStart, hEnd⟩
        · exact Or.inl
            ⟨later, List.mem_cons_of_mem _ hLater, hIn⟩
        · refine Or.inr ⟨chunk :: early, ?_, ?_, ?_⟩
          · exact (List.prefix_cons_inj chunk).mpr hEarly
          · simpa using hStart
          · simpa using hEnd
      · by_cases hAfter : (front ++ part).length ≤ chunk.length
        · -- The part lies within the chunk.
          have hWhole : front ++ part <+: front ++ part ++ back :=
            List.prefix_append _ _
          rcases List.prefix_of_prefix_length_le hWhole hChunk
              hAfter with ⟨more, hMore⟩
          exact Or.inl
            ⟨chunk, List.mem_cons_self, front, more, hMore⟩
        · refine Or.inr ⟨[chunk], ⟨rest, rfl⟩, ?_, ?_⟩
          · simpa using hBefore
          · simpa using hAfter

/-
  If the bytes of a text come in chunks, one of them is not
  read exactly if one of its ends falls into a character.
-/
theorem reading_fails_iff
    {early late : List (List UInt8)}
    {chunk rest : List UInt8}
    (hText :
      Utf8.IsText ((early ++ chunk :: late).flatten ++ rest)) :
    (∃ failure,
      Channel.reading chunk = .error (.undecodable failure)) ↔
      chunk ≠ [] ∧
        ¬(Utf8.IsText early.flatten ∧
          Utf8.IsText (early.flatten ++ chunk)) := by
  have hWhole :
      Utf8.IsText
        (early.flatten ++ chunk ++ (late.flatten ++ rest)) := by
    simpa using hText
  rw [Channel.reading_fails_iff, Utf8.isText_piece_iff hWhole,
    not_or]

------------------------------------------------------------
-- Sessions
------------------------------------------------------------

/- What is done while the listener neither comes nor goes. -/
def Deed.InSession : Deed → Prop
  | poll => True
  | send _ => True
  | _ => False

/- The bytes of all that is sent. -/
def bytesSent : List Deed → List UInt8
  | [] => []
  | .send message :: rest =>
    Utf8.bytesOf message ++ bytesSent rest
  | _ :: rest => bytesSent rest

/- What is sent is the bytes of texts, one after another. -/
theorem bytesSent_isText (deeds : List Deed) :
    Utf8.IsText (bytesSent deeds) := by
  induction deeds with
  | nil =>
      exact Utf8.isText_nil
  | cons deed rest ih =>
      cases deed with
      | send message =>
          exact Utf8.IsText.append ⟨message, rfl⟩ ih
      | _ => exact ih

namespace Scene

/- The bytes that each poll finds. -/
def chunks (scene : Scene) : List Deed → List (List UInt8)
  | [] => []
  | .poll :: rest =>
    scene.pending.take chunkLimit ::
      (scene.next .poll).chunks rest
  | deed :: rest => (scene.next deed).chunks rest

/- What comes of each poll. -/
def polls
    (scene : Scene) :
    List Deed → List (Except Failure Reply)
  | [] => []
  | .poll :: rest =>
    scene.reply .poll :: (scene.next .poll).polls rest
  | deed :: rest => (scene.next deed).polls rest

/- No poll finds more than it can read at once. -/
def Roomy (scene : Scene) : List Deed → Prop
  | [] => True
  | .poll :: rest =>
    scene.pending.length ≤ chunkLimit ∧
      (scene.next .poll).Roomy rest
  | deed :: rest => (scene.next deed).Roomy rest

/- A scene in which the listener is inside. -/
structure Listening (scene : Scene) : Prop where
  tuned : scene.Tuned
  inside : scene.inside = true

namespace Listening

variable {scene : Scene}

/- In a session a listener stays attached. -/
theorem next
    (hListening : scene.Listening)
    {deed : Deed}
    (hSession : deed.InSession) :
    (scene.next deed).Listening where
  tuned := hListening.tuned.next deed
  inside := by
    have hTuned := hListening.tuned
    have hInside := hListening.inside
    cases deed with
    | enter =>
        cases hSession
    | leave =>
        cases hSession
    | poll =>
        exact (hTuned.poll_of_inside hInside).2.1
    | send message =>
        have hAttached := hTuned.attached_of_inside hInside
        exact (hTuned.send_of_attached hAttached message).2.1.trans
          hInside

/- So it does over all deeds of the session. -/
theorem after
    (hListening : scene.Listening)
    {deeds : List Deed}
    (hSession : ∀ deed ∈ deeds, deed.InSession) :
    (scene.after deeds).Listening := by
  induction deeds generalizing scene with
  | nil =>
      exact hListening
  | cons deed rest ih =>
      rw [List.forall_mem_cons] at hSession
      exact ih (hListening.next hSession.1) hSession.2

/- A poll takes a chunk of what is pending. -/
theorem pending_poll (hListening : scene.Listening) :
    (scene.next .poll).pending =
      scene.pending.drop chunkLimit :=
  (hListening.tuned.poll_of_inside hListening.inside).2.2

/- It tells what the first chunk reads as. -/
theorem reply_poll (hListening : scene.Listening) :
    scene.reply .poll =
      (Channel.reading (scene.pending.take chunkLimit)).map
        .heard :=
  (hListening.tuned.poll_of_inside hListening.inside).1

/- A message is appended to what is pending. -/
theorem pending_send
    (hListening : scene.Listening)
    (message : String) :
    (scene.next (.send message)).pending =
      scene.pending ++ Utf8.bytesOf message := by
  have hTuned := hListening.tuned
  have hAttached := hTuned.attached_of_inside hListening.inside
  exact (hTuned.send_of_attached hAttached message).2.2

/-
  Every byte that was sent is read once and in order, or
  still pending.
-/
theorem flatten_chunks
    (hListening : scene.Listening)
    {deeds : List Deed}
    (hSession : ∀ deed ∈ deeds, deed.InSession) :
    (scene.chunks deeds).flatten ++ (scene.after deeds).pending =
      scene.pending ++ bytesSent deeds := by
  induction deeds generalizing scene with
  | nil =>
      simp [chunks, bytesSent]
  | cons deed rest ih =>
      rw [List.forall_mem_cons] at hSession
      have hLater := ih (hListening.next hSession.1) hSession.2
      cases deed with
      | enter =>
          cases hSession.1
      | leave =>
          cases hSession.1
      | poll =>
          rw [hListening.pending_poll] at hLater
          rw [chunks, List.flatten_cons, List.append_assoc,
            after_cons, hLater, ← List.append_assoc,
            List.take_append_drop]
          rfl
      | send message =>
          rw [hListening.pending_send, List.append_assoc] at hLater
          exact hLater

/- Each poll tells what its chunk is taken for. -/
theorem polls_eq
    (hListening : scene.Listening)
    {deeds : List Deed}
    (hSession : ∀ deed ∈ deeds, deed.InSession) :
    scene.polls deeds =
      (scene.chunks deeds).map fun chunk =>
        (Channel.reading chunk).map .heard := by
  induction deeds generalizing scene with
  | nil =>
      rfl
  | cons deed rest ih =>
      rw [List.forall_mem_cons] at hSession
      have hLater := ih (hListening.next hSession.1) hSession.2
      cases deed with
      | poll =>
          rw [polls, chunks, List.map_cons, hLater,
            hListening.reply_poll]
      | _ => exact hLater

/- A poll that is not made finds nothing. -/
theorem pending_after
    (hListening : scene.Listening)
    {deeds : List Deed}
    (hSession : ∀ deed ∈ deeds, deed.InSession)
    (hNoPoll : .poll ∉ deeds) :
    (scene.after deeds).pending =
      scene.pending ++ bytesSent deeds := by
  have hNone : ∀ later : Scene, later.chunks deeds = [] := by
    induction deeds with
    | nil =>
        exact fun _ => rfl
    | cons deed rest ih =>
        rw [List.forall_mem_cons] at hSession
        rw [List.mem_cons, not_or] at hNoPoll
        intro later
        cases deed with
        | poll =>
            exact absurd rfl hNoPoll.1
        | _ => exact ih hSession.2 hNoPoll.2 _
  have hAll := hListening.flatten_chunks hSession
  rwa [hNone scene] at hAll

section

variable {deeds : List Deed}
variable (hListening : scene.Listening)
variable (hSession : ∀ deed ∈ deeds, deed.InSession)

include hListening hSession

/- A poll fails if its chunk is no text. -/
theorem exists_failed_poll
    {chunk : List UInt8}
    (hChunk : chunk ∈ scene.chunks deeds)
    (hText : ¬Utf8.IsText chunk) :
    ∃ failure, .error failure ∈ scene.polls deeds := by
  rcases (Channel.reading_fails_iff chunk).mpr hText with
    ⟨failure, hFails⟩
  refine ⟨.undecodable failure, ?_⟩
  rw [hListening.polls_eq hSession]
  refine List.mem_map.mpr ⟨chunk, hChunk, ?_⟩
  rw [hFails]
  rfl

/- What a poll hears is what a chunk is taken for. -/
theorem heard_mem_polls_iff
    {answer : Option String} :
    .ok (.heard answer) ∈ scene.polls deeds ↔
      ∃ chunk ∈ scene.chunks deeds,
        Channel.reading chunk = .ok answer := by
  rw [hListening.polls_eq hSession, List.mem_map]
  refine exists_congr fun chunk => and_congr_right fun _ => ?_
  cases Channel.reading chunk with
  | ok other =>
      simp [Except.map]
  | error failure =>
      simp [Except.map]

/- A request is heard only if it stands in a chunk. -/
theorem asks_eq_false_of_heard
    (hNone :
      ∀ chunk ∈ scene.chunks deeds, ¬requestBytes <:+: chunk)
    {text : String}
    (hHeard : .ok (.heard (some text)) ∈ scene.polls deeds) :
    asksForReload text = false := by
  rcases (hListening.heard_mem_polls_iff hSession).mp hHeard with
    ⟨chunk, hChunk, hRead⟩
  have hText := (Channel.reading_ok_iff chunk).mp ⟨_, hRead⟩
  rw [← Bool.not_eq_true]
  intro hAsks
  exact hNone chunk hChunk
    ((Channel.reading_asks_iff hText).mp ⟨text, hRead, hAsks⟩)

/-
  If a request is pending and all is read, a poll hears it,
  or one fails, or a cut divides it.
-/
theorem heard_or_cut
    {front back : List UInt8}
    (hPending : scene.pending = front ++ requestBytes ++ back)
    (hDrained : (scene.after deeds).pending = []) :
    (∃ text,
      .ok (.heard (some text)) ∈ scene.polls deeds ∧
        asksForReload text = true) ∨
      (∃ failure, .error failure ∈ scene.polls deeds) ∨
      ∃ early,
        early <+: scene.chunks deeds ∧
          front.length < early.flatten.length ∧
          early.flatten.length <
            (front ++ requestBytes).length := by
  have hAll := hListening.flatten_chunks hSession
  rw [hDrained, List.append_nil, hPending, List.append_assoc]
    at hAll
  rcases exists_chunk_or_cut (List.cons_ne_nil _ _) hAll with
    ⟨chunk, hChunk, hRequest⟩ | hCut
  · by_cases hText : Utf8.IsText chunk
    · rcases (Channel.reading_asks_iff hText).mpr hRequest with
        ⟨text, hRead, hAsks⟩
      refine Or.inl ⟨text, ?_, hAsks⟩
      exact (hListening.heard_mem_polls_iff hSession).mpr
        ⟨chunk, hChunk, hRead⟩
    · exact Or.inr (Or.inl
        (hListening.exists_failed_poll hSession hChunk hText))
  · exact Or.inr (Or.inr hCut)

end

end Listening

------------------------------------------------------------
-- Polls That Are Made in Time
------------------------------------------------------------

namespace Roomy

variable {scene : Scene}

/- The room for some deeds is the room for each part of them. -/
theorem append_iff (deeds rest : List Deed) :
    scene.Roomy (deeds ++ rest) ↔
      scene.Roomy deeds ∧ (scene.after deeds).Roomy rest := by
  induction deeds generalizing scene with
  | nil =>
      exact ⟨fun hRest => ⟨trivial, hRest⟩, And.right⟩
  | cons deed more ih =>
      cases deed with
      | poll =>
          rw [List.cons_append, Roomy, Roomy, after_cons, ih,
            and_assoc]
      | _ => exact ih

/- Whole texts are read, and whole texts stay. -/
theorem isText
    (hListening : scene.Listening)
    {deeds : List Deed}
    (hSession : ∀ deed ∈ deeds, deed.InSession)
    (hRoomy : scene.Roomy deeds)
    (hText : Utf8.IsText scene.pending) :
    (∀ chunk ∈ scene.chunks deeds, Utf8.IsText chunk) ∧
      Utf8.IsText (scene.after deeds).pending := by
  induction deeds generalizing scene with
  | nil =>
      exact ⟨nofun, hText⟩
  | cons deed rest ih =>
      rw [List.forall_mem_cons] at hSession
      have hNext := hListening.next hSession.1
      cases deed with
      | enter =>
          cases hSession.1
      | leave =>
          cases hSession.1
      | poll =>
          rcases hRoomy with ⟨hShort, hLater⟩
          have hLeft :
              Utf8.IsText (scene.next .poll).pending := by
            rw [hListening.pending_poll,
              List.drop_eq_nil_of_le hShort]
            exact Utf8.isText_nil
          rcases ih hNext hSession.2 hLater hLeft with
            ⟨hChunks, hEnd⟩
          refine ⟨?_, hEnd⟩
          rw [chunks, List.forall_mem_cons,
            List.take_of_length_le hShort]
          exact ⟨hText, hChunks⟩
      | send message =>
          apply ih hNext hSession.2 hRoomy
          rw [hListening.pending_send]
          exact hText.append ⟨message, rfl⟩

/- A request is heard by the first poll after it. -/
theorem heard
    (hListening : scene.Listening)
    {before more : List Deed}
    {message : String}
    (hSession :
      ∀ deed ∈ before ++ .send message :: more, deed.InSession)
    (hNoPoll : .poll ∉ more)
    (hRoomy :
      scene.Roomy (before ++ .send message :: more ++ [.poll]))
    (hText : Utf8.IsText scene.pending)
    (hAsks : asksForReload message = true) :
    ∃ text,
      (scene.after (before ++ .send message :: more)).reply .poll =
          .ok (.heard (some text)) ∧
        asksForReload text = true := by
  have hPolled := hListening.after hSession
  rcases (append_iff _ _).mp hRoomy with ⟨hEarlier, hShort, _⟩
  have hWhole := (isText hListening hSession hEarlier hText).2
  rw [List.forall_mem_append, List.forall_mem_cons] at hSession
  rcases hSession with ⟨hBefore, hSend, hMore⟩
  have hSent := hListening.after hBefore
  have hPending :
      (scene.after (before ++ .send message :: more)).pending =
        (scene.after before).pending ++ Utf8.bytesOf message ++
          bytesSent more := by
    rw [after_append, after_cons,
      (hSent.next hSend).pending_after hMore hNoPoll,
      hSent.pending_send]
  have hRequest :
      requestBytes <:+:
        (scene.after (before ++ .send message :: more)).pending := by
    rw [hPending]
    exact ((asksForReload_iff message).mp hAsks).trans
      (List.infix_append _ _ _)
  rcases (Channel.reading_asks_iff hWhole).mpr hRequest with
    ⟨text, hRead, hHeard⟩
  refine ⟨text, ?_, hHeard⟩
  rw [hPolled.reply_poll, List.take_of_length_le hShort, hRead]
  rfl

end Roomy

------------------------------------------------------------
-- What Becomes of Messages
------------------------------------------------------------

/- What becomes of the messages of a session. -/
structure Conveys
    (scene : Scene)
    (deeds : List Deed) : Prop where
  /- All bytes are read in order, or still pending. -/
  inOrder :
    (scene.chunks deeds).flatten ++ (scene.after deeds).pending =
      bytesSent deeds
  /- Each poll tells what its chunk is taken for. -/
  told :
    scene.polls deeds =
      (scene.chunks deeds).map fun chunk =>
        (Channel.reading chunk).map .heard
  /- A chunk is not read if a cut falls into a character. -/
  fails :
    ∀ early chunk late,
      scene.chunks deeds = early ++ chunk :: late →
        ((∃ failure,
          Channel.reading chunk = .error (.undecodable failure)) ↔
          chunk ≠ [] ∧
            ¬(Utf8.IsText early.flatten ∧
              Utf8.IsText (early.flatten ++ chunk)))
  /- A chunk that is read asks if it holds a request. -/
  asks :
    ∀ chunk answer,
      Channel.reading chunk = .ok answer →
        ((∃ text,
          answer = some text ∧ asksForReload text = true) ↔
          requestBytes <:+: chunk)
  /- When all is read, only divided requests are not heard. -/
  lost :
    (scene.after deeds).pending = [] →
      ∀ before message since front back,
        deeds = before ++ .send message :: since →
          Utf8.bytesOf message = front ++ requestBytes ++ back →
            let sent := scene.after (before ++ [.send message])
            let start := (scene.after before).pending ++ front
            (∃ text,
              .ok (.heard (some text)) ∈ sent.polls since ∧
                asksForReload text = true) ∨
              (∃ failure, .error failure ∈ sent.polls since) ∨
              ∃ early,
                early <+: sent.chunks since ∧
                  start.length < early.flatten.length ∧
                  early.flatten.length <
                    (start ++ requestBytes).length
  /- With room for all that is sent, nothing fails or is lost. -/
  roomy :
    scene.Roomy deeds →
      (∀ reply ∈ scene.polls deeds,
        ∃ answer, reply = .ok (.heard answer)) ∧
      ∀ before message more rest,
        deeds = before ++ .send message :: more ++ .poll :: rest →
          .poll ∉ more →
            asksForReload message = true →
              ∃ text,
                (scene.after
                    (before ++ .send message :: more)).reply .poll =
                    .ok (.heard (some text)) ∧
                  asksForReload text = true

/-
  From the start of a session on, what is heard in polls is
  what was sent before them.
-/
theorem Listening.conveys
    {scene : Scene}
    (hListening : scene.Listening)
    (hNothing : scene.pending = [])
    {deeds : List Deed}
    (hSession : ∀ deed ∈ deeds, deed.InSession) :
    scene.Conveys deeds := by
  have hAll :
      (scene.chunks deeds).flatten ++ (scene.after deeds).pending =
        bytesSent deeds := by
    rw [hListening.flatten_chunks hSession, hNothing,
      List.nil_append]
  have hText : Utf8.IsText scene.pending := by
    rw [hNothing]
    exact Utf8.isText_nil
  constructor
  case inOrder =>
      exact hAll
  case told =>
      exact hListening.polls_eq hSession
  case fails =>
      intro early chunk late hChunks
      have hWhole :
          Utf8.IsText
            ((early ++ chunk :: late).flatten ++
              (scene.after deeds).pending) := by
        rw [← hChunks, hAll]
        exact bytesSent_isText deeds
      exact reading_fails_iff hWhole
  case asks =>
      intro chunk answer hRead
      have hChunk := (Channel.reading_ok_iff chunk).mp ⟨_, hRead⟩
      rw [← Channel.reading_asks_iff hChunk, hRead]
      simp
  case lost =>
      intro hDrained before message since front back hDeeds hMessage
      subst hDeeds
      rw [List.append_cons] at hSession hDrained
      rw [after_append] at hDrained
      rw [List.forall_mem_append] at hSession
      rcases hSession with ⟨hSent, hSince⟩
      rw [List.forall_mem_append] at hSent
      have hBefore := hListening.after hSent.1
      have hPending :
          (scene.after (before ++ [.send message])).pending =
            (scene.after before).pending ++ front ++
              requestBytes ++ back := by
        rw [after_append, after_cons, after_nil,
          hBefore.pending_send, hMessage]
        simp only [List.append_assoc]
      have hNow := hListening.after
        (List.forall_mem_append.mpr hSent)
      exact hNow.heard_or_cut hSince hPending hDrained
  case roomy =>
      intro hRoomy
      constructor
      · intro reply hReply
        rw [hListening.polls_eq hSession] at hReply
        rcases List.mem_map.mp hReply with ⟨chunk, hChunk, rfl⟩
        have hTexts := Roomy.isText hListening hSession hRoomy hText
        rcases (Channel.reading_ok_iff chunk).mpr
            (hTexts.1 chunk hChunk) with ⟨answer, hRead⟩
        exact ⟨answer, by rw [hRead]; rfl⟩
      · intro before message more rest hDeeds hNoPoll hAsks
        subst hDeeds
        rw [List.append_cons _ Deed.poll] at hRoomy
        have hEarlier := ((Roomy.append_iff _ _).mp hRoomy).1
        rw [List.forall_mem_append] at hSession
        exact Roomy.heard hListening hSession.1 hNoPoll hEarlier
          hText hAsks

/-
  What becomes of any messages that are sent in a session,
  after whatever was done before it.  A message that is heard
  and asks for nothing is ignored by the watch.
-/
theorem conveys_of_session
    {scene : Scene}
    (hQuiet : scene.Quiet)
    {before : List Deed}
    (hUnattached : (scene.after before).attached = false)
    (hEntered : (scene.after before).reply .enter = .ok .done)
    {deeds : List Deed}
    (hSession : ∀ deed ∈ deeds, deed.InSession) :
    ((scene.after before).next .enter).Conveys deeds ∧
      ∀ text,
        asksForReload text = false →
          ∀ pipe tick,
            Watch.guardedRound pipe (some text) tick =
              Watch.ignore text >>= fun _ =>
                Watch.guardedRound pipe none tick := by
  have hTuned := hQuiet.tuned.after before
  rcases hTuned.enter_of_ok hEntered with ⟨hInside, hPending⟩
  have hListening : ((scene.after before).next .enter).Listening :=
    ⟨hTuned.next .enter, hInside⟩
  constructor
  · apply hListening.conveys _ hSession
    rw [hPending, hTuned.silent hUnattached]
  · intro text hAsks pipe tick
    exact Watch.guardedRound_of_ignored hAsks pipe tick

/- A session with a greeting, and then a request. -/
def greeting : List Deed :=
  [.send "hello", .poll, .send reloadAll, .poll]

/-
  A message that was sent before the session is lost, and
  what is sent in it is heard.
-/
theorem conveys_of_session_of_greeting :
    quietScene.Quiet ∧
      (quietScene.after [.send "early"]).attached = false ∧
      (quietScene.after [.send "early"]).reply .enter =
        .ok .done ∧
      (∀ deed ∈ greeting, deed.InSession) ∧
      ((quietScene.after [.send "early"]).next .enter).Roomy
        greeting ∧
      ((quietScene.after [.send "early"]).next .enter).Conveys
        greeting := by
  have hQuiet := quiet_quietScene
  have hUnattached :
      (quietScene.after [.send "early"]).attached = false := rfl
  have hEntered :
      (quietScene.after [.send "early"]).reply .enter =
        .ok .done := rfl
  have hSession : ∀ deed ∈ greeting, deed.InSession := by
    simp [greeting, Deed.InSession]
  have hConveys :=
    conveys_of_session hQuiet hUnattached hEntered hSession
  refine ⟨hQuiet, hUnattached, hEntered, hSession, ?_, hConveys.1⟩
  exact ⟨Nat.le_of_ble_eq_true rfl, Nat.le_of_ble_eq_true rfl,
    trivial⟩

/- Characters that carry no request, before a text. -/
def behind
    (count : Nat)
    (s : String) : String :=
  String.ofList (List.replicate count 'x') ++ s

theorem bytesOf_behind
    (count : Nat)
    (s : String) :
    Utf8.bytesOf (behind count s) =
      List.replicate count 120 ++ Utf8.bytesOf s := by
  rw [behind, Utf8.bytesOf_append]
  congr 1
  induction count with
  | zero =>
      rfl
  | succ count ih =>
      rw [List.replicate_succ, ← List.singleton_append,
        String.ofList_append, Utf8.bytesOf_append, ih]
      rfl

theorem isText_replicate (count : Nat) :
    Utf8.IsText (List.replicate count 120) :=
  ⟨behind count "", by rw [bytesOf_behind]; exact List.append_nil _⟩

/- The start of a request is none, whatever stands before it. -/
theorem not_isInfix_behind_start (count : Nat) :
    ¬requestBytes <:+:
      List.replicate count 120 ++ requestBytes.take 6 := by
  intro hInfix
  -- The request goes on with a low line, which is not there.
  have hLine : (95 : UInt8) ∈ requestBytes := by decide
  rcases List.mem_append.mp (hInfix.subset hLine) with
    hFilling | hStart
  · exact absurd (List.eq_of_mem_replicate hFilling) (by decide)
  · exact absurd hStart (by decide)

/- A session in which one message is sent and polled twice. -/
def twoPolls (message : String) : List Deed :=
  [.send message, .poll, .poll]

/- The second poll finds what the first one has left. -/
theorem chunks_twoPolls
    {scene : Scene}
    (hListening : scene.Listening)
    (hNothing : scene.pending = [])
    {front back : List UInt8}
    {message : String}
    (hBytes : Utf8.bytesOf message = front ++ back)
    (hFront : front.length = chunkLimit)
    (hBack : back.length ≤ chunkLimit) :
    scene.chunks (twoPolls message) = [front, back] ∧
      (scene.after (twoPolls message)).pending = [] := by
  have hSent : (scene.next (.send message)).Listening :=
    hListening.next trivial
  have hPolled : ((scene.next (.send message)).next .poll).Listening :=
    hSent.next trivial
  have hPending := hListening.pending_send message
  rw [hNothing, List.nil_append, hBytes] at hPending
  have hRest := hSent.pending_poll
  rw [hPending, ← hFront, List.drop_left] at hRest
  have hEnd := hPolled.pending_poll
  rw [hRest, List.drop_eq_nil_of_le hBack] at hEnd
  constructor
  · simp only [twoPolls, chunks, hPending, hRest]
    rw [← hFront, List.take_left, hFront,
      List.take_of_length_le hBack]
  · exact hEnd

/-
  Two messages of a little more than one chunk: a cut falls
  into the last character of the first one, which fails both
  polls, and into the request of the second one, which is not
  heard although all was read.
-/
theorem session_fails_and_loses :
    let scene := quietScene.next .enter
    (∃ failure,
      .error failure ∈
        scene.polls (twoPolls (behind 4095 "é"))) ∧
      asksForReload (behind 4090 reloadAll) = true ∧
      (scene.after (twoPolls (behind 4090 reloadAll))).pending = [] ∧
      ∀ text,
        .ok (.heard (some text)) ∈
            scene.polls (twoPolls (behind 4090 reloadAll)) →
          asksForReload text = false := by
  intro scene
  have hListening : scene.Listening :=
    ⟨quiet_quietScene.tuned.next .enter, rfl⟩
  have hNothing : scene.pending = [] := rfl
  have hSession (message : String) :
      ∀ deed ∈ twoPolls message, deed.InSession := by
    simp [twoPolls, Deed.InSession]
  have hCharacter :
      Utf8.bytesOf (behind 4095 "é") =
        (List.replicate 4095 120 ++ [195]) ++ [169] := by
    rw [bytesOf_behind, List.append_assoc]
    rfl
  have hRequest :
      Utf8.bytesOf (behind 4090 reloadAll) =
        (List.replicate 4090 120 ++ requestBytes.take 6) ++
          requestBytes.drop 6 := by
    rw [bytesOf_behind, List.append_assoc, List.take_append_drop]
    rfl
  have hFirstFull :
      (List.replicate 4095 120 ++ [(195 : UInt8)]).length =
        chunkLimit := by
    rw [List.length_append, List.length_replicate]
    rfl
  have hSecondFull :
      (List.replicate 4090 120 ++ requestBytes.take 6).length =
        chunkLimit := by
    rw [List.length_append, List.length_replicate]
    rfl
  rcases chunks_twoPolls hListening hNothing hCharacter hFirstFull
      (Nat.le_of_ble_eq_true rfl) with ⟨hCut, _⟩
  rcases chunks_twoPolls hListening hNothing hRequest hSecondFull
      (Nat.le_of_ble_eq_true rfl) with ⟨hDivided, hDrained⟩
  refine ⟨?_, ?_, hDrained, ?_⟩
  · have hNot : ¬Utf8.IsText (List.replicate 4095 120 ++ [195]) := by
      rw [Utf8.isText_append_iff (isText_replicate 4095),
        Utf8.isText_iff]
      decide
    apply hListening.exists_failed_poll (hSession _) _ hNot
    rw [hCut]
    exact List.mem_cons_self
  · rw [asksForReload_iff, bytesOf_behind]
    exact (List.suffix_append _ _).isInfix
  · intro text
    apply hListening.asks_eq_false_of_heard (hSession _)
    rw [hDivided, List.forall_mem_cons, List.forall_mem_singleton]
    refine ⟨not_isInfix_behind_start 4090, ?_⟩
    intro hInfix
    exact absurd hInfix.length_le (by decide)

end Scene

end Replay
