import Replay.Channel
import Replay.Proofs.Play.Contract
import Replay.Proofs.Store

/-
  This file proves what acts on channels leave alone, and
  how sending a message fails.

  Key definitions include:
    * `Play.ChannelFrame`

  Main results:
    * `Channel.attach_staysIn`
    * `Channel.detach_staysIn`
    * `Channel.poll_staysIn`
    * `Channel.broadcast_staysIn`
    * `Channel.broadcast_failsOnly`
-/

------------------------------------------------------------
-- Frames of Channels
------------------------------------------------------------

namespace Replay

open Play

/-
  What a relation between worlds has to allow for, if acts on
  channels are to stay in it: other files, other ends with
  other bytes before them, and notes in the log.
-/
structure Play.ChannelFrame
    (R : World → World → Prop) : Prop where
  change : ∀ w files handles pending log,
    R w
      { w with
        files := files
        handles := handles
        pending := pending
        log := log }

namespace Channel

variable {R : World → World → Prop}
variable [IsPreorder World R]

/- What comes of the files is passed on, and nothing else. -/
theorem ofFiles_staysIn
    {α : Type}
    (outcome : Except FileTree.Fault α) :
    (ofFiles outcome).StaysIn R := by
  cases outcome with
  | ok value =>
      exact StaysIn.pure value
  | error fault =>
      exact StaysIn.throw _

theorem decode_staysIn (bytes : List UInt8) :
    (decode bytes).StaysIn R := by
  unfold decode
  split
  · exact StaysIn.pure _
  · exact StaysIn.throw _

/- To look for the target of a message changes nothing. -/
theorem target_staysIn (channel : Channel) :
    channel.target.StaysIn R := by
  refine StaysIn.get.bind fun w =>
    (ofFiles_staysIn _).bind fun found => ?_
  split
  · exact StaysIn.throw _
  · exact StaysIn.pure _

/- To make sure of a pipe makes folders and a pipe at most. -/
theorem ensure_staysIn
    (frame : ChannelFrame R)
    (channel : Channel) :
    channel.ensure.StaysIn R := by
  refine (hasEntry_staysIn _).bind fun found => ?_
  split
  · exact StaysIn.pure ()
  · refine StaysIn.bind ?_ fun _ =>
      StaysIn.get.bind fun w =>
        (ofFiles_staysIn _).bind fun files => ?_
    · refine StaysIn.get.bind fun w => StaysIn.bind ?_ fun _ =>
        ofFiles_staysIn _
      exact fun v => frame.change v _ v.handles v.pending v.log
    · exact fun v => frame.change v files v.handles v.pending v.log

theorem attach_staysIn
    (frame : ChannelFrame R)
    (channel : Channel) :
    channel.attach.StaysIn R := by
  refine (ensure_staysIn frame channel).bind fun _ =>
    (target_staysIn channel).bind fun found =>
      StaysIn.get.bind fun w => StaysIn.bind ?_ fun _ =>
        StaysIn.pure _
  exact fun v => frame.change v v.files _ v.pending v.log

theorem detach_staysIn
    (frame : ChannelFrame R)
    (channel : Channel) :
    channel.detach.StaysIn R := by
  unfold detach
  split
  · exact StaysIn.pure channel
  · refine StaysIn.bind ?_ fun _ => StaysIn.pure _
    exact fun v => frame.change v v.files _ _ v.log

/- To look at the world first leaves what comes after it. -/
theorem left_get_bind
    {α : Type}
    (next : World → Play α)
    (w : World) :
    (get >>= next : Play α).left w = (next w).left w := rfl

/- What follows a change stays in what the change leads to. -/
theorem left_set_bind
    {α : Type}
    {act : Play α}
    {w u : World}
    (hSet : R w u)
    (hAct : act.StaysIn R) :
    R w ((set u >>= fun _ => act : Play α).left w) :=
  trans_of R hSet (hAct u)

theorem receive_staysIn
    (frame : ChannelFrame R)
    (id : Nat)
    (handle : Handle) :
    (receive id handle).StaysIn R := by
  unfold receive
  intro w
  rw [left_get_bind]
  split
  · exact left_set_bind
      (frame.change w w.files _ w.pending w.log)
      ((decode_staysIn _).map some)
  · dsimp only
    split
    · exact refl_of R w
    · exact left_set_bind
        (frame.change w w.files w.handles _ w.log)
        ((decode_staysIn _).map some)

/- A poll drains the pipe at most. -/
theorem poll_staysIn
    (frame : ChannelFrame R)
    (channel : Channel) :
    channel.poll.StaysIn R := by
  refine StaysIn.get.bind fun w => ?_
  dsimp only
  split
  · exact receive_staysIn frame _ _
  · exact StaysIn.throw _

/- A broadcast adds to what is pending at most. -/
theorem broadcast_staysIn
    (frame : ChannelFrame R)
    (channel : Channel)
    (message : String) :
    (channel.broadcast message).StaysIn R := by
  refine (ensure_staysIn frame channel).bind fun _ =>
    (target_staysIn channel).bind fun found => ?_
  split
  split
  · refine StaysIn.bind ?_ fun _ => StaysIn.pure _
    exact fun v => frame.change v _ v.handles v.pending v.log
  · intro w
    change R w (Play.left (if w.hasReader _ then _ else _) w)
    split
    · exact left_set_bind
        (frame.change w w.files w.handles _ w.log)
        (StaysIn.pure true)
    · exact frame.change w w.files w.handles w.pending _

------------------------------------------------------------
-- Failures of Senders
------------------------------------------------------------

variable {mayFail : Failure → Prop}

omit [IsPreorder World R] in
/- The files fail with faults of files only. -/
theorem ofFiles_failsOnly
    (hFiles : ∀ fault, mayFail (.files fault))
    {α : Type}
    (outcome : Except FileTree.Fault α) :
    (ofFiles outcome).FailsOnly mayFail := by
  cases outcome with
  | ok value =>
      exact FailsOnly.pure value
  | error fault =>
      exact FailsOnly.throw (hFiles fault)

theorem get_failsOnly :
    (get : Play World).FailsOnly mayFail :=
  fun _ _ => trivial

/- A pipe that cannot be made is a fault of the files. -/
theorem ensure_failsOnly
    (hFiles : ∀ fault, mayFail (.files fault))
    (channel : Channel) :
    channel.ensure.FailsOnly mayFail := by
  have hOf {α : Type} (outcome : Except FileTree.Fault α) :=
    ofFiles_failsOnly hFiles outcome
  unfold ensure hasEntry makeFolders
  refine (get_failsOnly.bind fun w => hOf _).bind fun found => ?_
  split
  · exact FailsOnly.pure ()
  · refine FailsOnly.bind ?_ fun _ =>
      get_failsOnly.bind fun w =>
        (hOf _).bind fun files => FailsOnly.change _
    exact get_failsOnly.bind fun w =>
      (FailsOnly.change _).bind fun _ => hOf _

/- To send a message fails for the files only. -/
theorem broadcast_failsOnly
    (hFiles : ∀ fault, mayFail (.files fault))
    (channel : Channel)
    (message : String) :
    (channel.broadcast message).FailsOnly mayFail := by
  have hTarget : channel.target.FailsOnly mayFail := by
    refine get_failsOnly.bind fun w =>
      (ofFiles_failsOnly hFiles _).bind fun found => ?_
    split
    · exact FailsOnly.throw (hFiles .isFolder)
    · exact FailsOnly.pure _
  refine (ensure_failsOnly hFiles channel).bind fun _ =>
    hTarget.bind fun found => ?_
  split
  split
  · exact (FailsOnly.change _).bind fun _ => FailsOnly.pure true
  · refine get_failsOnly.bind fun w => ?_
    split
    · exact fun _ _ => trivial
    · exact fun _ _ => trivial

end Channel

end Replay
