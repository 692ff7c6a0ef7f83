import Replay.Clock
import Replay.Proofs.FileTree
import Replay.Proofs.Number.Integer
import Replay.Proofs.Play.Contract

/-
  This file proves that the clock shows the time that it was
  moved to.

  Key definitions include:
    * `Clock.Shows`

  Main results:
    * `Clock.run_read`
    * `Clock.run_advance`
    * `Clock.advance_failsOnly`
-/

------------------------------------------------------------
-- Time
------------------------------------------------------------

namespace Replay

namespace Clock

open Number Text Play

/- The file of the clock is there, and a time can be read. -/
def Shows
    (state : Path)
    (time : Int)
    (files : FileTree) : Prop :=
  ∃ content s,
    files.standing? (file state) = some (.file content) ∧
    content.lines = .ok s ∧
    readInteger (trim s) = .ok time

variable {state : Path}
variable {time : Int}

/- The time that is shown is the one that is read. -/
theorem run_read
    {w : World}
    (hShows : Shows state time w.files) :
    (read state).run w = .ok time w := by
  rcases hShows with ⟨content, s, hStanding, hLines, hTime⟩
  have hText :
      (readText (file state)).run w = .ok s w := by
    rw [run_readText, FileTree.read_of_standing?_file hStanding]
    dsimp only
    rw [hLines]
  unfold read
  rw [EStateM.run_bind, hText]
  simp only [hTime]
  rfl

/- A time that was written is shown. -/
theorem shows_of_writeInteger
    {files : FileTree}
    {text : String}
    (hText : writeInteger time = .ok text)
    (hStanding :
      files.standing? (file state) = some (.file (.text text))) :
    Shows state time files := by
  rcases readInteger_of_writeInteger hText with ⟨rfl, hRead⟩
  have hReturn : '\r' ∉ (intText time).toList := by
    intro hMember
    rcases mem_intText hMember with hSign | hDigit
    · exact absurd hSign (by decide)
    · exact absurd hDigit (by decide)
  exact ⟨_, _, hStanding, Content.lines_text hReturn,
    by rwa [trim_intText]⟩

/- What comes of moving a clock that was read. -/
theorem run_advance_of_read
    {w : World}
    (hRead : (read state).run w = .ok time w)
    (delta : Int) :
    (advance state delta).run w =
      match writeInteger (time + delta) with
      | .error fault => .error (.integer fault) w
      | .ok text =>
        match w.files.write (file state) (.text text) with
        | (.error fault, files) =>
          .error (.files fault) { w with files := files }
        | (.ok (), files) =>
          .ok (time + delta)
            { w with
              files := files
              log := w.log ++
                [⟨.info, "netero.executor.clock",
                  "Clock advanced by " ++ intText delta ++
                    " to " ++ intText (time + delta)⟩] } := by
  unfold advance
  rw [EStateM.run_bind, hRead]
  dsimp only
  cases writeInteger (time + delta) with
  | error fault =>
      rfl
  | ok text =>
      simp only [writeText_ofString, EStateM.run_bind, run_write]
      rcases w.files.write (file state) (.text text) with
        ⟨_ | _, files⟩ <;> rfl

/-
  On a disk without flaws the clock is moved unless the time
  has too many digits.
-/
theorem run_advance
    {delta : Int}
    {text : String}
    (hText : writeInteger (time + delta) = .ok text)
    {w : World}
    (hSound : w.files.IsSound)
    (hShows : Shows state time w.files) :
    ∃ files,
      (advance state delta).run w =
        .ok (time + delta)
          { w with
            files := files
            log := w.log ++
              [⟨.info, "netero.executor.clock",
                "Clock advanced by " ++ intText delta ++ " to " ++
                  intText (time + delta)⟩] } ∧
      files.IsSound ∧
      files.standing? (file state) =
        some (.file (.text text)) := by
  have hRead := run_read hShows
  rcases hShows with ⟨content, s, hStanding, _, _⟩
  rcases FileTree.exists_write_of_standing? hSound hStanding
      (.text text) with ⟨files, hWrite, hAfter⟩
  have hStaysSound : files.IsSound := by
    have hFlaws :=
      FileTree.flaws_write w.files (file state) (.text text)
    rw [hWrite] at hFlaws
    exact hFlaws.trans hSound
  refine ⟨files, ?_, hStaysSound, hAfter⟩
  rw [run_advance_of_read hRead, hText]
  simp only [hWrite]

------------------------------------------------------------
-- Failures
------------------------------------------------------------

section

variable {mayFail : Failure → Prop}

/- The clock fails for its file, its bytes or its number. -/
theorem read_failsOnly
    (hFiles : ∀ fault, mayFail (.files fault))
    (hUndecodable : ∀ failure, mayFail (.undecodable failure))
    (hInteger : ∀ fault, mayFail (.integer fault))
    (state : Path) :
    (read state).FailsOnly mayFail := by
  refine (FailsOnly.readText hFiles hUndecodable (file state)).bind
    fun text => ?_
  split
  · exact FailsOnly.pure _
  · exact FailsOnly.throw (hInteger _)

/- The clock is a file with a number in it. -/
theorem advance_failsOnly
    (hFiles : ∀ fault, mayFail (.files fault))
    (hUndecodable : ∀ failure, mayFail (.undecodable failure))
    (hInteger : ∀ fault, mayFail (.integer fault))
    (state : Path)
    (delta : Int) :
    (advance state delta).FailsOnly mayFail := by
  have hNote
      (message : Text) :
      (note .info "netero.executor.clock" message).FailsOnly
        mayFail :=
    FailsOnly.change _
  refine (read_failsOnly hFiles hUndecodable hInteger state).bind
    fun time => ?_
  dsimp only
  split
  · rw [writeText_ofString]
    exact (FailsOnly.write hFiles _ _).bind fun _ =>
      (hNote _).bind fun _ => FailsOnly.pure _
  · have hTooLong
        (fault : IntegerFault) :
        (throw (.integer fault) : Play Unit).FailsOnly mayFail :=
      FailsOnly.throw (hInteger fault)
    exact (hTooLong _).bind fun _ =>
      (hNote _).bind fun _ => FailsOnly.pure _

end

end Clock

end Replay
