import Mathlib.Algebra.BigOperators.Group.List.Basic
import Replay.Proofs.Run.Completion

/-
  This file proves that the clock is moved by the steps that
  runs complete, and by nothing else.

  Key definitions include:
    * `Configuration.Ticks`
    * `MovesClock`
    * `completedSteps`
    * `completedBy`
    * `RunsThrough`

  Main results:
    * `MovesClock.append`
    * `movesClock_of_executes`
    * `movesClock_of_run`
    * `clock_of_runs`
-/

------------------------------------------------------------
-- Single Actions
------------------------------------------------------------

namespace Replay

open Number Play

/- Acts on a page do not touch the files. -/
theorem sameFiles_pageFrame :
    PageFrame (fun _ => True) World.SameFiles where
  toFrame := sameFiles_frame
  ofPage _ _ := trivial

/- Nor does an action that leaves the clock alone. -/
theorem perform_sameFiles
    (stage : Stage)
    {action : Action}
    (hMove : action.move? = none) :
    (perform stage action).StaysIn World.SameFiles :=
  perform_staysIn_of_move?_eq_none sameFiles_pageFrame hMove

/- The action that moves the time is no more than that. -/
theorem run_perform_advance
    (stage : Stage)
    (delta : Int)
    (w : World) :
    (perform stage (.advance delta)).run w =
      match (Clock.advance stage.state delta).run w with
      | .ok _ u => .ok () u
      | .error failure u => .error failure u := by
  have hMap :
      perform stage (.advance delta) =
        (fun _ => ()) <$> Clock.advance stage.state delta := rfl
  rw [hMap, run_map]
  cases (Clock.advance stage.state delta).run w <;> rfl

namespace Clock

variable {state : Path}
variable {delta : Int}
variable {w : World}

/- A clock that fails to move is left as it was by a sound disk. -/
theorem advance_files_of_error
    (hSound : w.files.IsSound)
    {failure : Failure}
    {u : World}
    (hRun : (advance state delta).run w = .error failure u) :
    u.files = w.files := by
  have hSame := read_staysIn (R := Eq) state
  cases hRead : (read state).run w with
  | error fault v =>
      rw [advance, EStateM.run_bind, hRead] at hRun
      cases hRun
      rw [hSame.of_error hRead]
  | ok time v =>
      cases hSame.of_ok hRead
      rw [run_advance_of_read hRead] at hRun
      cases hText : writeInteger (time + delta) with
      | error fault =>
          rw [hText] at hRun
          cases hRun
          rfl
      | ok text =>
          rcases hWrite :
              w.files.write (file state) (.text text) with
            ⟨_ | _, files⟩
          · simp only [hText, hWrite] at hRun
            cases hRun
            exact FileTree.eq_of_write_error hSound hWrite
          · simp only [hText, hWrite] at hRun
            cases hRun

end Clock

/- An action that fails leaves the files as they were. -/
theorem perform_files_of_error
    {stage : Stage}
    {action : Action}
    {w u : World}
    (hSound : w.files.IsSound)
    {failure : Failure}
    (hRun : (perform stage action).run w = .error failure u) :
    u.files = w.files := by
  cases hMove : action.move? with
  | none =>
      exact (perform_sameFiles stage hMove).of_error hRun
  | some delta =>
      rw [Action.eq_advance_of_move? hMove, run_perform_advance]
        at hRun
      cases hAdvance :
          (Clock.advance stage.state delta).run w with
      | ok time v =>
          rw [hAdvance] at hRun
          cases hRun
      | error fault v =>
          rw [hAdvance] at hRun
          cases hRun
          exact Clock.advance_files_of_error hSound hAdvance

/- A clock that shows a time is moved unless that is too long. -/
theorem perform_advance_of_fits
    {stage : Stage}
    {time delta : Int}
    {w : World}
    (hSound : w.files.IsSound)
    (hShows : Clock.Shows stage.state time w.files)
    (hFits : Clock.Fits (time + delta)) :
    ∃ u,
      (perform stage (.advance delta)).run w = .ok () u ∧
      u.files.standing? (Clock.file stage.state) =
        some (.file (.text (intText (time + delta)))) := by
  rcases Clock.run_advance (Clock.writeInteger_of_fits hFits)
      hSound hShows with ⟨files, hRun, _, hAfter⟩
  rw [run_perform_advance, hRun]
  exact ⟨_, rfl, hAfter⟩

/- A time with too many digits is not written. -/
theorem perform_advance_of_not_fits
    {stage : Stage}
    {time delta : Int}
    {w : World}
    (hShows : Clock.Shows stage.state time w.files)
    (hLong : ¬Clock.Fits (time + delta)) :
    (perform stage (.advance delta)).run w =
      .error (.integer .tooLarge) w := by
  have hText : writeInteger (time + delta) = .error .tooLarge :=
    if_pos (Nat.not_le.mp hLong)
  rw [run_perform_advance,
    Clock.run_advance_of_read (Clock.run_read hShows), hText]

------------------------------------------------------------
-- Steps
------------------------------------------------------------

/- One of the steps moves the clock, if only by nothing. -/
def Configuration.Ticks
    (config : Configuration)
    (steps : List Text) : Prop :=
  ∃ step ∈ steps, ∃ delta,
    config.step? step = some (.advance delta)

section

variable {config : Configuration}

/- Times add up. -/
theorem Configuration.elapsed_append
    (first second : List Text) :
    config.elapsed (first ++ second) =
      config.elapsed first + config.elapsed second := by
  simp [elapsed]

/- Steps tick if some of them do. -/
theorem Configuration.ticks_append_iff
    {first second : List Text} :
    config.Ticks (first ++ second) ↔
      config.Ticks first ∨ config.Ticks second := by
  simp only [Ticks, List.mem_append, or_and_right, exists_or]

/- A step that is no advance takes no time. -/
theorem Configuration.delta_eq_zero
    {step : Text}
    (hStep : ∀ delta, config.step? step ≠ some (.advance delta)) :
    config.delta step = 0 := by
  unfold delta
  cases hFound : config.step? step with
  | none =>
      rfl
  | some action =>
      cases action with
      | advance delta =>
          exact absurd hFound (hStep delta)
      | _ =>
          rfl

/- Steps that do not move the clock take no time. -/
theorem Configuration.elapsed_eq_zero
    {steps : List Text}
    (hTicks : ¬config.Ticks steps) :
    config.elapsed steps = 0 := by
  refine List.sum_eq_zero fun delta hDelta => ?_
  rcases List.mem_map.mp hDelta with ⟨step, hStep, rfl⟩
  exact delta_eq_zero fun delta hAdvance =>
    hTicks ⟨step, hStep, delta, hAdvance⟩

end

/-
  Steps lead from some files to others, as far as the clock
  goes, if it showed a time: it shows the time that the steps
  moved it to, as a plain number if there was a step that
  moves it; without any nothing changed.
-/
structure MovesClock
    (config : Configuration)
    (state : Path)
    (time : Int)
    (before : FileTree)
    (steps : List Text)
    (after : FileTree) : Prop where
  shows : Clock.Shows state (time + config.elapsed steps) after
  written :
    config.Ticks steps →
      after.standing? (Clock.file state) =
        some (.file
          (.text (intText (time + config.elapsed steps))))
  kept : ¬config.Ticks steps → after = before

namespace MovesClock

variable {config : Configuration}
variable {state : Path}
variable {time : Int}

theorem none
    {files : FileTree}
    (hShows : Clock.Shows state time files) :
    MovesClock config state time files [] files where
  shows := by
    simpa [Configuration.elapsed] using hShows
  written := by
    rintro ⟨step, hStep, _⟩
    cases hStep
  kept _ := rfl

/- Without steps that move the clock, nothing may change. -/
theorem of_not_ticks
    {files : FileTree}
    (hShows : Clock.Shows state time files)
    {steps : List Text}
    (hTicks : ¬config.Ticks steps) :
    MovesClock config state time files steps files where
  shows := by
    rwa [Configuration.elapsed_eq_zero hTicks, Int.add_zero]
  written hSteps := absurd hSteps hTicks
  kept _ := rfl

/- A clock moved twice was moved by both times. -/
theorem append
    {before between after : FileTree}
    {first second : List Text}
    (hFirst : MovesClock config state time before first between)
    (hSecond :
      MovesClock config state (time + config.elapsed first)
        between second after) :
    MovesClock config state time before (first ++ second)
      after where
  shows := by
    rw [Configuration.elapsed_append, ← Int.add_assoc]
    exact hSecond.shows
  written hTicks := by
    rw [Configuration.elapsed_append, ← Int.add_assoc]
    by_cases hLater : config.Ticks second
    · exact hSecond.written hLater
    · have hEarlier : config.Ticks first :=
        (Configuration.ticks_append_iff.mp hTicks).resolve_right
          hLater
      rw [hSecond.kept hLater, Configuration.elapsed_eq_zero hLater,
        Int.add_zero]
      exact hFirst.written hEarlier
  kept hTicks := by
    rw [Configuration.ticks_append_iff, not_or] at hTicks
    rw [hSecond.kept hTicks.2, hFirst.kept hTicks.1]

end MovesClock

section

variable {config : Configuration}
variable {stage : Stage}
variable {scenario : Text}

/- A step that fails leaves the files as they were. -/
theorem attempt_files_of_error
    {step : Text}
    {w u : World}
    (hSound : w.files.IsSound)
    {failure : Failure}
    (hRun :
      (attempt config stage scenario step).run w =
        .error failure u) :
    u.files = w.files := by
  unfold attempt at hRun
  cases hStep : config.step? step with
  | none =>
      rw [hStep] at hRun
      cases hRun
      rfl
  | some action =>
      rw [hStep] at hRun
      exact perform_files_of_error hSound hRun

/- A step that advances the clock moves it by the difference. -/
theorem movesClock_of_advance
    {step : Text}
    {delta time : Int}
    {w v : World}
    (hStep : config.step? step = some (.advance delta))
    (hSound : w.files.IsSound)
    (hShows : Clock.Shows stage.state time w.files)
    (hRun : (perform stage (.advance delta)).run w = .ok () v) :
    MovesClock config stage.state time w.files [step]
      v.files := by
  have hElapsed : config.elapsed [step] = delta := by
    simp [Configuration.elapsed, Configuration.delta, hStep,
      Action.delta]
  have hFits : Clock.Fits (time + delta) := by
    by_contra hLong
    rw [perform_advance_of_not_fits hShows hLong] at hRun
    cases hRun
  rcases perform_advance_of_fits hSound hShows hFits with
    ⟨u, hAdvance, hAfter⟩
  rw [hAdvance] at hRun
  cases hRun
  have hText := Clock.writeInteger_of_fits hFits
  rw [← hElapsed] at hText hAfter
  exact
    { shows := Clock.shows_of_writeInteger hText hAfter
      written := fun _ => hAfter
      kept := fun hTicks =>
        absurd ⟨step, List.mem_singleton_self step, delta, hStep⟩
          hTicks }

/- A step that is completed moves the clock by what it says. -/
theorem movesClock_of_attempt
    {step : Text}
    {time : Int}
    {w v : World}
    (hSound : w.files.IsSound)
    (hShows : Clock.Shows stage.state time w.files)
    (hRun :
      (attempt config stage scenario step).run w = .ok () v) :
    MovesClock config stage.state time w.files [step] v.files := by
  unfold attempt at hRun
  cases hStep : config.step? step with
  | none =>
      rw [hStep] at hRun
      cases hRun
  | some action =>
      rw [hStep] at hRun
      cases hMove : action.move? with
      | none =>
          have hFiles : v.files = w.files :=
            (perform_sameFiles stage hMove).of_ok hRun
          rw [hFiles]
          refine .of_not_ticks hShows ?_
          rintro ⟨other, hOther, delta, hAdvance⟩
          rw [List.mem_singleton.mp hOther, hStep] at hAdvance
          cases hAdvance
          cases hMove
      | some delta =>
          cases Action.eq_advance_of_move? hMove
          exact movesClock_of_advance hStep hSound hShows hRun

/- Steps that were executed move it by what each one says. -/
theorem movesClock_of_executes
    {steps : List Text}
    {time : Int}
    {w v : World}
    (hSound : w.files.IsSound)
    (hShows : Clock.Shows stage.state time w.files)
    (hSteps : Executes config stage scenario w steps v) :
    MovesClock config stage.state time w.files steps v.files := by
  induction hSteps generalizing time with
  | none =>
      exact .none hShows
  | @step w v u step rest hStep _ ih =>
      have hFirst := movesClock_of_attempt hSound hShows hStep
      have hDisk : w.SameDisk v :=
        (attempt_staysIn (sameDisk_frame stage.state) config
          scenario step).of_ok hStep
      exact hFirst.append
        (ih (hDisk.isSound hSound) hFirst.shows)

end

------------------------------------------------------------
-- Runs
------------------------------------------------------------

section

variable (config : Configuration)
variable (stage : Stage)
variable (scenario : Text)

/- The first steps, up to the one that fails, if one does. -/
def completedSteps : World → List Text → List Text
  | _, [] => []
  | w, step :: rest =>
    match (attempt config stage scenario step).run w with
    | .ok _ v => step :: completedSteps v rest
    | .error _ _ => []

/- The steps that a run completes, also if it has no result. -/
def completedBy (w : World) : List Text :=
  match config.scenario? scenario with
  | none => []
  | some found =>
    completedSteps config stage scenario w found.steps

end

section

variable {config : Configuration}
variable {stage : Stage}
variable {scenario : Text}

/- Steps that are all executed are all completed. -/
theorem completedSteps_of_executes
    {steps : List Text}
    {w v : World}
    (hSteps : Executes config stage scenario w steps v) :
    completedSteps config stage scenario w steps = steps := by
  induction hSteps with
  | none =>
      rfl
  | step hStep _ ih =>
      simp only [completedSteps, hStep, ih]

/- Where a run stops, the steps before are completed. -/
theorem completedSteps_of_stops
    {before : List Text}
    {w v : World}
    (hBefore : Executes config stage scenario w before v)
    {step : Text}
    {failure : Failure}
    {u : World}
    (hStep :
      (attempt config stage scenario step).run v =
        .error failure u)
    (after : List Text) :
    completedSteps config stage scenario w
        (before ++ step :: after) = before := by
  induction hBefore with
  | none =>
      simp only [List.nil_append, completedSteps, hStep]
  | step hFirst _ ih =>
      simp only [List.cons_append, completedSteps, hFirst, ih hStep]

/-
  A run executes the steps that it completes, and leaves their
  files on a disk without flaws; a result of it lists these
  steps.
-/
theorem executes_completedBy
    (config : Configuration)
    (stage : Stage)
    (scenario : Text)
    (w : World) :
    (∃ v,
      Executes config stage scenario w
        (completedBy config stage scenario w) v ∧
      (w.files.IsSound →
        ((run config stage scenario).left w).files =
          v.files)) ∧
    ∀ result u,
      (run config stage scenario).run w = .ok result u →
        result.completed = completedBy config stage scenario w := by
  unfold completedBy
  cases hScenario : config.scenario? scenario with
  | none =>
      have hRun :
          (run config stage scenario).run w =
            .error (.unknownScenario scenario) w := by
        rw [run, hScenario]
        rfl
      refine ⟨⟨w, .none, fun _ => ?_⟩, fun result u hResult => ?_⟩
      · rw [left_of_error hRun]
      · rw [hRun] at hResult
        cases hResult
  | some found =>
      dsimp only
      have hSteps :
          run config stage scenario =
            runSteps config stage scenario found.steps.length []
              found.steps :=
        run_eq_runSteps hScenario
      rcases executes_or_stops config stage scenario w found.steps
        with ⟨v, hAll⟩ |
          ⟨before, step, after, v, failure, v', hSplit, hBefore,
            hStep⟩
      · rcases runSteps_of_executes found.steps.length hAll
            World.Alike.rfl [] with ⟨u, hRun, hAlike⟩
        rw [← hSteps] at hRun
        rw [completedSteps_of_executes hAll]
        refine ⟨⟨v, hAll, fun _ => ?_⟩,
          fun result u' hResult => ?_⟩
        · rw [left_of_ok hRun, hAlike.files]
        · rw [hRun] at hResult
          cases hResult
          rfl
      · rcases runSteps_of_stops found.steps.length hBefore hStep
            after World.Alike.rfl [] with ⟨u, hRun, hAlike⟩
        rw [← hSplit, ← hSteps] at hRun
        rw [hSplit, completedSteps_of_stops hBefore hStep]
        have hFiles
            (hSound : w.files.IsSound) :
            u.files = v.files := by
          rw [hAlike.files, attempt_files_of_error
            (hBefore.sameDisk.isSound hSound) hStep]
        split_ifs at hRun with hResult
        · refine ⟨⟨v, hBefore, fun hSound => ?_⟩,
            fun result u' hEnds => ?_⟩
          · rw [left_of_ok hRun, hFiles hSound]
          · rw [hRun] at hEnds
            cases hEnds
            rfl
        · refine ⟨⟨v, hBefore, fun hSound => ?_⟩,
            fun result u' hEnds => ?_⟩
          · rw [left_of_error hRun, hFiles hSound]
          · rw [hRun] at hEnds
            cases hEnds

/- A run moves the clock by the steps that it completes. -/
theorem movesClock_of_run
    (config : Configuration)
    (scenario : Text)
    {time : Int}
    {w : World}
    (hSound : w.files.IsSound)
    (hShows : Clock.Shows stage.state time w.files) :
    MovesClock config stage.state time w.files
      (completedBy config stage scenario w)
      ((run config stage scenario).left w).files := by
  rcases (executes_completedBy config stage scenario w).1 with
    ⟨v, hSteps, hFiles⟩
  rw [hFiles hSound]
  exact movesClock_of_executes hSound hShows hSteps

end

/-
  Runs one after another, each of them in any world with the
  files that the one before has left, and the steps that they
  complete.
-/
inductive RunsThrough
    (config : Configuration)
    (stage : Stage) :
    FileTree → List Text → FileTree → Prop
  | none {files} :
      RunsThrough config stage files [] files
  | run (w scenario) {steps files} :
      RunsThrough config stage
        ((run config stage scenario).left w).files steps files →
      RunsThrough config stage w.files
        (completedBy config stage scenario w ++ steps) files

/- Runs move the clock by all the steps that they complete. -/
theorem movesClock_of_runsThrough
    {config : Configuration}
    {stage : Stage}
    {time : Int}
    {before after : FileTree}
    {steps : List Text}
    (hSound : before.IsSound)
    (hShows : Clock.Shows stage.state time before)
    (hRuns : RunsThrough config stage before steps after) :
    MovesClock config stage.state time before steps after := by
  induction hRuns generalizing time with
  | none =>
      exact .none hShows
  | run w scenario _ ih =>
      have hFirst := movesClock_of_run config scenario hSound hShows
      have hDisk :=
        run_staysIn (sameDisk_frame stage.state) config scenario w
      exact hFirst.append
        (ih (World.SameDisk.isSound hDisk hSound) hFirst.shows)

/-
  After any runs on any pages, whatever came of them, on a disk
  without flaws, the clock shows the time that it showed before
  with all that the completed steps moved it.  Its file holds
  that number and nothing else if one of these steps moves the
  clock, and no file has changed otherwise.  The completed steps of a run
  are those that its result lists, if it has one.  No other
  kind of action changes a file, and an action that fails
  changes none.  An action moves the clock unless the new time
  has too many digits.
-/
theorem clock_of_runs
    {config : Configuration}
    {stage : Stage}
    {time : Int}
    {before after : FileTree}
    {steps : List Text}
    (hSound : before.IsSound)
    (hShows : Clock.Shows stage.state time before)
    (hRuns : RunsThrough config stage before steps after) :
    (∀ w : World,
      w.files = after →
        (Clock.read stage.state).run w =
          .ok (time + config.elapsed steps) w) ∧
    (config.Ticks steps →
      after.standing? (Clock.file stage.state) =
        some (.file
          (.text (intText (time + config.elapsed steps))))) ∧
    (¬config.Ticks steps → after = before) ∧
    (∀ scenario w result u,
      (run config stage scenario).run w = .ok result u →
        result.completed = completedBy config stage scenario w) ∧
    (∀ action w,
      action.move? = none →
        ((perform stage action).left w).files = w.files) ∧
    (∀ action w failure u,
      w.files.IsSound →
      (perform stage action).run w = .error failure u →
        u.files = w.files) ∧
    ∀ delta w now,
      w.files.IsSound →
      Clock.Shows stage.state now w.files →
        ((∃ u, (perform stage (.advance delta)).run w = .ok () u) ↔
          Clock.Fits (now + delta)) := by
  have hMoves := movesClock_of_runsThrough hSound hShows hRuns
  refine ⟨?_, hMoves.written, hMoves.kept, ?_, ?_, ?_, ?_⟩
  · rintro w rfl
    exact Clock.run_read hMoves.shows
  · exact fun scenario w =>
      (executes_completedBy config stage scenario w).2
  · exact fun action w hMove => perform_sameFiles stage hMove w
  · exact fun action w failure u hSound =>
      perform_files_of_error hSound
  · intro delta w now hSound hNow
    constructor
    · rintro ⟨u, hRun⟩
      by_contra hLong
      rw [perform_advance_of_not_fits hNow hLong] at hRun
      cases hRun
    · intro hFits
      rcases perform_advance_of_fits hSound hNow hFits with
        ⟨u, hRun, _⟩
      exact ⟨u, hRun⟩

/- A scenario that moves the clock back, and a broken one. -/
def backwardTour : Configuration :=
  ⟨[("back", .advance (-12)), ("home", .visit "http://a/")],
    [("tour", ⟨["back", "home", "back"], none⟩),
      ("stop", ⟨["back", "gone", "back"], none⟩)]⟩

/- A clock at seven, with a sign and blanks around it. -/
def signedClock : FileTree :=
  FileTree.empty.install ["state", "now.txt"]
    (.file (.text " +7\n"))

/- The step after the missing one does not count. -/
theorem clock_of_runs_of_backwardTour :
    signedClock.IsSound ∧
      Clock.Shows (Path.ofText "state") 7 signedClock ∧
      ∃ after,
        RunsThrough backwardTour ⟨.ofText "state", none⟩
            signedClock ["back", "home", "back", "back"] after ∧
          after.standing? (Clock.file (Path.ofText "state")) =
            some (.file (.text "-29")) := by
  have hShows :
      Clock.Shows (Path.ofText "state") 7 signedClock :=
    ⟨.text " +7\n", " +7\n", rfl, rfl, rfl⟩
  have hTicks :
      backwardTour.Ticks ["back", "home", "back", "back"] :=
    ⟨"back", List.mem_cons_self, -12, rfl⟩
  have hTour :
      completedBy backwardTour ⟨.ofText "state", none⟩ "tour"
          (.start signedClock .blank) =
        ["back", "home", "back"] := by
    decide +kernel
  have hStop :
      completedBy backwardTour ⟨.ofText "state", none⟩ "stop"
          ((run backwardTour ⟨.ofText "state", none⟩ "tour").left
            (.start signedClock .blank)) =
        ["back"] := by
    decide +kernel
  have hRuns :
      RunsThrough backwardTour ⟨.ofText "state", none⟩ signedClock
        _ _ :=
    .run (.start signedClock .blank) "tour"
      (.run _ "stop" .none)
  rw [hTour, hStop] at hRuns
  have hText :
      intText (7 + backwardTour.elapsed
        ["back", "home", "back", "back"]) = "-29" := by
    decide +kernel
  have hSound : signedClock.IsSound := rfl
  have hWritten := (clock_of_runs hSound hShows hRuns).2.1 hTicks
  rw [← hText]
  exact ⟨hSound, hShows, _, hRuns, hWritten⟩

end Replay
