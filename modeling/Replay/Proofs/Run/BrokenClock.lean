import Replay.Proofs.Run.Time

/-
  This file proves which failures leave a run on a page of a
  browser: those of a clock that cannot be moved, whatever its
  file holds.

  Key definitions include:
    * `Clock.Stuck`
    * `Reaches`
    * `ReachesStuck`

  Main results:
    * `Clock.advance_run_eq_error_iff`
    * `attempt_ends`
    * `run_raises_iff_stuck`
    * `run_raises_by_brokenClocks`
-/

------------------------------------------------------------
-- Clocks That Cannot Be Moved
------------------------------------------------------------

namespace Replay

open Number Play Text

namespace Clock

/-
  What keeps the clock from being moved, and the failure that
  comes of it: its file cannot be read, its bytes are no
  text, the text is no number that can be read, or the new
  time has too many digits.
-/
inductive Stuck
    (state : Path)
    (delta : Int)
    (files : FileTree) : Failure → Prop
  | unreadable (fault : FileTree.Fault) :
      files.read (file state) = .error fault →
      Stuck state delta files (.files fault)
  | undecodable (content : Content) (failure : Utf8.Failure) :
      files.read (file state) = .ok content →
      content.lines = .error failure →
      Stuck state delta files (.undecodable failure)
  | noNumber
      (content : Content) (text : String) (fault : IntegerFault) :
      files.read (file state) = .ok content →
      content.lines = .ok text →
      readInteger (trim text) = .error fault →
      Stuck state delta files (.integer fault)
  | tooLarge (time : Int) :
      Shows state time files →
      ¬Fits (time + delta) →
      Stuck state delta files (.integer .tooLarge)

variable {state : Path}
variable {delta : Int}

/- The clock is read in stages, each of which may fail. -/
theorem run_read_eq
    (state : Path)
    (w : World) :
    (read state).run w =
      match w.files.read (file state) with
      | .error fault => .error (.files fault) w
      | .ok content =>
        match content.lines with
        | .error failure => .error (.undecodable failure) w
        | .ok text =>
          match readInteger (trim text) with
          | .error fault => .error (.integer fault) w
          | .ok time => .ok time w := by
  unfold read
  rw [EStateM.run_bind, run_readText]
  cases w.files.read (file state) with
  | error fault =>
      rfl
  | ok content =>
      cases hLines : content.lines with
      | error failure =>
          simp only [hLines]
      | ok text =>
          simp only [hLines]
          cases readInteger (trim text) <;> rfl

/- What is read is in a file, unless it is an empty pipe. -/
theorem shows_of_read
    {files : FileTree}
    {content : Content}
    {text : String}
    {time : Int}
    (hRead : files.read (file state) = .ok content)
    (hLines : content.lines = .ok text)
    (hTime : readInteger (trim text) = .ok time) :
    Shows state time files := by
  cases hFind : files.find (file state) with
  | error fault =>
      simp [FileTree.read, hFind, bind, Except.bind] at hRead
  | ok found =>
      rcases found with ⟨place, entry⟩
      cases entry with
      | folder =>
          simp [FileTree.read, hFind, bind, Except.bind, throw,
            throwThe, MonadExceptOf.throw] at hRead
      | pipe =>
          simp [FileTree.read, hFind, bind, Except.bind, pure,
            Except.pure] at hRead
          subst hRead
          cases hLines
          cases hTime
      | file held =>
          simp [FileTree.read, hFind, bind, Except.bind, pure,
            Except.pure] at hRead
          subst hRead
          exact ⟨held, text, by simp [FileTree.standing?, hFind],
            hLines, hTime⟩

/- A clock that cannot be read cannot be moved. -/
theorem advance_run_of_read_error
    {w : World}
    {failure : Failure}
    (hRead : (read state).run w = .error failure w) :
    (advance state delta).run w = .error failure w := by
  unfold advance
  rw [EStateM.run_bind, hRead]

/- A clock that is stuck leaves everything as it was. -/
theorem Stuck.advance_run
    {w : World}
    {failure : Failure}
    (hStuck : Stuck state delta w.files failure) :
    (advance state delta).run w = .error failure w := by
  cases hStuck with
  | unreadable fault hRead =>
      apply advance_run_of_read_error
      simp only [run_read_eq, hRead]
  | undecodable content failure hRead hLines =>
      apply advance_run_of_read_error
      simp only [run_read_eq, hRead, hLines]
  | noNumber content text fault hRead hLines hFault =>
      apply advance_run_of_read_error
      simp only [run_read_eq, hRead, hLines, hFault]
  | tooLarge time hShows hLong =>
      have hText : writeInteger (time + delta) = .error .tooLarge :=
        if_pos (Nat.not_le.mp hLong)
      rw [run_advance_of_read (run_read hShows), hText]

/- A clock that is not stuck is moved on a sound disk. -/
theorem advance_ends
    (state : Path)
    (delta : Int)
    {w : World}
    (hSound : w.files.IsSound) :
    (∃ time files log,
      (advance state delta).run w =
          .ok time { w with files := files, log := log } ∧
        files.IsSound) ∨
      ∃ failure, Stuck state delta w.files failure := by
  cases hRead : w.files.read (file state) with
  | error fault =>
      exact Or.inr ⟨_, .unreadable fault hRead⟩
  | ok content =>
      cases hLines : content.lines with
      | error failure =>
          exact Or.inr ⟨_, .undecodable content failure hRead hLines⟩
      | ok text =>
          cases hTime : readInteger (trim text) with
          | error fault =>
              exact Or.inr
                ⟨_, .noNumber content text fault hRead hLines hTime⟩
          | ok time =>
              have hShows := shows_of_read hRead hLines hTime
              by_cases hFits : Fits (time + delta)
              · rcases run_advance (writeInteger_of_fits hFits)
                  hSound hShows with ⟨files, hRun, hStays, _⟩
                exact Or.inl ⟨_, files, _, hRun, hStays⟩
              · exact Or.inr ⟨_, .tooLarge time hShows hFits⟩

/-
  On a sound disk, a clock is not moved exactly if it is
  stuck, and then nothing is changed.
-/
theorem advance_run_eq_error_iff
    {w u : World}
    (hSound : w.files.IsSound)
    {failure : Failure} :
    (advance state delta).run w = .error failure u ↔
      Stuck state delta w.files failure ∧ u = w := by
  constructor
  · intro hRun
    rcases advance_ends state delta hSound with
      ⟨time, files, log, hMoved, _⟩ | ⟨other, hStuck⟩
    · rw [hMoved] at hRun
      cases hRun
    · have hSame := hStuck.advance_run
      rw [hRun] at hSame
      cases hSame
      exact ⟨hStuck, rfl⟩
  · rintro ⟨hStuck, rfl⟩
    exact hStuck.advance_run

end Clock

/- The same of the action that moves it. -/
theorem perform_advance_run_eq_error_iff
    {stage : Stage}
    {delta : Int}
    {w u : World}
    (hSound : w.files.IsSound)
    {failure : Failure} :
    (perform stage (.advance delta)).run w = .error failure u ↔
      Clock.Stuck stage.state delta w.files failure ∧ u = w := by
  rw [← Clock.advance_run_eq_error_iff hSound,
    run_perform_advance]
  cases (Clock.advance stage.state delta).run w <;> simp

------------------------------------------------------------
-- Steps
------------------------------------------------------------

section

variable (config : Configuration)
variable (stage : Stage)
variable (scenario : Text)

/- The steps get to one of them, in some world. -/
def Reaches
    (w : World)
    (steps : List Text)
    (step : Text)
    (v : World) : Prop :=
  ∃ before after,
    steps = before ++ step :: after ∧
      Executes config stage scenario w before v

/- They get to a step that has to move a stuck clock. -/
def ReachesStuck
    (w : World)
    (steps : List Text)
    (failure : Failure)
    (v : World) : Prop :=
  ∃ step delta,
    Reaches config stage scenario w steps step v ∧
      config.step? step = some (.advance delta) ∧
      Clock.Stuck stage.state delta v.files failure

/- In some step a search may go wrong. -/
def Configuration.MayCross
    (steps : List Text) : Prop :=
  ∃ step ∈ steps, ∃ action,
    config.step? step = some action ∧ action.MayCross

end

section

variable {config : Configuration}
variable {stage : Stage}
variable {scenario : Text}
variable {crosses : Prop}

/- A result of a step, or a search that went wrong. -/
def Failure.IsUsual
    (crosses : Prop)
    (failure : Failure) : Prop :=
  failure.isResult = true ∨ failure = .crossedGroup ∧ crosses

theorem elementFrame_of_isUsual
    (crosses : Prop) :
    ElementFrame (Failure.IsUsual crosses)
      Element.BreaksAsBrowser where
  own failure hOwn hAction :=
    Or.inl (elementFrame_of_breaksAsBrowser.own failure hOwn hAction)
  timeout message :=
    Or.inl (elementFrame_of_breaksAsBrowser.timeout message)
  breakdown element hElement entry hEntry :=
    Or.inl (elementFrame_of_breaksAsBrowser.breakdown element
      hElement entry hEntry)
  child := elementFrame_of_breaksAsBrowser.child
  added := elementFrame_of_breaksAsBrowser.added

/- The page of a world is one of a browser. -/
abbrev World.Shown
    (crosses : Prop)
    (w : World) : Prop :=
  w.page.Holds (Failure.IsUsual crosses) Element.BreaksAsBrowser

theorem World.shown_of_breaksAsBrowser
    {w : World}
    (hPage : w.page.BreaksAsBrowser)
    (crosses : Prop) :
    w.Shown crosses where
  elements := hPage.elements
  routes := hPage.routes
  unreachable entry hEntry :=
    Or.inl (hPage.holds.unreachable entry hEntry)
  title breakdown hTitle :=
    Or.inl (hPage.holds.title breakdown hTitle)

/-
  An action that leaves the clock alone is done on a page of a
  browser, or it fails in a usual way.
-/
theorem perform_ends
    {action : Action}
    (hNamed : ¬action.IsUnnamed)
    (hSearch : action.MayCross → crosses)
    (hStill : action.move? = none)
    {w : World}
    (hShown : w.Shown crosses) :
    (∃ v,
      (perform stage action).run w = .ok () v ∧
        v.Shown crosses) ∨
    ∃ failure v,
      (perform stage action).run w = .error failure v ∧
        failure.IsUsual crosses := by
  have hFiles :
      action.MovesFiles (Failure.IsUsual crosses)
        Element.BreaksAsBrowser stage.state
        (fun _ => True) (fun _ => True) := by
    cases action with
    | advance delta =>
        cases hStill
    | _ => exact fun _ hSame => hSame
  have hMeets :=
    perform_meets (elementFrame_of_isUsual crosses) stage hNamed
      (fun hCross => Or.inr ⟨rfl, hSearch hCross⟩) hFiles
  have hStands :
      w.Stands (Failure.IsUsual crosses) Element.BreaksAsBrowser
        fun _ => True :=
    ⟨hShown, trivial⟩
  cases hRun : (perform stage action).run w with
  | ok value v =>
      exact Or.inl ⟨v, rfl, (hMeets.after_of_ok hStands hRun).1⟩
  | error failure v =>
      exact Or.inr
        ⟨failure, v, rfl, hMeets.mayFail_of_error hStands hRun⟩

/-
  A step is completed on a page of a browser and a sound disk,
  or it fails in a usual way, or it has to move a stuck clock.
-/
theorem attempt_ends
    {step : Text}
    (hNamed :
      ∀ action,
        config.step? step = some action → ¬action.IsUnnamed)
    (hSearch :
      ∀ action,
        config.step? step = some action →
          action.MayCross → crosses)
    {w : World}
    (hSound : w.files.IsSound)
    (hShown : w.Shown crosses) :
    (∃ v,
      (attempt config stage scenario step).run w = .ok () v ∧
        v.Shown crosses) ∨
    ∃ failure v,
      (attempt config stage scenario step).run w =
          .error failure v ∧
        (failure.IsUsual crosses ∨
          ∃ delta,
            config.step? step = some (.advance delta) ∧
              Clock.Stuck stage.state delta w.files failure) := by
  unfold attempt
  cases hStep : config.step? step with
  | none =>
      exact Or.inr ⟨_, w, rfl, Or.inl (Or.inl rfl)⟩
  | some action =>
      dsimp only
      cases hMove : action.move? with
      | some delta =>
          cases Action.eq_advance_of_move? hMove
          rw [run_perform_advance]
          rcases Clock.advance_ends stage.state delta hSound with
            ⟨time, files, log, hMoved, _⟩ | ⟨failure, hStuck⟩
          · rw [hMoved]
            exact Or.inl ⟨_, rfl, hShown⟩
          · rw [hStuck.advance_run]
            exact Or.inr
              ⟨failure, w, rfl, Or.inr ⟨delta, rfl, hStuck⟩⟩
      | none =>
          rcases @perform_ends stage crosses action
              (hNamed action hStep) (hSearch action hStep) hMove w
              hShown with hDone | ⟨failure, v, hRun, hUsual⟩
          · exact Or.inl hDone
          · exact Or.inr ⟨failure, v, hRun, Or.inl hUsual⟩

/- Steps that were executed leave a page of a browser. -/
theorem shown_of_executes
    {steps : List Text}
    {w v : World}
    (hSteps : Executes config stage scenario w steps v)
    (hNamed :
      ∀ step ∈ steps, ∀ action,
        config.step? step = some action → ¬action.IsUnnamed)
    (hSearch :
      ∀ step ∈ steps, ∀ action,
        config.step? step = some action →
          action.MayCross → crosses)
    (hSound : w.files.IsSound)
    (hShown : w.Shown crosses) :
    v.Shown crosses := by
  induction hSteps with
  | none =>
      exact hShown
  | step hStep _ ih =>
      rw [List.forall_mem_cons] at hNamed hSearch
      have hDisk :=
        (attempt_staysIn (sameDisk_frame stage.state) config
          scenario _).of_ok hStep
      refine ih hNamed.2 hSearch.2 (hDisk.isSound hSound) ?_
      rcases attempt_ends hNamed.1 hSearch.1 hSound hShown with
        ⟨v, hRun, hAfter⟩ | ⟨failure, v, hRun, _⟩
      · rw [hStep] at hRun
        cases hRun
        exact hAfter
      · rw [hStep] at hRun
        cases hRun

------------------------------------------------------------
-- Runs
------------------------------------------------------------

/- A stuck clock is no result of a run. -/
theorem Clock.Stuck.isResult_eq_false
    {state : Path}
    {delta : Int}
    {files : FileTree}
    {failure : Failure}
    (hStuck : Clock.Stuck state delta files failure) :
    failure.isResult = false := by
  cases hStuck <;> rfl

/- A run that gets to a stuck clock ends with its failure. -/
theorem run_raises_of_reachesStuck
    {found : Scenario}
    (hScenario : config.scenario? scenario = some found)
    {w v : World}
    {failure : Failure}
    (hReaches :
      ReachesStuck config stage scenario w found.steps failure v) :
    ∃ u,
      (run config stage scenario).run w = .error failure u ∧
        u.Alike v := by
  rcases hReaches with
    ⟨step, delta, ⟨before, after, hSplit, hBefore⟩, hAdvance,
      hStuck⟩
  have hStep :
      (attempt config stage scenario step).run v =
        .error failure v := by
    rw [attempt, hAdvance]
    rw [run_perform_advance, hStuck.advance_run]
  have hRaised : (failure.isOwn || failure.isBrowser) = false :=
    hStuck.isResult_eq_false
  rcases runSteps_of_stops found.steps.length hBefore hStep after
      World.Alike.rfl [] with ⟨u, hRun, hAlike⟩
  rw [hRaised, ← hSplit] at hRun
  rw [run_eq_runSteps hScenario]
  exact ⟨u, hRun, hAlike⟩

/- A failure that leaves a run is that of a step. -/
theorem stops_of_run_error
    {found : Scenario}
    (hScenario : config.scenario? scenario = some found)
    {w u : World}
    {failure : Failure}
    (hRun :
      (run config stage scenario).run w = .error failure u) :
    ∃ before step after v v',
      found.steps = before ++ step :: after ∧
        Executes config stage scenario w before v ∧
        (attempt config stage scenario step).run v =
          .error failure v' ∧
        failure.isResult = false := by
  rw [run_eq_runSteps hScenario] at hRun
  rcases executes_or_stops config stage scenario w found.steps with
    ⟨v, hAll⟩ |
      ⟨before, step, after, v, cause, v', hSplit, hBefore, hStep⟩
  · rcases runSteps_of_executes found.steps.length hAll
      World.Alike.rfl [] with ⟨u', hEnds, _⟩
    rw [hRun] at hEnds
    cases hEnds
  · rcases runSteps_of_stops found.steps.length hBefore hStep after
      World.Alike.rfl [] with ⟨u', hEnds, _⟩
    rw [← hSplit, hRun] at hEnds
    cases hCause : cause.isOwn || cause.isBrowser with
    | true =>
        simp [hCause] at hEnds
    | false =>
        simp only [hCause, Bool.false_eq_true, if_false] at hEnds
        cases hEnds
        exact ⟨before, step, after, v, v', hSplit, hBefore, hStep,
          hCause⟩

/- Nothing else leaves a run on a page of a browser. -/
theorem reachesStuck_of_run_error
    {found : Scenario}
    (hScenario : config.scenario? scenario = some found)
    (hNamed :
      ∀ step ∈ found.steps, ∀ action,
        config.step? step = some action → ¬action.IsUnnamed)
    {w u : World}
    (hPage : w.page.BreaksAsBrowser)
    (hSound : w.files.IsSound)
    {failure : Failure}
    (hRun :
      (run config stage scenario).run w = .error failure u) :
    (∃ v,
      ReachesStuck config stage scenario w found.steps failure v) ∨
      failure = .crossedGroup ∧ config.MayCross found.steps := by
  rcases stops_of_run_error hScenario hRun with
    ⟨before, step, after, v, v', hSplit, hBefore, hStep, hOther⟩
  have hMember : step ∈ found.steps := by
    rw [hSplit]
    exact List.mem_append_right _ List.mem_cons_self
  have hEarlier :
      ∀ other ∈ before, other ∈ found.steps := by
    intro other hBefore
    rw [hSplit]
    exact List.mem_append_left _ hBefore
  have hSearch :
      ∀ other ∈ found.steps, ∀ action,
        config.step? other = some action →
          action.MayCross → config.MayCross found.steps :=
    fun other hStep action hAction hCross =>
      ⟨other, hStep, action, hAction, hCross⟩
  have hShown :=
    shown_of_executes hBefore
      (fun other hOther => hNamed other (hEarlier other hOther))
      (fun other hOther => hSearch other (hEarlier other hOther))
      hSound
      (World.shown_of_breaksAsBrowser hPage
        (config.MayCross found.steps))
  rcases attempt_ends (hNamed step hMember) (hSearch step hMember)
      (hBefore.sameDisk.isSound hSound) hShown with
    ⟨_, hOk, _⟩ | ⟨cause, _, hError, hWay⟩
  · rw [hStep] at hOk
    cases hOk
  · rw [hStep] at hError
    cases hError
    rcases hWay with (hResult | hCrossed) |
      ⟨delta, hAdvance, hStuck⟩
    · rw [hOther] at hResult
      cases hResult
    · exact Or.inr hCrossed
    · exact Or.inl ⟨v, step, delta,
        ⟨before, after, hSplit, hBefore⟩, hAdvance, hStuck⟩

end

/-
  On a page of a browser and a disk without flaws, a run of a
  scenario whose attributes have names ends with a result,
  unless it gets to a step that has to move a stuck clock, or a
  search goes wrong in itself.  Then it ends with what keeps the
  clock from being moved, be that a failure of the files, bytes
  that are no text, a text that is no number or a number that
  is too long.  A clock that
  is stuck leaves everything as it was.
-/
theorem run_raises_iff_stuck
    {config : Configuration}
    {stage : Stage}
    {scenario : Text}
    {found : Scenario}
    (hScenario : config.scenario? scenario = some found)
    (hNamed :
      ∀ step ∈ found.steps, ∀ action,
        config.step? step = some action → ¬action.IsUnnamed)
    {w : World}
    (hPage : w.page.BreaksAsBrowser)
    (hSound : w.files.IsSound) :
    (∀ failure,
      failure ≠ .crossedGroup →
        ((∃ u,
          (run config stage scenario).run w = .error failure u) ↔
          ∃ v,
            ReachesStuck config stage scenario w found.steps failure
              v)) ∧
    (∀ u,
      (run config stage scenario).run w = .error .crossedGroup u →
        config.MayCross found.steps) ∧
    (∀ failure v,
      ReachesStuck config stage scenario w found.steps failure v →
        ∃ u,
          (run config stage scenario).run w = .error failure u ∧
            u.files = v.files) ∧
    ∀ delta v failure u,
      v.files.IsSound →
      ((perform stage (.advance delta)).run v = .error failure u ↔
        Clock.Stuck stage.state delta v.files failure ∧
          u = v) := by
  refine ⟨?_, ?_, ?_, ?_⟩
  · intro failure hSearch
    constructor
    · rintro ⟨u, hRun⟩
      rcases reachesStuck_of_run_error hScenario hNamed hPage
        hSound hRun with hReaches | ⟨hCrossed, _⟩
      · exact hReaches
      · exact absurd hCrossed hSearch
    · rintro ⟨v, hReaches⟩
      rcases run_raises_of_reachesStuck hScenario hReaches with
        ⟨u, hRun, _⟩
      exact ⟨u, hRun⟩
  · intro u hRun
    rcases reachesStuck_of_run_error hScenario hNamed hPage hSound
      hRun with ⟨v, step, delta, _, _, hStuck⟩ | ⟨_, hCross⟩
    · cases hStuck
    · exact hCross
  · intro failure v hReaches
    rcases run_raises_of_reachesStuck hScenario hReaches with
      ⟨u, hRun, hAlike⟩
    exact ⟨u, hRun, hAlike.files⟩
  · intro delta v failure u hSound
    exact perform_advance_run_eq_error_iff hSound

/- The document of a scenario that moves the clock. -/
def tickDocument : Document :=
  .mapping
    [(.text "steps", .mapping
      [(.text "tick", .mapping
        [(.text "action", .scalar (.text "time-advance")),
          (.text "value", .scalar (.integer 1))])]),
      (.text "scenarios", .mapping
        [(.text "tour", .mapping
          [(.text "steps", .sequence [.scalar (.text "tick")])])])]

/- The configuration that is read from it. -/
def tickTour : Configuration :=
  ⟨[("tick", .advance 1)], [("tour", ⟨["tick"], none⟩)]⟩

/- A world whose clock has some content, on an empty page. -/
def clockWorld (content : Content) : World :=
  .start (FileTree.empty.install ["state", "now.txt"]
    (.file content)) .blank

theorem breaksAsBrowser_blank :
    Page.blank.BreaksAsBrowser :=
  ⟨by simp [Page.blank], by simp [Page.blank],
    by simp [Page.blank], by simp [Page.blank]⟩

/- The only step of the tour is no assertion. -/
theorem tickTour_isNamed :
    ∀ step ∈ (["tick"] : List Text), ∀ action,
      tickTour.step? step = some action → ¬action.IsUnnamed := by
  intro step hStep action hAction
  cases List.mem_singleton.mp hStep
  cases hAction
  exact id

/- A word is no time, and the run ends with that. -/
theorem run_raises_iff_stuck_of_word :
    tickTour.scenario? "tour" = some ⟨["tick"], none⟩ ∧
      (∀ step ∈ (["tick"] : List Text), ∀ action,
        tickTour.step? step = some action → ¬action.IsUnnamed) ∧
      (clockWorld (.text "abc")).page.BreaksAsBrowser ∧
      (clockWorld (.text "abc")).files.IsSound ∧
      ∃ u,
        (run tickTour ⟨.ofText "state", none⟩ "tour").run
            (clockWorld (.text "abc")) =
          .error (.integer (.notInteger 10 "abc")) u ∧
        u.files = (clockWorld (.text "abc")).files := by
  have hTour :
      tickTour.scenario? "tour" = some ⟨["tick"], none⟩ := rfl
  have hSound : (clockWorld (.text "abc")).files.IsSound := rfl
  have hStuck :
      Clock.Stuck (Path.ofText "state") 1
        (clockWorld (.text "abc")).files
        (.integer (.notInteger 10 "abc")) :=
    .noNumber (.text "abc") "abc" _ rfl rfl rfl
  have hReaches :
      ReachesStuck tickTour ⟨.ofText "state", none⟩ "tour"
        (clockWorld (.text "abc")) ["tick"]
        (.integer (.notInteger 10 "abc"))
        (clockWorld (.text "abc")) :=
    ⟨"tick", 1, ⟨[], [], rfl, .none⟩, rfl, hStuck⟩
  have hRaises :=
    (@run_raises_iff_stuck tickTour ⟨.ofText "state", none⟩ "tour"
      _ hTour tickTour_isNamed _ breaksAsBrowser_blank
      hSound).2.2.1 _ _ hReaches
  exact ⟨hTour, tickTour_isNamed, breaksAsBrowser_blank, hSound,
    hRaises⟩

/-
  A configuration is accepted, and still its run on an empty
  page has no result, nor does it fail for the files: neither
  if the clock holds a word, nor if its bytes are no text.
-/
theorem run_raises_by_brokenClocks :
    Configuration.ofDocument tickDocument = .ok tickTour ∧
      (∃ u,
        (run tickTour ⟨.ofText "state", none⟩ "tour").run
            (clockWorld (.text "abc")) =
          .error (.integer (.notInteger 10 "abc")) u) ∧
      ∃ failure u,
        (run tickTour ⟨.ofText "state", none⟩ "tour").run
            (clockWorld (.raw [0xFF])) =
          .error (.undecodable failure) u :=
  ⟨rfl, ⟨_, rfl⟩, ⟨_, _, rfl⟩⟩

end Replay
