import Replay.Proofs.Clock
import Replay.Proofs.Performance.Rejection
import Replay.Proofs.Run

/-
  This file proves that runs end with a result unless they
  reach an assertion about an attribute without a name.

  Key definitions include:
    * `Page.BreaksAsBrowser`
    * `Clock.Fits`
    * `Configuration.elapsed`
    * `StaysInLimit`
    * `ReachesUnnamed`

  Main results:
    * `attempt_meets`
    * `standsAt_of_executes`
    * `run_completes_iff`
    * `accepted_steps_complete`
-/

------------------------------------------------------------
-- Pages of Browsers
------------------------------------------------------------

namespace Replay

open Number Play Checked Document

/-
  The element only breaks down with failures of a browser,
  and so do those within it and those that a click adds.
-/
inductive Element.BreaksAsBrowser : Element → Prop where
  | intro
      {element : Element}
      (hBreakdowns :
        ∀ entry ∈ element.breakdowns,
          entry.2.failure.isBrowser = true)
      (hChildren :
        ∀ entry ∈ element.children,
          ∀ inner ∈ entry.2, BreaksAsBrowser inner)
      (hAdded :
        ∀ effect,
          element.clicked = some effect →
            ∀ entry ∈ effect.added,
              ∀ new ∈ entry.2, BreaksAsBrowser new) :
      BreaksAsBrowser element

/- No call to the page fails but with failures of a browser. -/
def Page.BreaksAsBrowser (page : Page) : Prop :=
  page.Holds (fun failure => failure.isBrowser = true)
    Element.BreaksAsBrowser

/- What the program finds wrong by itself is a result. -/
theorem Failure.isResult_of_isOwn
    {failure : Failure}
    (hOwn : failure.isOwn = true) :
    failure.isResult = true := by
  rw [isResult, hOwn, Bool.true_or]

/- So is what the browser reports. -/
theorem Failure.isResult_of_isBrowser
    {failure : Failure}
    (hBrowser : failure.isBrowser = true) :
    failure.isResult = true := by
  rw [isResult, hBrowser, Bool.or_true]

theorem elementFrame_of_breaksAsBrowser :
    ElementFrame (fun failure => failure.isResult = true)
      Element.BreaksAsBrowser where
  own := fun _ hOwn _ => Failure.isResult_of_isOwn hOwn
  timeout := fun _ => rfl
  breakdown := by
    rintro element ⟨hBreakdowns, _, _⟩ entry hEntry
    exact Failure.isResult_of_isBrowser (hBreakdowns entry hEntry)
  child := by
    rintro element ⟨_, hChildren, _⟩
    exact hChildren
  added := by
    rintro element ⟨_, _, hAdded⟩
    exact hAdded

/- A page that breaks as a browser does fails with results. -/
theorem Page.BreaksAsBrowser.holds
    {page : Page}
    (hPage : page.BreaksAsBrowser) :
    page.Holds (fun failure => failure.isResult = true)
      Element.BreaksAsBrowser where
  elements := hPage.elements
  routes := hPage.routes
  unreachable := fun entry hEntry =>
    Failure.isResult_of_isBrowser (hPage.unreachable entry hEntry)
  title := fun breakdown hTitle =>
    Failure.isResult_of_isBrowser (hPage.title breakdown hTitle)

------------------------------------------------------------
-- Time
------------------------------------------------------------

/- The decimal text of the time is not too long. -/
def Clock.Fits (time : Int) : Prop :=
  (digitChars time.natAbs).length ≤ digitLimit

instance (time : Int) : Decidable (Clock.Fits time) := by
  unfold Clock.Fits
  infer_instance

/- A time that fits can be written. -/
theorem Clock.writeInteger_of_fits
    {time : Int}
    (hFits : Fits time) :
    writeInteger time = .ok (intText time) :=
  if_neg (Nat.not_lt.mpr hFits)

/- How far an action moves the clock. -/
def Action.delta : Action → Int
  | .advance delta => delta
  | _ => 0

namespace Configuration

/- How far a step moves the clock. -/
def delta
    (config : Configuration)
    (step : Text) : Int :=
  match config.step? step with
  | some action => action.delta
  | none => 0

/- How far steps move the clock. -/
def elapsed
    (config : Configuration)
    (steps : List Text) : Int :=
  (steps.map config.delta).sum

end Configuration

section

variable (config : Configuration)
variable (stage : Stage)
variable (scenario : Text)

/- No time that the steps move the clock to is too long. -/
def StaysInLimit
    (time : Int)
    (w : World)
    (steps : List Text) : Prop :=
  ∀ before step after v delta,
    steps = before ++ step :: after →
    Executes config stage scenario w before v →
    config.step? step = some (.advance delta) →
      Clock.Fits (time + config.elapsed before + delta)

/- The steps get to an assertion without a name. -/
def ReachesUnnamed
    (w : World)
    (steps : List Text) : Prop :=
  ∃ before step after v action,
    steps = before ++ step :: after ∧
    Executes config stage scenario w before v ∧
    config.step? step = some action ∧
    action.IsUnnamed

end

------------------------------------------------------------
-- Steps
------------------------------------------------------------

section

variable {config : Configuration}
variable {stage : Stage}
variable {scenario : Text}

/-
  A world with the page of a browser, on a disk without flaws,
  that shows a time.
-/
def World.StandsAt
    (state : Path)
    (time : Int)
    (w : World) : Prop :=
  w.Stands (fun failure => failure.isResult = true)
    Element.BreaksAsBrowser fun files =>
      files.IsSound ∧ Clock.Shows state time files

/- A step fails with a result, or moves the clock. -/
theorem attempt_meets
    {step : Text}
    {time : Int}
    (hNamed :
      ∀ action,
        config.step? step = some action → ¬action.IsUnnamed)
    (hSearch :
      ∀ action,
        config.step? step = some action → ¬action.MayCross)
    (hFits :
      ∀ delta,
        config.step? step = some (.advance delta) →
          Clock.Fits (time + delta)) :
    (attempt config stage scenario step).Meets
      (World.StandsAt stage.state time)
      (fun _ =>
        World.StandsAt stage.state (time + config.delta step))
      (fun failure => failure.isResult = true) := by
  unfold attempt Configuration.delta
  cases hStep : config.step? step with
  | none =>
      exact Meets.throw rfl
  | some action =>
      refine perform_meets elementFrame_of_breaksAsBrowser stage
        (hNamed action hStep)
        (fun hCross => absurd hCross (hSearch action hStep)) ?_
      cases action with
      | advance delta =>
          intro w hStands
          have hText :=
            Clock.writeInteger_of_fits (hFits delta hStep)
          rcases Clock.run_advance hText hStands.2.1
              hStands.2.2 with
            ⟨files, hRun, hSound, hAfter⟩
          rw [hRun]
          exact ⟨hStands.1, hSound,
            Clock.shows_of_writeInteger hText hAfter⟩
      | _ =>
          intro files hShows
          simpa [Action.delta] using hShows

/-
  Steps that were executed moved the clock by the sum of what
  each of them moves it.
-/
theorem standsAt_of_executes
    {steps : List Text}
    {w v : World}
    (hSteps : Executes config stage scenario w steps v)
    (hSearch :
      ∀ step ∈ steps, ∀ action,
        config.step? step = some action → ¬action.MayCross)
    {time : Int}
    (hLimit : StaysInLimit config stage scenario time w steps)
    (hStands : w.StandsAt stage.state time) :
    v.StandsAt stage.state (time + config.elapsed steps) := by
  induction hSteps generalizing time with
  | none =>
      simpa [Configuration.elapsed] using hStands
  | @step w v u step rest hStep hRest ih =>
      have hNamed
          (action : Action)
          (hAction : config.step? step = some action) :
          ¬action.IsUnnamed := by
        intro hUnnamed
        simp only [attempt, hAction,
          perform_of_isUnnamed stage hUnnamed] at hStep
        cases hStep
      have hFits
          (delta : Int)
          (hAction : config.step? step = some (.advance delta)) :
          Clock.Fits (time + delta) := by
        simpa [Configuration.elapsed] using
          hLimit [] step rest w delta rfl .none hAction
      have hAfter :=
        (attempt_meets hNamed
          (hSearch step List.mem_cons_self) hFits).after_of_ok
            hStands hStep
      have hMoved :
          config.elapsed (step :: rest) =
            config.delta step + config.elapsed rest := by
        simp [Configuration.elapsed]
      rw [hMoved, ← Int.add_assoc]
      refine ih
        (fun next hNext => hSearch next (List.mem_cons_of_mem _ hNext))
        ?_ hAfter
      intro before next after v' delta hSplit hBefore hNext
      have hLater :=
        hLimit (step :: before) next after v' delta
          (by rw [hSplit, List.cons_append])
          (.step hStep hBefore) hNext
      simpa [Configuration.elapsed, Int.add_assoc] using hLater

/- The first step that fails is named or fails with a result. -/
theorem isResult_of_stops
    {before after : List Text}
    {step : Text}
    {time : Int}
    {w v v' : World}
    {failure : Failure}
    (hSearch :
      ∀ other ∈ before ++ step :: after, ∀ action,
        config.step? other = some action → ¬action.MayCross)
    (hLimit :
      StaysInLimit config stage scenario time w
        (before ++ step :: after))
    (hStands : w.StandsAt stage.state time)
    (hBefore : Executes config stage scenario w before v)
    (hStep :
      (attempt config stage scenario step).run v =
        .error failure v')
    (hNamed :
      ∀ action,
        config.step? step = some action → ¬action.IsUnnamed) :
    failure.isResult = true := by
  have hEarlier :
      StaysInLimit config stage scenario time w before := by
    intro first next later u delta hSplit
    refine hLimit first next (later ++ step :: after) u delta ?_
    rw [hSplit, List.append_assoc, List.cons_append]
  have hThere :=
    standsAt_of_executes hBefore
      (fun other hOther =>
        hSearch other (List.mem_append_left _ hOther))
      hEarlier hStands
  refine Meets.mayFail_of_error (attempt_meets hNamed ?_ ?_)
    hThere hStep
  · exact hSearch step
      (List.mem_append_right _ List.mem_cons_self)
  · exact fun delta =>
      hLimit before step after v delta rfl hBefore

------------------------------------------------------------
-- Runs
------------------------------------------------------------

/-
  On a page of a browser, with a clock that shows a time on a
  disk without flaws, a run ends with a result exactly if it
  reaches no assertion without a name.
-/
theorem run_completes_iff
    {found : Scenario}
    (hScenario : config.scenario? scenario = some found)
    (hSearch :
      ∀ step ∈ found.steps, ∀ action,
        config.step? step = some action → ¬action.MayCross)
    {time : Int}
    {w : World}
    (hLimit :
      StaysInLimit config stage scenario time w found.steps)
    (hStands : w.StandsAt stage.state time) :
    (∃ result u,
      (run config stage scenario).run w = .ok result u) ↔
      ¬ReachesUnnamed config stage scenario w found.steps := by
  rw [run_eq_runSteps hScenario]
  constructor
  · rintro ⟨result, u, hEnds⟩
      ⟨before, step, after, v, action, hSplit, hBefore, hAction,
        hUnnamed⟩
    have hStep :
        (attempt config stage scenario step).run v =
          .error (.rejected (.faults [⟨[],
            .refused
              "attribute values need an attribute name"⟩])) v := by
      rw [attempt, hAction]
      exact perform_of_isUnnamed stage hUnnamed v
    rcases runSteps_of_stops found.steps.length hBefore hStep
        after World.Alike.rfl [] with ⟨u', hRaises, _⟩
    rw [← hSplit, hEnds] at hRaises
    cases hRaises
  · intro hNever
    rcases executes_or_stops config stage scenario w found.steps
      with ⟨v, hAll⟩ |
        ⟨before, step, after, v, failure, v', hSplit, hBefore,
          hStep⟩
    · rcases runSteps_of_executes found.steps.length hAll
          World.Alike.rfl [] with ⟨u, hEnds, _⟩
      exact ⟨_, u, hEnds⟩
    · have hResult : (failure.isOwn || failure.isBrowser) = true :=
        isResult_of_stops (hSplit ▸ hSearch) (hSplit ▸ hLimit)
          hStands hBefore hStep
          fun action hAction hUnnamed =>
            hNever ⟨before, step, after, v, action, hSplit, hBefore,
              hAction, hUnnamed⟩
      rcases runSteps_of_stops found.steps.length hBefore hStep
          after World.Alike.rfl [] with ⟨u, hEnds, _⟩
      rw [← hSplit, if_pos hResult] at hEnds
      exact ⟨_, u, hEnds⟩

end

/-
  What was accepted as a step is rejected when it is performed
  exactly if it is an assertion about an attribute whose name
  is empty.  On a page of a browser, with a clock that shows a
  time on a disk without flaws, a run ends with a result
  exactly if it reaches no such assertion.
-/
theorem accepted_steps_complete
    [Pattern.Engine]
    (stage : Stage)
    (w : World) :
    (∀ name d action,
      Configuration.readStep name d = .ok action →
        ((∃ rejection u,
          (perform stage action).run w =
            .error (.rejected rejection) u) ↔
          d.HasText "action" "assert-attribute" ∧
            d.HasConverted "attribute" asText "")) ∧
    ∀ config scenario found time,
      config.scenario? scenario = some found →
      (∀ step ∈ found.steps, ∀ action,
        config.step? step = some action → ¬action.MayCross) →
      w.page.BreaksAsBrowser →
      w.files.IsSound →
      Clock.Shows stage.state time w.files →
      StaysInLimit config stage scenario time w found.steps →
        ((∃ result u,
          (run config stage scenario).run w = .ok result u) ↔
          ¬ReachesUnnamed config stage scenario w found.steps) := by
  constructor
  · intro name d action hRead
    rw [Configuration.readStep_eq_ok_iff] at hRead
    rw [perform_rejects_iff,
      Action.isUnnamed_iff_of_read hRead]
  · intro config scenario found time hScenario hSearch hPage
      hSound hClock hLimit
    exact run_completes_iff hScenario hSearch hLimit
      ⟨hPage.holds, hSound, hClock⟩

/- A record of an assertion about an attribute without a name. -/
def unnamedRecord : Document :=
  .mapping
    [(.text "action", .scalar (.text "assert-attribute")),
      (.text "xpath", .scalar (.text "//a")),
      (.text "attribute", .scalar (.text "")),
      (.text "expected", .scalar (.text "x"))]

/- The action that is read from it. -/
def unnamedAction : Action :=
  .assertAttribute
    ⟨"x", ⟨[.literal 120], { unicode := true }, #[none]⟩⟩
    "//a" ""

/- A scenario that moves the clock before it. -/
def unnamedTour : Configuration :=
  ⟨[("tick", .advance 5), ("check", unnamedAction)],
    [("tour", ⟨["tick", "check"], none⟩)]⟩

/- A world with a clock at seven, on an empty page. -/
def tickingWorld : World :=
  .start (FileTree.empty.install ["state", "now.txt"]
    (.file (.text "7"))) .blank

/- The record is read, and the run ends without a result. -/
theorem accepted_steps_complete_of_unnamedTour :
    Configuration.readStep "check" unnamedRecord =
        .ok unnamedAction ∧
      (∃ rejection u,
        (perform ⟨.ofText "state", none⟩ unnamedAction).run
            tickingWorld =
          .error (.rejected rejection) u) ∧
      ¬∃ result u,
        (run unnamedTour ⟨.ofText "state", none⟩ "tour").run
            tickingWorld =
          .ok result u := by
  have hRead :
      Configuration.readStep "check" unnamedRecord =
        .ok unnamedAction := rfl
  have hTick : unnamedTour.step? "tick" = some (.advance 5) := rfl
  have hCheck : unnamedTour.step? "check" = some unnamedAction := rfl
  have hSearch :
      ∀ step ∈ (["tick", "check"] : List Text), ∀ action,
        unnamedTour.step? step = some action →
          ¬action.MayCross := by
    intro step hStep action hAction
    refine Action.not_mayCross fun pattern hPattern => ?_
    rcases List.mem_pair.mp hStep with rfl | rfl
    · cases hTick.symm.trans hAction
      cases hPattern
    · cases hCheck.symm.trans hAction
      cases hPattern
      rfl
  have hPage : tickingWorld.page.BreaksAsBrowser :=
    ⟨by simp [tickingWorld, World.start, Page.blank],
      by simp [tickingWorld, World.start, Page.blank],
      by simp [tickingWorld, World.start, Page.blank],
      by simp [tickingWorld, World.start, Page.blank]⟩
  have hClock :
      Clock.Shows (Path.ofText "state") 7 tickingWorld.files :=
    ⟨.text "7", "7", rfl, rfl, rfl⟩
  have hLimit :
      StaysInLimit unnamedTour ⟨.ofText "state", none⟩ "tour" 7
        tickingWorld ["tick", "check"] := by
    intro before step after v delta hSplit _ hStep
    rcases before with _ | ⟨first, _ | ⟨second, more⟩⟩
    · cases hSplit
      cases hTick.symm.trans hStep
      decide
    · cases hSplit
      cases hCheck.symm.trans hStep
    · simp at hSplit
  have hEnds :=
    (accepted_steps_complete ⟨.ofText "state", none⟩
      tickingWorld).2 unnamedTour "tour" ⟨["tick", "check"], none⟩ 7
      rfl hSearch hPage rfl hClock hLimit
  refine ⟨hRead, ?_, fun hResult => hEnds.mp hResult ?_⟩
  · exact ((accepted_steps_complete ⟨.ofText "state", none⟩
      tickingWorld).1 "check" unnamedRecord unnamedAction
      hRead).mpr ⟨rfl, .scalar (.text ""), rfl, rfl⟩
  · exact ⟨["tick"], "check", [], _, unnamedAction, rfl,
      .step rfl .none, hCheck, rfl⟩

/- A configuration with the record for its only step. -/
def unnamedDocument : Document :=
  .mapping
    [(.text "steps", .mapping [(.text "check", unnamedRecord)]),
      (.text "scenarios", .mapping
        [(.text "tour", .mapping
          [(.text "steps",
            .sequence [.scalar (.text "check")])])])]

/- It is accepted as a whole, and the run of it is rejected. -/
theorem unnamedDocument_accepted_and_rejected :
    ∃ config u,
      Configuration.ofDocument unnamedDocument = .ok config ∧
        (run config ⟨.ofText "state", none⟩ "tour").run
            tickingWorld =
          .error (.rejected (.faults [⟨[],
            .refused "attribute values need an attribute name"⟩]))
            u :=
  ⟨⟨[("check", unnamedAction)], [("tour", ⟨["check"], none⟩)]⟩,
    _, rfl, rfl⟩

end Replay
