import Replay.CommandLine
import Replay.Proofs.Configuration.Loading
import Replay.Proofs.Session
import Replay.Proofs.Store.Maps

/-
  This file proves that a browser is started only when all is
  ready for a run, and that one that was started and whose
  time could be limited is closed exactly once, at the end,
  whatever the end was.

  Key definitions include:
    * `Call.isInside`
    * `World.Inside`
    * `CommandLine.Unusable`
    * `CommandLine.Ready`
    * `CommandLine.HasEnded`

  Main results:
    * `Session.calls_of_replay`
    * `CommandLine.ready_or_refused`
    * `CommandLine.lifecycle_of_run`
-/

------------------------------------------------------------
-- Calls Inside
------------------------------------------------------------

namespace Replay

open Play Text

/- Is it a call that neither starts nor closes a browser? -/
def Call.isInside : Call → Bool
  | .launch _ _ => false
  | .close => false
  | _ => true

/- The later world has more calls, all of them inside. -/
def World.Inside (w v : World) : Prop :=
  ∃ calls,
    v.trace = w.trace ++ calls ∧
      ∀ call ∈ calls, call.isInside = true

instance : IsPreorder World World.Inside where
  refl w := ⟨[], by simp⟩
  trans := by
    rintro w v u ⟨calls, hFirst, hCalls⟩ ⟨more, hSecond, hMore⟩
    refine ⟨calls ++ more, ?_, ?_⟩
    · rw [hSecond, hFirst, List.append_assoc]
    · exact List.forall_mem_append.mpr ⟨hCalls, hMore⟩

/- Nothing but a call changes the trace. -/
theorem World.Inside.of_trace
    {w v : World}
    (hTrace : v.trace = w.trace) :
    w.Inside v :=
  ⟨[], by simp [hTrace]⟩

/- The calls of actions are inside. -/
theorem inside_frame (state : Path) :
    ActionFrame state (fun call => call.isInside = true)
      World.Inside where
  note _ _ := .of_trace rfl
  record w call hCall := ⟨[call], rfl, by simpa using hCall⟩
  window _ _ _ _ _ := .of_trace rfl
  clock _ _ := .of_trace rfl
  ofPage call hCall := by
    cases call <;> first | rfl | cases hCall

------------------------------------------------------------
-- Replays
------------------------------------------------------------

namespace Session

section

variable {session : Session}
variable {config : Configuration}
variable {scenario : String}
variable {w : World}
variable {addr : Address}

/- What follows the start makes calls inside. -/
theorem rest_staysIn
    {state : Path}
    (hStore : session.store = .folder state)
    (config : Configuration)
    (scenario : String)
    (addr : Address) :
    (session.walk config scenario addr >>=
      session.keep addr).StaysIn World.Inside :=
  (walk_staysIn (inside_frame session.state) (fun _ => rfl)
    (fun _ => rfl) (fun _ => rfl) rfl config scenario addr).bind
      fun result =>
        keep_staysIn (inside_frame session.state).toFrame
          (fun _ _ => .of_trace rfl) rfl hStore addr result

/- The end is the closing, and no profile is left. -/
theorem left_finish (w : World) :
    (Window.finish.left w).trace = w.trace ++ [.close] ∧
      (Window.finish.left w).profile = none := by
  unfold left
  rw [Window.run_finish]
  cases w.browser.breakdowns.lookup .close <;> simp

/- A browser that does not start ends a replay. -/
theorem replay_of_breakdown
    (hScenario : config.scenario? scenario ≠ none)
    (hAddress : session.address.run w = .ok addr w)
    {breakdown : Breakdown}
    (hBreak :
      w.browser.breakdowns.lookup .launch = some breakdown) :
    ∃ v,
      (session.replay config scenario).run w =
        .error breakdown.failure v ∧
      v.profile = none ∧
      v.files = w.files ∧
      v.trace = w.trace ++
        [.launch session.options
          (Window.preferencesText session.options.theme)] := by
  have hBegin := run_begin hScenario hAddress
  rw [Window.start_of_breakdown _ _ hBreak] at hBegin
  exact ⟨_, run_replay_of_begin_error hBegin, rfl, rfl, rfl⟩

/- So does one that starts but whose time cannot be limited. -/
theorem replay_of_broken_limit
    (hScenario : config.scenario? scenario ≠ none)
    (hAddress : session.address.run w = .ok addr w)
    (hNone : w.browser.breakdowns.lookup .launch = none)
    {limit : Number.Binary64}
    (hLimit : session.timeout = some limit)
    {breakdown : Breakdown}
    (hBreak :
      w.browser.breakdowns.lookup .limitTime = some breakdown) :
    ∃ v,
      (session.replay config scenario).run w =
        .error breakdown.failure v ∧
      v.profile = none ∧
      v.files = w.files ∧
      v.trace = w.trace ++
        [.launch session.options
            (Window.preferencesText session.options.theme),
          .limitTime limit] := by
  have hBegin := run_begin hScenario hAddress
  rw [hLimit, Window.start_of_broken_limit _ hNone hBreak]
    at hBegin
  exact ⟨_, run_replay_of_begin_error hBegin, rfl, rfl, rfl⟩

/- Any other one is closed at the end, and only there. -/
theorem calls_of_replay
    {state : Path}
    (hStore : session.store = .folder state)
    (hScenario : config.scenario? scenario ≠ none)
    (hAddress : session.address.run w = .ok addr w)
    (hNone : w.browser.breakdowns.lookup .launch = none)
    (hLimit :
      session.timeout = none ∨
        w.browser.breakdowns.lookup .limitTime = none) :
    ((session.replay config scenario).left w).profile = none ∧
    ∃ calls,
      ((session.replay config scenario).left w).trace =
        w.trace ++
          .launch session.options
            (Window.preferencesText session.options.theme) ::
              (calls ++ [.close]) ∧
      ∀ call ∈ calls, call.isInside = true := by
  have hBegin := run_begin hScenario hAddress
  rw [Window.start_of_limit session.options hNone hLimit]
    at hBegin
  rcases rest_staysIn hStore config scenario addr _ with
    ⟨calls, hRest, hCalls⟩
  rw [left_replay_of_begin_ok hBegin]
  refine ⟨(left_finish _).2,
    Window.limitCalls session.timeout ++ calls, ?_, ?_⟩
  · rw [(left_finish _).1, hRest]
    simp
  · refine List.forall_mem_append.mpr ⟨?_, hCalls⟩
    cases session.timeout <;>
      simp [Window.limitCalls, Call.isInside]

end

end Session

------------------------------------------------------------
-- Ready Runs
------------------------------------------------------------

namespace CommandLine

/-
  Something that a run needs cannot be used: the theme, the
  folder of the state, the document of the configuration, the
  time for an action, the scenario, or the active address.
-/
inductive Unusable
    [Pattern.Engine]
    (settings : Settings)
    (configPath scenario : String)
    (theme : Option String)
    (w : World) : Prop where
  | theme
    {fault : Settings.Fault}
    (hTheme : Settings.checkTheme theme = .error fault)
  | state
    {fault : Settings.Fault}
    (hState : settings.stateFolder none = .error fault)
  | document
    {failure : Failure}
    {u : World}
    (hLoad :
      (Configuration.load configPath).run w = .error failure u)
  | timeout
    {fault : Settings.Fault}
    (hTimeout : settings.actionTimeout none = .error fault)
  | scenario
    {config : Configuration}
    {u : World}
    (hLoad : (Configuration.load configPath).run w = .ok config u)
    (hNone : config.scenario? scenario = none)
  | address
    {state : Path}
    {failure : Failure}
    {u : World}
    (hState : settings.stateFolder none = .ok state)
    (hAddress :
      (Folder.activeAddress state).run w = .error failure u)

/- The session of a run. -/
def sessionOf
    (state : Path)
    (theme : Option String)
    (headed : Bool)
    (timeout : Option Number.Binary64) : Session :=
  { state
    options := ⟨theme, !headed⟩
    timeout
    store := .folder state
    addr := none }

/- Everything that a run needs is there. -/
structure Ready
    [Pattern.Engine]
    (settings : Settings)
    (configPath scenario : String)
    (theme : Option String)
    (w : World)
    (state : Path)
    (config : Configuration)
    (timeout : Option Number.Binary64)
    (addr : Address) : Prop where
  accepted : Settings.checkTheme theme = .ok theme
  folder : settings.stateFolder none = .ok state
  document : (Configuration.load configPath).run w = .ok config w
  limit : settings.actionTimeout none = .ok timeout
  known : config.scenario? scenario ≠ none
  active : (Folder.activeAddress state).run w = .ok addr w

/- A theme that is accepted stays as it is. -/
theorem eq_of_checkTheme
    {theme kept : Option String}
    (hTheme : Settings.checkTheme theme = .ok kept) :
    kept = theme := by
  unfold Settings.checkTheme at hTheme
  split at hTheme
  · cases hTheme
    rfl
  · split at hTheme
    · cases hTheme
      rfl
    · cases hTheme

/- To answer with a note changes the log alone. -/
theorem noted_staysIn
    (level : Level)
    (source : String)
    (message : Text)
    (reply : Reply) :
    StaysIn World.Alike (do
      Play.note level source message
      return reply) :=
  StaysIn.bind (fun _ => World.Alike.rfl) fun _ => StaysIn.pure _

/- The log tells what came of a run, and the status. -/
def conclude (result : RunResult) : Play Reply := do
  if result.success then
    Play.note .info mainLog result.describe
    return .silent 0
  else
    Play.note .error mainLog result.describe
    return .silent 1

section

variable {settings : Settings}
variable {configPath scenario : String}
variable {theme : Option String}
variable {headed : Bool}
variable {w : World}

/- What a run does where everything is ready. -/
theorem run_handle_of_ready
    [Pattern.Engine]
    {state : Path}
    {config : Configuration}
    {timeout : Option Number.Binary64}
    {addr : Address}
    (hReady :
      Ready settings configPath scenario theme w state config
        timeout addr) :
    (handle settings (.run configPath scenario theme headed)).run w =
      ((sessionOf state theme headed timeout).replay config
        scenario >>= conclude).run w := by
  simp only [handle, replay, EStateM.run_bind, hReady.accepted,
    hReady.folder, hReady.document, hReady.limit, ofSetting,
    EStateM.run_pure]
  rfl

/- Loading leaves the world as it is. -/
theorem eq_of_load
    [Pattern.Engine]
    {u : World}
    {config : Configuration}
    (hLoad : (Configuration.load configPath).run w = .ok config u) :
    u = w :=
  ((Configuration.load_staysIn (R := Eq) configPath).of_ok
    hLoad).symm

theorem eq_of_load_error
    [Pattern.Engine]
    {u : World}
    {failure : Failure}
    (hLoad :
      (Configuration.load configPath).run w = .error failure u) :
    u = w :=
  ((Configuration.load_staysIn (R := Eq) configPath).of_error
    hLoad).symm

/-
  Either all is ready, or something cannot be used, and the
  run fails and leaves the world as it is.
-/
theorem ready_or_refused
    [Pattern.Engine]
    (settings : Settings)
    (configPath scenario : String)
    (theme : Option String)
    (headed : Bool)
    (w : World) :
    (∃ state config timeout addr,
      Ready settings configPath scenario theme w state config
        timeout addr) ∨
    Unusable settings configPath scenario theme w ∧
      ∃ failure,
        (handle settings
          (.run configPath scenario theme headed)).run w =
            .error failure w := by
  have hReplay :
      handle settings (.run configPath scenario theme headed) =
        replay settings configPath scenario theme headed := rfl
  rw [hReplay]
  unfold replay
  rcases hTheme : Settings.checkTheme theme with fault | kept
  · exact Or.inr ⟨.theme hTheme, .settings fault, rfl⟩
  cases eq_of_checkTheme hTheme
  rcases hState : settings.stateFolder none with fault | state
  · exact Or.inr ⟨.state hState, .settings fault, rfl⟩
  rcases hLoad : (Configuration.load configPath).run w with
    ⟨config, u⟩ | ⟨failure, u⟩
  swap
  · cases eq_of_load_error hLoad
    refine Or.inr ⟨.document hLoad, failure, ?_⟩
    simp [ofSetting, hLoad]
  cases eq_of_load hLoad
  rcases hTimeout : settings.actionTimeout none with
    fault | timeout
  · refine Or.inr ⟨.timeout hTimeout, .settings fault, ?_⟩
    simp [ofSetting, hLoad]
  by_cases hScenario : config.scenario? scenario = none
  · refine Or.inr ⟨.scenario hLoad hScenario,
      .unknownScenario scenario, ?_⟩
    simp [ofSetting, hLoad, Session.replay, hScenario]
  rcases hAddress : (Folder.activeAddress state).run w with
    ⟨addr, u⟩ | ⟨failure, u⟩
  swap
  · cases ((Folder.activeAddress_staysIn (R := Eq) state).of_error
      hAddress).symm
    refine Or.inr ⟨.address hState hAddress, failure, ?_⟩
    simp [ofSetting, hLoad, Session.replay, hScenario,
      Session.address, Store.activeAddress, hAddress]
  cases ((Folder.activeAddress_staysIn (R := Eq) state).of_ok
    hAddress).symm
  exact Or.inl ⟨state, config, timeout, addr, hTheme, hState, hLoad,
    hTimeout, hScenario, hAddress⟩

/- Where everything is ready nothing is unusable. -/
theorem Ready.not_unusable
    [Pattern.Engine]
    {state : Path}
    {config : Configuration}
    {timeout : Option Number.Binary64}
    {addr : Address}
    (hReady :
      Ready settings configPath scenario theme w state config
        timeout addr) :
    ¬Unusable settings configPath scenario theme w := by
  intro hUnusable
  cases hUnusable with
  | theme hTheme =>
      rw [hReady.accepted] at hTheme
      cases hTheme
  | state hState =>
      rw [hReady.folder] at hState
      cases hState
  | document hLoad =>
      rw [hReady.document] at hLoad
      cases hLoad
  | timeout hTimeout =>
      rw [hReady.limit] at hTimeout
      cases hTimeout
  | scenario hLoad hNone =>
      rw [hReady.document] at hLoad
      cases hLoad
      exact hReady.known hNone
  | address hState hAddress =>
      rw [hReady.folder] at hState
      cases hState
      rw [hReady.active] at hAddress
      cases hAddress

/- Nothing is changed where something is unusable. -/
theorem run_handle_of_unusable
    [Pattern.Engine]
    (headed : Bool)
    (hUnusable : Unusable settings configPath scenario theme w) :
    ∃ failure,
      (handle settings
        (.run configPath scenario theme headed)).run w =
          .error failure w := by
  rcases ready_or_refused settings configPath scenario theme headed
      w with ⟨_, _, _, _, hReady⟩ | ⟨_, hRefused⟩
  · exact absurd hUnusable hReady.not_unusable
  · exact hRefused

/- What is told of a run changes the log alone. -/
theorem left_handle_of_ready
    [Pattern.Engine]
    {state : Path}
    {config : Configuration}
    {timeout : Option Number.Binary64}
    {addr : Address}
    (hReady :
      Ready settings configPath scenario theme w state config
        timeout addr) :
    (((sessionOf state theme headed timeout).replay config
        scenario).left w).Alike
      ((handle settings
        (.run configPath scenario theme headed)).left w) := by
  have hConclude (result : RunResult) :
      (conclude result).StaysIn World.Alike := by
    unfold conclude
    split
    · exact noted_staysIn _ _ _ _
    · exact noted_staysIn _ _ _ _
  have hSame :
      (handle settings
          (.run configPath scenario theme headed)).left w =
        ((sessionOf state theme headed timeout).replay config
          scenario >>= conclude).left w := by
    rw [left, left, run_handle_of_ready hReady]
  rw [hSame]
  exact StaysIn.left_bind hConclude w

end

------------------------------------------------------------
-- Invocations
------------------------------------------------------------

/- To log what was wrong changes the log alone. -/
theorem left_guarded
    (act : Play Reply)
    (w : World) :
    (act.left w).Alike ((guarded act).left w) := by
  have hEnd (failure : Failure) :
      StaysIn World.Alike (α := Reply) (do
        if failure.isOwn then
          Play.note .error mainLog failure.outline
          return .silent 1
        else if failure.isBrowser then
          Play.note .error mainLog
            ("Browser error: " ++ failure.message)
          return .silent 1
        else
          throw failure) := by
    split
    · exact noted_staysIn _ _ _ _
    · split
      · exact noted_staysIn _ _ _ _
      · exact StaysIn.throw _
  unfold left guarded
  rw [EStateM.run_bind, run_outcome]
  rcases act.run w with ⟨reply, v⟩ | ⟨failure, v⟩
  · exact World.Alike.rfl
  · exact hEnd failure v

/- The call that starts the browser of a run. -/
def startCall
    (theme : Option String)
    (headed : Bool) : Call :=
  .launch ⟨theme, !headed⟩ (Window.preferencesText theme)

/-
  What a run that begins comes to: no profile is left.  If the
  browser breaks down at its start, that was the only call, and
  no file changed.  If it starts, and its time is limited or has
  no limit, it is closed by the last call and by no other one.
-/
structure HasEnded
    (settings : Settings)
    (theme : Option String)
    (headed : Bool)
    (w v : World) : Prop where
  profile : v.profile = none
  broken :
    ∀ breakdown,
      w.browser.breakdowns.lookup .launch = some breakdown →
        v.trace = w.trace ++ [startCall theme headed] ∧
          v.files = w.files
  closed :
    w.browser.breakdowns.lookup .launch = none →
      settings.actionTimeout none = .ok none ∨
          w.browser.breakdowns.lookup .limitTime = none →
        ∃ calls,
          v.trace =
            w.trace ++
              startCall theme headed :: (calls ++ [.close]) ∧
          ∀ call ∈ calls, call.isInside = true

section

variable {settings : Settings}
variable {arguments : List String}
variable {configPath scenario : String}
variable {theme : Option String}
variable {headed : Bool}
variable {w : World}

/- A level that there is not is refused first. -/
theorem run_invoke_of_level
    [Pattern.Engine]
    (hLevel : threshold? (upperCase settings.logLevel) = none) :
    (invoke settings arguments).run w =
      .error (.unknownLevel (upperCase settings.logLevel)) w := by
  unfold invoke
  simp [hLevel]

/- Otherwise a call leaves what is left of what it asks for. -/
theorem left_invoke
    [Pattern.Engine]
    {invocation : Invocation}
    (hLevel : threshold? (upperCase settings.logLevel) ≠ none)
    (hArguments :
      Invocation.ofArguments arguments = .ok invocation)
    (w : World) :
    ((handle settings invocation).left w).Alike
      ((invoke settings arguments).left w) := by
  have hInvoke :
      invoke settings arguments =
        guarded (handle settings invocation) := by
    unfold invoke
    simp [hLevel, hArguments]
  rw [hInvoke]
  exact left_guarded _ w

/- Where a run cannot be begun the log alone changes. -/
theorem alike_of_unusable
    [Pattern.Engine]
    (hArguments :
      Invocation.ofArguments arguments =
        .ok (.run configPath scenario theme headed))
    (hUnusable :
      Unusable settings configPath scenario theme w ∨
        threshold? (upperCase settings.logLevel) = none) :
    w.Alike ((invoke settings arguments).left w) := by
  by_cases hLevel :
      threshold? (upperCase settings.logLevel) = none
  · rw [left_of_error (run_invoke_of_level hLevel)]
    exact World.Alike.rfl
  · rcases run_handle_of_unusable headed
        (hUnusable.resolve_right hLevel) with ⟨failure, hRefused⟩
    have hAlike := left_invoke hLevel hArguments w
    rwa [left_of_error hRefused] at hAlike

/- A browser is started, and closed if it started. -/
theorem hasEnded_of_ready
    [Pattern.Engine]
    {state : Path}
    {config : Configuration}
    {timeout : Option Number.Binary64}
    {addr : Address}
    (hReady :
      Ready settings configPath scenario theme w state config
        timeout addr) :
    HasEnded settings theme headed w
      (((sessionOf state theme headed timeout).replay config
        scenario).left w) := by
  have hAddress :
      (sessionOf state theme headed timeout).address.run w =
        .ok addr w := hReady.active
  cases hLaunch : w.browser.breakdowns.lookup .launch with
  | some breakdown =>
      rcases Session.replay_of_breakdown hReady.known hAddress
          hLaunch with ⟨v, hRun, hProfile, hFiles, hTrace⟩
      rw [left_of_error hRun]
      refine ⟨hProfile, fun _ _ => ⟨hTrace, hFiles⟩,
        fun hNone => ?_⟩
      simp [hLaunch] at hNone
  | none =>
      refine ⟨?_, fun _ hSome => ?_, ?_⟩
      · by_cases hLimit :
            timeout = none ∨
              w.browser.breakdowns.lookup .limitTime = none
        · exact (Session.calls_of_replay rfl hReady.known hAddress
            hLaunch hLimit).1
        · rcases not_or.mp hLimit with ⟨hSome, hBreak⟩
          rcases Option.ne_none_iff_exists'.mp hSome with
            ⟨limit, hSome⟩
          rcases Option.ne_none_iff_exists'.mp hBreak with
            ⟨breakdown, hBreak⟩
          rcases Session.replay_of_broken_limit hReady.known
              hAddress hLaunch hSome hBreak with
            ⟨v, hRun, hProfile, _⟩
          rwa [left_of_error hRun]
      · simp [hLaunch] at hSome
      · intro _ hLimit
        have hNo :
            timeout = none ∨
              w.browser.breakdowns.lookup .limitTime = none := by
          simpa [hReady.limit] using hLimit
        exact (Session.calls_of_replay rfl hReady.known hAddress
          hLaunch hNo).2

/- Whether a run has ended is not told by the log. -/
theorem HasEnded.of_alike
    {v u : World}
    (hEnded : HasEnded settings theme headed w v)
    (hAlike : v.Alike u) :
    HasEnded settings theme headed w u where
  profile := hAlike.profile ▸ hEnded.profile
  broken breakdown hLaunch := by
    rw [← hAlike.trace, ← hAlike.files]
    exact hEnded.broken breakdown hLaunch
  closed hLaunch := by
    rw [← hAlike.trace]
    exact hEnded.closed hLaunch

/- Where a run can be begun, it is, and comes to its end. -/
theorem hasEnded_of_usable
    [Pattern.Engine]
    (hArguments :
      Invocation.ofArguments arguments =
        .ok (.run configPath scenario theme headed))
    (hUsable : ¬Unusable settings configPath scenario theme w)
    (hLevel : threshold? (upperCase settings.logLevel) ≠ none) :
    HasEnded settings theme headed w
      ((invoke settings arguments).left w) := by
  rcases ready_or_refused settings configPath scenario theme
      headed w with
    ⟨state, config, timeout, addr, hReady⟩ | ⟨hUnusable, _⟩
  · exact ((hasEnded_of_ready hReady).of_alike
      (left_handle_of_ready hReady)).of_alike
        (left_invoke hLevel hArguments w)
  · exact absurd hUnusable hUsable

/-
  Where a run cannot be begun, nothing but the log changes.
  Otherwise a browser is started, and unless its time cannot
  be limited it is closed at the end, whatever came in
  between.  A profile is never left behind.
-/
theorem lifecycle_of_run
    [Pattern.Engine]
    (hArguments :
      Invocation.ofArguments arguments =
        .ok (.run configPath scenario theme headed))
    (w : World) :
    (Unusable settings configPath scenario theme w ∨
        threshold? (upperCase settings.logLevel) = none →
      w.Alike ((invoke settings arguments).left w)) ∧
    (¬Unusable settings configPath scenario theme w →
      threshold? (upperCase settings.logLevel) ≠ none →
        HasEnded settings theme headed w
          ((invoke settings arguments).left w)) ∧
    (w.profile = none →
      ((invoke settings arguments).left w).profile = none) := by
  refine ⟨alike_of_unusable hArguments,
    hasEnded_of_usable hArguments, ?_⟩
  intro hProfile
  by_cases hUnusable :
      Unusable settings configPath scenario theme w ∨
        threshold? (upperCase settings.logLevel) = none
  · rw [← hProfile]
    exact (alike_of_unusable hArguments hUnusable).profile.symm
  · rw [not_or] at hUnusable
    exact (hasEnded_of_usable hArguments hUnusable.1
      hUnusable.2).profile

end

/- The files of a tour in the named tab of a browser. -/
def tourFiles (tab : String) : FileTree :=
  ((savedTab.install ["tour.json"]
    (.file (.text
      ("\x7b\"steps\": \x7b\"home\": \x7b" ++
        "\"action\": \"goto-url\", " ++
        "\"value\": \"http://new/\"\x7d\x7d, " ++
        "\"scenarios\": \x7b\"tour\": \x7b" ++
        "\"steps\": [\"home\"]\x7d\x7d\x7d")))).install
    ["state", "active-browser.txt"] (.file (.text "b"))).install
    ["state", "active-tab.txt"] (.file (.text tab))

/- A tour in a browser some of whose calls break down. -/
def tourWorld
    (tab : String)
    (breakdowns : List (BrowserMethod × Breakdown)) : World :=
  { World.start (tourFiles tab) .blank with
    browser := { Browser.blank with breakdowns := breakdowns } }

/- The world that a run of the tour leaves. -/
def tourLeft
    (timeout : Option String)
    (w : World) : World :=
  (invoke ⟨some "state", "", "INFO", timeout⟩
    ["run", "--config", "tour.json", "--scenario", "tour"]).left w

/- The browser is closed although the tab could not be saved. -/
theorem lifecycle_of_run_of_tourWorld :
    ∃ calls,
      (tourLeft none
          (tourWorld "t" [(.cookies, .browser "gone")])).trace =
        startCall none false :: (calls ++ [.close]) ∧
      ∀ call ∈ calls, call.isInside = true := by
  have hArguments :
      Invocation.ofArguments
          ["run", "--config", "tour.json", "--scenario", "tour"] =
        .ok (.run "tour.json" "tour" none false) := by
    decide +kernel
  have hUsable :
      ¬Unusable ⟨some "state", "", "INFO", none⟩ "tour.json"
        "tour" none
        (tourWorld "t" [(.cookies, .browser "gone")]) := by
    intro hUnusable
    rcases run_handle_of_unusable false hUnusable with
      ⟨failure, hRefused⟩
    have hTrace := congrArg World.trace (left_of_error hRefused)
    exact absurd hTrace (by decide +kernel)
  exact ((lifecycle_of_run hArguments
    (tourWorld "t" [(.cookies, .browser "gone")])).2.1 hUsable
      (by decide +kernel)).closed rfl (.inl rfl)

/- The named tab is the active one. -/
theorem run_activeAddress_tourWorld
    {tab : String}
    (hLines : Content.lines (.text tab) = .ok tab)
    (hTrim : trim tab = tab)
    (breakdowns : List (BrowserMethod × Breakdown)) :
    (Folder.activeAddress (.ofText "state")).run
        (tourWorld tab breakdowns) =
      .ok ⟨"b", tab⟩ (tourWorld tab breakdowns) := by
  have hRead :
      (tourWorld tab breakdowns).files.read
          ((Path.ofText "state").child "active-tab.txt") =
        .ok (.text tab) := rfl
  have hTab :
      (readText ((Path.ofText "state").child
          "active-tab.txt")).run (tourWorld tab breakdowns) =
        .ok tab (tourWorld tab breakdowns) := by
    rw [run_readText, hRead]
    dsimp only
    rw [hLines]
  have hBrowser :
      (readText ((Path.ofText "state").child
          "active-browser.txt")).run (tourWorld tab breakdowns) =
        .ok "b" (tourWorld tab breakdowns) := rfl
  have hShort : trim "b" = "b" := by decide +kernel
  unfold Folder.activeAddress
  rw [EStateM.run_bind, hBrowser]
  dsimp only
  rw [EStateM.run_bind, hTab]
  dsimp only
  rw [hTrim, hShort, EStateM.run_pure]

/- A name that no file may have is read like any other one. -/
theorem run_activeAddress_longAddress :
    (Folder.activeAddress (.ofText "state")).run
        (tourWorld Folder.longAddress.tab []) =
      .ok Folder.longAddress
        (tourWorld Folder.longAddress.tab []) := by
  have hLines :
      unifyNewlines (List.replicate 256 'x') =
        List.replicate 256 'x' := by
    decide +kernel
  have hTrim :
      trimBy isBlank (List.replicate 256 'x') =
        List.replicate 256 'x' := by
    decide +kernel
  refine run_activeAddress_tourWorld ?_ ?_ []
  · rw [Content.lines, Folder.longAddress, String.toList_ofList,
      hLines]
  · rw [trim, Folder.longAddress, String.toList_ofList, hTrim]

/- A tour in the tab of that name can be begun. -/
theorem usable_longAddress :
    ¬Unusable ⟨some "state", "", "INFO", none⟩ "tour.json" "tour"
      none (tourWorld Folder.longAddress.tab []) := by
  have hKnown :
      ((Configuration.load "tour.json").run'
        (tourWorld Folder.longAddress.tab [])).any
          (fun config => (config.scenario? "tour").isSome) =
        true := by
    decide +kernel
  rcases (Option.any_eq_true_iff_get _ _).mp hKnown with
    ⟨hSome, hScenario⟩
  rcases exists_run_of_run' (Option.eq_some_of_isSome hSome) with
    ⟨u, hLoad⟩
  cases eq_of_load hLoad
  exact Ready.not_unusable
    { accepted := rfl
      folder := rfl
      document := hLoad
      limit := rfl
      known := Option.isSome_iff_ne_none.mp hScenario
      active := run_activeAddress_longAddress }

/-
  A browser that starts, but whose time cannot be limited, is
  not closed.  And a tab that nothing can be kept for is
  noticed only when the browser has been started.
-/
theorem lifecycle_broken :
    (tourLeft (some "0")
        (tourWorld "t" [(.limitTime, .browser "gone")])).trace =
      [startCall none false, .limitTime .zero] ∧
    (Folder.activeAddress (.ofText "state")).run
        (tourWorld Folder.longAddress.tab []) =
      .ok Folder.longAddress
        (tourWorld Folder.longAddress.tab []) ∧
    (tourFiles Folder.longAddress.tab).hasEntry
        (Folder.url (.ofText "state") Folder.longAddress) =
      .error .nameTooLong ∧
    ∃ calls,
      (tourLeft none
          (tourWorld Folder.longAddress.tab [])).trace =
        startCall none false :: (calls ++ [.close]) := by
  refine ⟨by decide +kernel, run_activeAddress_longAddress,
    ?_, ?_⟩
  · rw [Folder.url_of_isNamed Folder.isNamed_longAddress]
    have hFolder :
        (tourFiles Folder.longAddress.tab).standing?
            ((Path.ofText "state").below ["browser", "b", "tab"]) =
          some .folder := rfl
    exact FileTree.hasEntry_of_long hFolder
      Folder.isNamed_longAddress.tab Folder.long_longAddress
      (by decide)
  · have hArguments :
        Invocation.ofArguments
            ["run", "--config", "tour.json", "--scenario", "tour"] =
          .ok (.run "tour.json" "tour" none false) := by
      decide +kernel
    rcases (hasEnded_of_usable hArguments usable_longAddress
      (by decide +kernel)).closed rfl (.inl rfl) with
      ⟨calls, hTrace, _⟩
    exact ⟨calls, hTrace⟩

end CommandLine

end Replay
