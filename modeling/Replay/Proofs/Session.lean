import Replay.Proofs.Run
import Replay.Proofs.Store
import Replay.Proofs.Window
import Replay.Session

/-
  This file proves what a replay does to the files, by the
  part of it that is reached.

  Key definitions include:
    * `Session.begin`
    * `Session.walk`
    * `Session.Passes`
    * `World.OnlyClock`

  Main results:
    * `Session.replay_eq`
    * `replay_untouched`
    * `replay_of_incomplete_save`
-/

------------------------------------------------------------
-- Parts of a Replay
------------------------------------------------------------

namespace Replay

open Play

namespace Session

/- The first part of a replay, up to the started browser. -/
def begin
    (session : Session)
    (config : Configuration)
    (scenario : Text) : Play Address := do
  if (config.scenario? scenario).isNone then
    throw (.unknownScenario scenario)
  let addr ← session.address
  Window.start session.options session.timeout
  return addr

/- The second part: the tab is restored, the scenario run. -/
def walk
    (session : Session)
    (config : Configuration)
    (scenario : Text)
    (addr : Address) : Play RunResult := do
  restoreTab session.store addr
  restoreUrl session.store addr
  run config ⟨session.state, session.timeout⟩ scenario

/- What follows the restored cookies. -/
def onward
    (session : Session)
    (config : Configuration)
    (scenario : Text)
    (addr : Address) : Play RunResult := do
  Window.newTab
  restoreUrl session.store addr
  run config ⟨session.state, session.timeout⟩ scenario

/- The last part: the tab is saved if every step passed. -/
def keep
    (session : Session)
    (addr : Address)
    (result : RunResult) : Play RunResult := do
  if result.success then
    save session.store addr
  return result

/- The three parts make up a replay. -/
theorem replay_eq
    (session : Session)
    (config : Configuration)
    (scenario : Text) :
    session.replay config scenario =
      session.begin config scenario >>= fun addr =>
        (session.walk config scenario addr >>=
          session.keep addr).andFinally Window.finish := by
  unfold replay begin body walk keep
  simp only [Window.onProfile_launch]
  cases config.scenario? scenario <;> simp

/- The walk begins with the cookies. -/
theorem walk_eq
    (session : Session)
    (config : Configuration)
    (scenario : Text)
    (addr : Address) :
    session.walk config scenario addr =
      session.store.readCookies addr >>= fun kept =>
        Window.restoreCookies kept >>= fun _ =>
          session.onward config scenario addr := by
  simp [walk, restoreTab, onward]

/-
  Every step of a scenario passed: the result, and the world
  in which the saving begins.
-/
def Passes
    (session : Session)
    (config : Configuration)
    (scenario : Text)
    (w : World)
    (addr : Address)
    (result : RunResult)
    (v : World) : Prop :=
  ∃ u,
    (session.begin config scenario).run w = .ok addr u ∧
      (session.walk config scenario addr).run u =
        .ok result v ∧
      result.success = true

/- With a scenario and an address, the browser is started. -/
theorem run_begin
    {session : Session}
    {config : Configuration}
    {scenario : Text}
    {w : World}
    {addr : Address}
    (hScenario : config.scenario? scenario ≠ none)
    (hAddress : session.address.run w = .ok addr w) :
    (session.begin config scenario).run w =
      match (Window.start session.options session.timeout).run w with
      | .ok _ v => .ok addr v
      | .error failure v => .error failure v := by
  unfold begin
  rw [if_neg (by simpa using hScenario)]
  simp only [EStateM.run_bind, EStateM.run_pure, hAddress]
  cases (Window.start session.options session.timeout).run w <;>
    rfl

/- Without a limit it is the world of the launched browser. -/
theorem run_begin_of_no_limit
    {session : Session}
    {config : Configuration}
    {scenario : Text}
    {w : World}
    {addr : Address}
    (hScenario : config.scenario? scenario ≠ none)
    (hAddress : session.address.run w = .ok addr w)
    (hLimit : session.timeout = none)
    (hNone : w.browser.breakdowns.lookup .launch = none) :
    (session.begin config scenario).run w =
      .ok addr (Window.launched session.options w) := by
  rw [run_begin hScenario hAddress, hLimit,
    Window.start_of_no_limit session.options hNone]

/- A replay that cannot begin ends with that. -/
theorem run_replay_of_begin_error
    {session : Session}
    {config : Configuration}
    {scenario : Text}
    {w u : World}
    {failure : Failure}
    (hBegin :
      (session.begin config scenario).run w =
        .error failure u) :
    (session.replay config scenario).run w =
      .error failure u := by
  rw [replay_eq, EStateM.run_bind, hBegin]

/- What follows the started browser, which is closed after it. -/
theorem run_replay_of_begin_ok
    {session : Session}
    {config : Configuration}
    {scenario : Text}
    {w u : World}
    {addr : Address}
    (hBegin :
      (session.begin config scenario).run w = .ok addr u) :
    (session.replay config scenario).run w =
      ((session.walk config scenario addr >>=
        session.keep addr).andFinally Window.finish).run u := by
  rw [replay_eq, EStateM.run_bind, hBegin]

/- The browser is closed where the walk or the saving ends. -/
theorem left_replay_of_begin_ok
    {session : Session}
    {config : Configuration}
    {scenario : Text}
    {w u : World}
    {addr : Address}
    (hBegin :
      (session.begin config scenario).run w = .ok addr u) :
    (session.replay config scenario).left w =
      Window.finish.left
        ((session.walk config scenario addr >>=
          session.keep addr).left u) := by
  rw [← left_andFinally, left, run_replay_of_begin_ok hBegin]
  rfl

/- What follows the walk. -/
theorem run_replay_of_walk_ok
    {session : Session}
    {config : Configuration}
    {scenario : Text}
    {w u v : World}
    {addr : Address}
    {result : RunResult}
    (hBegin :
      (session.begin config scenario).run w = .ok addr u)
    (hWalk :
      (session.walk config scenario addr).run u =
        .ok result v) :
    (session.replay config scenario).run w =
      ((session.keep addr result).andFinally
        Window.finish).run v := by
  have hRun :
      (session.walk config scenario addr >>=
        session.keep addr).run u =
      (session.keep addr result).run v := by
    rw [EStateM.run_bind, hWalk]
  rw [run_replay_of_begin_ok hBegin, run_andFinally,
    run_andFinally, hRun]

end Session

------------------------------------------------------------
-- Frames
------------------------------------------------------------

section Framed

variable {mayCall : Call → Prop}
variable {R : World → World → Prop}
variable [IsPreorder World R]

/- The begin of a replay makes calls and touches no file. -/
theorem Session.begin_staysIn
    {session : Session}
    (frame : ActionFrame session.state mayCall R)
    (hActive : mayCall .activeAddress)
    (hLaunch : ∀ options text, mayCall (.launch options text))
    (hLimit : ∀ limit, mayCall (.limitTime limit))
    (config : Configuration)
    (scenario : Text) :
    (session.begin config scenario).StaysIn R := by
  have hAddress : session.address.StaysIn R := by
    unfold Session.address
    split
    · exact StaysIn.pure _
    · exact Store.activeAddress_staysIn frame.toFrame hActive _
  have hRest :
      StaysIn R (do
        let addr ← session.address
        Window.start session.options session.timeout
        return addr) :=
    hAddress.bind fun addr =>
      (Window.start_staysIn frame.toFrame hLaunch hLimit _ _).bind
        fun _ => StaysIn.pure addr
  unfold Session.begin
  split
  · exact (StaysIn.throw _).bind fun _ => hRest
  · exact hRest

theorem Session.onward_staysIn
    {session : Session}
    (frame : ActionFrame session.state mayCall R)
    (hReadUrl : ∀ addr, mayCall (.readUrl addr))
    (hNew : mayCall .newPage)
    (config : Configuration)
    (scenario : Text)
    (addr : Address) :
    (session.onward config scenario addr).StaysIn R := by
  apply (Window.newTab_staysIn frame.toFrame hNew).bind
  intro _
  apply StaysIn.bind
  · apply (Store.readUrl_staysIn frame.toFrame hReadUrl _
      addr).bind
    intro url
    split
    · exact StaysIn.pure ()
    · split
      · exact StaysIn.pure ()
      · exact (frame.note_staysIn _ _ _).bind fun _ =>
          visit_staysIn frame.toPageFrame _
  · intro _
    exact run_staysIn frame config scenario

/- The walk touches files as its steps do. -/
theorem Session.walk_staysIn
    {session : Session}
    (frame : ActionFrame session.state mayCall R)
    (hReadCookies : ∀ addr, mayCall (.readCookies addr))
    (hReadUrl : ∀ addr, mayCall (.readUrl addr))
    (hAdd : ∀ cookies, mayCall (.addCookies cookies))
    (hNew : mayCall .newPage)
    (config : Configuration)
    (scenario : Text)
    (addr : Address) :
    (session.walk config scenario addr).StaysIn R := by
  rw [walk_eq]
  apply (Store.readCookies_staysIn frame.toFrame hReadCookies _
    addr).bind
  intro kept
  apply (Window.restoreCookies_staysIn frame.toFrame hAdd
    kept).bind
  intro _
  exact onward_staysIn frame hReadUrl hNew config scenario addr

/- Saving writes files and asks for the cookies. -/
theorem Session.save_staysIn
    (frame : Frame mayCall R)
    (hFiles : ∀ w files, R w { w with files := files })
    (hList : mayCall .listCookies)
    (state : Path)
    (addr : Address) :
    (save (.folder state) addr).StaysIn R := by
  unfold save Store.writeUrl Store.writeCookies
  simp only [Folder.writeUrl_eq, Folder.writeCookies_eq]
  refine StaysIn.get.bind fun w => ?_
  apply (keepText_staysIn hFiles _ _).bind
  intro _
  apply (Window.exportCookies_staysIn frame hList).bind
  intro cookies
  apply (keepText_staysIn hFiles _ _).bind
  intro _
  exact frame.note_staysIn _ _ _

theorem Session.keep_staysIn
    {session : Session}
    {state : Path}
    (frame : Frame mayCall R)
    (hFiles : ∀ w files, R w { w with files := files })
    (hList : mayCall .listCookies)
    (hStore : session.store = .folder state)
    (addr : Address)
    (result : RunResult) :
    (session.keep addr result).StaysIn R := by
  have hSave := save_staysIn frame hFiles hList state addr
  unfold keep
  rw [hStore]
  split
  · exact hSave.bind fun _ => StaysIn.pure result
  · exact StaysIn.pure result

end Framed

------------------------------------------------------------
-- Files
------------------------------------------------------------

/- Two worlds in which no file differs but the clock. -/
def World.OnlyClock
    (state : Path)
    (w v : World) : Prop :=
  FileTree.RewrittenAt (Clock.file state) w.files v.files

instance (state : Path) :
    IsPreorder World (World.OnlyClock state) where
  refl w := refl_of (FileTree.RewrittenAt _) w.files
  trans _ _ _ hFirst hSecond :=
    trans_of (FileTree.RewrittenAt _) hFirst hSecond

/- Everything but the saving changes the clock at most. -/
theorem onlyClock_frame (state : Path) :
    ActionFrame state (fun _ => True) (World.OnlyClock state) where
  note w _ := refl_of (World.OnlyClock state) w
  record w _ _ := refl_of (World.OnlyClock state) w
  window w _ _ _ _ := refl_of (World.OnlyClock state) w
  clock w content := w.files.rewrittenAt_write _ content
  ofPage _ _ := trivial

namespace Session

theorem begin_onlyClock
    (session : Session)
    (config : Configuration)
    (scenario : Text) :
    (session.begin config scenario).StaysIn
      (World.OnlyClock session.state) :=
  begin_staysIn (onlyClock_frame session.state) trivial
    (fun _ _ => trivial) (fun _ => trivial) config scenario

/- Before the save, only the clock may be touched. -/
theorem walk_onlyClock
    (session : Session)
    (config : Configuration)
    (scenario : Text)
    (addr : Address) :
    (session.walk config scenario addr).StaysIn
      (World.OnlyClock session.state) :=
  walk_staysIn (onlyClock_frame session.state)
    (fun _ => trivial) (fun _ => trivial) (fun _ => trivial)
    trivial config scenario addr

theorem finish_onlyClock
    (state : Path) :
    Window.finish.StaysIn (World.OnlyClock state) :=
  Window.finish_staysIn (onlyClock_frame state).toFrame trivial

/- Up to the saving, nothing but the clock differs. -/
theorem onlyClock_of_passes
    {session : Session}
    {config : Configuration}
    {scenario : Text}
    {w v : World}
    {addr : Address}
    {result : RunResult}
    (hPasses :
      session.Passes config scenario w addr result v) :
    World.OnlyClock session.state w v := by
  rcases hPasses with ⟨u, hBegin, hWalk, _⟩
  exact trans_of (World.OnlyClock session.state)
    ((begin_onlyClock session config scenario).of_ok hBegin)
    ((walk_onlyClock session config scenario addr).of_ok
      hWalk)

/- A replay that never saves changes the clock at most. -/
theorem replay_onlyClock
    (session : Session)
    (config : Configuration)
    (scenario : Text)
    (w : World)
    (hNever :
      ∀ addr result v,
        ¬ session.Passes config scenario w addr result v) :
    World.OnlyClock session.state w
      ((session.replay config scenario).left w) := by
  have hBegins := begin_onlyClock session config scenario
  cases hBegin : (session.begin config scenario).run w with
  | error failure u =>
      rw [left_of_error (run_replay_of_begin_error hBegin)]
      exact hBegins.of_error hBegin
  | ok addr u =>
      have hWalks := walk_onlyClock session config scenario addr
      have hLast :
          World.OnlyClock session.state u
            ((session.walk config scenario addr >>=
              session.keep addr).left u) := by
        cases hWalk :
            (session.walk config scenario addr).run u with
        | error failure v =>
            simpa [left, hWalk] using hWalks.of_error hWalk
        | ok result v =>
            have hFailed : result.success = false := by
              cases hPassed : result.success with
              | false =>
                  rfl
              | true =>
                  exact absurd ⟨u, hBegin, hWalk, hPassed⟩
                    (hNever addr result v)
            simpa [left, hWalk, keep, hFailed]
              using hWalks.of_ok hWalk
      rw [left_replay_of_begin_ok hBegin]
      exact trans_of (World.OnlyClock session.state)
        (hBegins.of_ok hBegin)
        (trans_of (World.OnlyClock session.state) hLast
          (finish_onlyClock session.state _))

/- Before the save begins no file differs but the clock. -/
theorem held?_of_passes
    {session : Session}
    {config : Configuration}
    {scenario : Text}
    {w v : World}
    {addr : Address}
    {result : RunResult}
    (hPasses :
      session.Passes config scenario w addr result v)
    {place : Place}
    (hPlace :
      w.files.locate (Clock.file session.state) ≠ .ok place) :
    v.files.held? place = w.files.held? place := by
  have hEntry := (onlyClock_of_passes hPasses).2 place hPlace
  simp only [FileTree.held?, hEntry]

/- A replay that passes has no failed result. -/
theorem success_of_passes
    {session : Session}
    {config : Configuration}
    {scenario : Text}
    {w v w' : World}
    {addr : Address}
    {result other : RunResult}
    (hPasses :
      session.Passes config scenario w addr result v)
    (hReplay :
      (session.replay config scenario).run w =
        .ok other w') :
    other = result ∧ other.success = true := by
  rcases hPasses with ⟨u, hBegin, hWalk, hSuccess⟩
  rw [run_replay_of_walk_ok hBegin hWalk] at hReplay
  rcases exists_of_andFinally_ok hReplay with ⟨v', hKeep, _⟩
  simp only [keep, hSuccess, if_true] at hKeep
  rcases exists_of_bind_ok hKeep with ⟨_, _, _, hPure⟩
  cases hPure
  exact ⟨rfl, hSuccess⟩

end Session

/-
  A replay that gives a failed result, or whose saving never
  begins, leaves everything but the clock as it was: no file
  or folder differs, none is new, and none is gone.
-/
theorem replay_untouched
    (session : Session)
    (config : Configuration)
    (scenario : Text)
    (w : World)
    (hEnd :
      (∃ result v,
        (session.replay config scenario).run w =
          .ok result v ∧
        result.success = false) ∨
      ∀ addr result v,
        ¬ session.Passes config scenario w addr result v)
    (place : Place)
    (hPlace :
      w.files.locate (Clock.file session.state) ≠
        .ok place) :
    ((session.replay config scenario).left w).files.entryAt?
        place =
      w.files.entryAt? place := by
  have hNever :
      ∀ addr result v,
        ¬ session.Passes config scenario w addr result v := by
    rcases hEnd with ⟨other, w', hReplay, hFailed⟩ | hNever
    · intro addr result v hPasses
      have hOther := Session.success_of_passes hPasses hReplay
      rw [hFailed] at hOther
      exact absurd hOther.2 Bool.false_ne_true
    · exact hNever
  exact (session.replay_onlyClock config scenario w hNever).2
    place hPlace

/- The files of a tab that was saved before. -/
def savedTab : FileTree where
  entries :=
    [(["state"], .folder),
      (["state", "now.txt"], .file (.text "7")),
      (["state", "browser"], .folder),
      (["state", "browser", "b"], .folder),
      (["state", "browser", "b", "cookie.json"],
        .file (.text "[]")),
      (["state", "browser", "b", "tab"], .folder),
      (["state", "browser", "b", "tab", "t"], .folder),
      (["state", "browser", "b", "tab", "t", "url.txt"],
        .file (.text "http://old/"))]

/- A session that acts on that tab. -/
def savedSession : Session :=
  ⟨.ofText "state", ⟨none, true⟩, none,
    .folder (.ofText "state"), some ⟨"b", "t"⟩⟩

/- A replay that stops at a missing step leaves the address alone. -/
theorem replay_untouched_of_brokenTour :
    (∃ result v,
      (savedSession.replay brokenTour "tour").run
          (.start savedTab .blank) =
        .ok result v ∧
      result.success = false) ∧
    ((savedSession.replay brokenTour "tour").left
        (.start savedTab .blank)).files.entryAt?
          ["state", "browser", "b", "tab", "t", "url.txt"] =
      some (.file (.text "http://old/")) := by
  have hBegin :
      (savedSession.begin brokenTour "tour").run
          (.start savedTab .blank) =
        .ok ⟨"b", "t"⟩ (Window.launched ⟨none, true⟩
          (.start savedTab .blank)) :=
    Session.run_begin_of_no_limit (by decide) rfl rfl rfl
  have hFailed :
      ∃ result v,
        (savedSession.replay brokenTour "tour").run
            (.start savedTab .blank) =
          .ok result v ∧
        result.success = false := by
    rw [Session.run_replay_of_walk_ok hBegin rfl]
    exact ⟨_, _, rfl, rfl⟩
  have hClock :
      savedTab.locate (Clock.file savedSession.state) =
        .ok ["state", "now.txt"] :=
    rfl
  refine ⟨hFailed, ?_⟩
  exact replay_untouched savedSession brokenTour "tour"
    (.start savedTab .blank) (Or.inl hFailed)
    ["state", "browser", "b", "tab", "t", "url.txt"]
    (by
      intro hPlace
      have hSame := hClock.symm.trans hPlace
      simp at hSame)

------------------------------------------------------------
-- Saving
------------------------------------------------------------

namespace Session

/-
  A save that fails either did not write the address, or wrote
  it and then no file, or wrote it and then not the cookies.
-/
theorem save_error
    {state : Path}
    {addr : Address}
    {v v' : World}
    {failure : Failure}
    (hSave :
      (save (.folder state) addr).run v = .error failure v') :
    (Folder.writeUrl state addr v.page.url).run v =
        .error failure v' ∨
      ∃ u,
        (Folder.writeUrl state addr v.page.url).run v =
          .ok () u ∧
        (v'.files = u.files ∨
          ∃ cookies u',
            Window.exportCookies.run u = .ok cookies u' ∧
            u'.files = u.files ∧
            (Folder.writeCookies state addr cookies).run u' =
              .error failure v') := by
  unfold save Store.writeUrl at hSave
  simp only [EStateM.run_bind, EStateM.run_get] at hSave
  cases hUrl :
      (Folder.writeUrl state addr v.page.url).run v with
  | error other u =>
      rw [hUrl] at hSave
      cases hSave
      exact Or.inl rfl
  | ok _ u =>
      refine Or.inr ⟨u, rfl, ?_⟩
      rw [hUrl] at hSave
      have hExports :
          Window.exportCookies.StaysIn World.SameFiles :=
        Window.exportCookies_staysIn sameFiles_frame trivial
      cases hExport : Window.exportCookies.run u with
      | error other u' =>
          simp only [hExport] at hSave
          cases hSave
          exact Or.inl (hExports.of_error hExport)
      | ok cookies u' =>
          refine Or.inr
            ⟨cookies, u', rfl, hExports.of_ok hExport, ?_⟩
          simp only [hExport, Store.writeCookies] at hSave
          cases hCookies :
              (Folder.writeCookies state addr cookies).run
                u' with
          | error other u'' =>
              simp only [hCookies] at hSave
              cases hSave
              rfl
          | ok _ u'' =>
              simp [hCookies] at hSave

/- A save that fails changes no file but the two of the tab. -/
theorem held?_of_save_error
    {state : Path}
    {addr : Address}
    {v v' : World}
    {failure : Failure}
    (hSave :
      (save (.folder state) addr).run v = .error failure v')
    {place : Place}
    (hUrlPlace :
      v'.files.locate (Folder.url state addr) ≠ .ok place)
    (hCookiesPlace :
      v'.files.locate (Folder.cookies state addr) ≠
        .ok place) :
    v'.files.held? place = v.files.held? place := by
  rcases save_error hSave with hUrl | ⟨u, hUrl, hRest⟩
  · rw [← left_of_error hUrl] at hUrlPlace ⊢
    exact held?_left_keepText hUrlPlace
  · have hLast :
        FileTree.KeepsFolders u.files v'.files ∧
          v'.files.held? place = u.files.held? place := by
      rcases hRest with hSame | ⟨cookies, u', _, hSame, hCookies⟩
      · rw [hSame]
        exact ⟨fun _ => id, rfl⟩
      · rw [← left_of_error hCookies] at hCookiesPlace ⊢
        rw [← hSame]
        exact ⟨keepsFolders_left_keepText _ _ u',
          held?_left_keepText hCookiesPlace⟩
    have hBefore :
        u.files.locate (Folder.url state addr) ≠ .ok place :=
      fun hLocate => hUrlPlace
        (FileTree.locate_of_keepsFolders hLast.1 hLocate)
    rw [hLast.2]
    rw [← left_of_ok hUrl] at hBefore ⊢
    exact held?_left_keepText hBefore

/-
  A save that could not write the address leaves the cookies
  alone, and the address as it was or torn.
-/
theorem address_of_save_error
    {state : Path}
    {addr : Address}
    {v v' : World}
    {failure : Failure}
    (hUrl :
      (Folder.writeUrl state addr v.page.url).run v =
        .error failure v') :
    (∀ place,
      v'.files.locate (Folder.cookies state addr) = .ok place →
        v'.files.held? place = v.files.held? place) ∧
    ((∀ place, v'.files.held? place = v.files.held? place) ∨
      v'.files.TornText (Folder.url state addr) v.page.url) := by
  refine ⟨fun place hLocate => ?_, torn_of_keepText hUrl⟩
  have hPlace :
      v'.files.locate (Folder.url state addr) ≠ .ok place :=
    FileTree.locate_child_ne (by decide) (by decide) (by decide)
      hLocate
  rw [← left_of_error hUrl] at hPlace ⊢
  exact held?_left_keepText hPlace

/-
  A save that fails after the address was written leaves the
  new address, and the cookies as they were or torn.
-/
theorem cookies_of_save_error
    {state : Path}
    {addr : Address}
    {v v' u : World}
    {failure : Failure}
    (hSave :
      (save (.folder state) addr).run v = .error failure v')
    (hUrl :
      (Folder.writeUrl state addr v.page.url).run v =
        .ok () u) :
    (v'.files.standing? (Folder.url state addr) = some .pipe ∨
      ∃ s : String,
        v.page.url = s ∧
        v'.files.standing? (Folder.url state addr) =
          some (.file (.text s))) ∧
    ((∀ place,
      v'.files.locate (Folder.cookies state addr) = .ok place →
        v'.files.held? place = v.files.held? place) ∨
      ∃ cookies u',
        Window.exportCookies.run u = .ok cookies u' ∧
        v'.files.Torn (Folder.cookies state addr)
          (.text (Jar.writeJson cookies))) := by
  rcases save_error hSave with hFailed | ⟨_, hWritten, hRest⟩
  · rw [hUrl] at hFailed
    cases hFailed
  rw [hUrl] at hWritten
  cases hWritten
  have hStays
      {entry : Entry}
      (hStanding :
        u.files.standing? (Folder.url state addr) = some entry) :
      v'.files.standing? (Folder.url state addr) = some entry := by
    rcases hRest with hSame | ⟨cookies, u', _, hSame, hCookies⟩
    · rwa [hSame]
    · rw [← hSame] at hStanding
      rw [← left_of_error hCookies]
      exact standing?_left_keepText _
        (fun _ _ => FileTree.locate_child_ne (by decide)
          (by decide) (by decide))
        hStanding
  have hBefore
      {tree : FileTree}
      {place : Place}
      (hLocate :
        tree.locate (Folder.cookies state addr) = .ok place) :
      u.files.held? place = v.files.held? place := by
    have hPlace :
        u.files.locate (Folder.url state addr) ≠ .ok place :=
      FileTree.locate_child_ne (by decide) (by decide)
        (by decide) hLocate
    rw [← left_of_ok hUrl] at hPlace ⊢
    exact held?_left_keepText hPlace
  constructor
  · by_cases hPipe :
        u.files.standing? (Folder.url state addr) = some .pipe
    · exact Or.inl (hStays hPipe)
    · rcases standing?_of_keepText hPipe hUrl with
        ⟨hText, hStanding⟩
      exact Or.inr ⟨_, hText, hStays hStanding⟩
  · rcases hRest with hSame | ⟨cookies, u', hExport, hSame, hCookies⟩
    · exact Or.inl fun place hLocate => by
        rw [hSame]
        exact hBefore hLocate
    · rcases torn_of_keepText hCookies with hHeld | hTorn
      · exact Or.inl fun place hLocate => by
          rw [hHeld, hSame]
          exact hBefore hLocate
      · rw [FileTree.tornText_ofString] at hTorn
        exact Or.inr ⟨cookies, u', hExport, hTorn⟩

/-
  A save that completes wrote the address, and then the
  cookies that were reported.
-/
theorem save_ok
    {state : Path}
    {addr : Address}
    {v v' : World}
    (hSave : (save (.folder state) addr).run v = .ok () v') :
    ∃ cookies u u' u'',
      (Folder.writeUrl state addr v.page.url).run v =
          .ok () u ∧
        Window.exportCookies.run u = .ok cookies u' ∧
        u'.files = u.files ∧
        (Folder.writeCookies state addr cookies).run u' =
          .ok () u'' ∧
        v'.files = u''.files := by
  unfold save Store.writeUrl Store.writeCookies at hSave
  rcases exists_of_bind_ok hSave with ⟨_, _, hGet, hSave⟩
  cases hGet
  rcases exists_of_bind_ok hSave with ⟨_, u, hUrl, hSave⟩
  rcases exists_of_bind_ok hSave with
    ⟨cookies, u', hExport, hSave⟩
  rcases exists_of_bind_ok hSave with
    ⟨_, u'', hCookies, hNote⟩
  cases hNote
  have hExports :
      Window.exportCookies.StaysIn World.SameFiles :=
    Window.exportCookies_staysIn sameFiles_frame trivial
  exact ⟨cookies, u, u', u'', hUrl, hExport,
    hExports.of_ok hExport, hCookies, rfl⟩

/- A save that fails fails the replay, after the closing. -/
theorem replay_of_save_error
    {session : Session}
    {config : Configuration}
    {scenario : Text}
    {w v v' : World}
    {addr : Address}
    {result : RunResult}
    (hPasses :
      session.Passes config scenario w addr result v)
    {failure : Failure}
    (hSave :
      (save session.store addr).run v = .error failure v') :
    (∃ other w',
      (session.replay config scenario).run w =
        .error other w') ∧
    ((session.replay config scenario).left w).files =
      v'.files := by
  rcases hPasses with ⟨u, hBegin, hWalk, hSuccess⟩
  have hKeep :
      (session.keep addr result).run v =
        .error failure v' := by
    simp [keep, hSuccess, hSave]
  have hReplay := run_replay_of_walk_ok hBegin hWalk
  rw [run_andFinally, hKeep] at hReplay
  have hCloses : Window.finish.StaysIn World.SameFiles :=
    Window.finish_staysIn sameFiles_frame trivial
  cases hClose : Window.finish.run v' with
  | ok _ w' =>
      simp only [hClose] at hReplay
      refine ⟨⟨failure, w', hReplay⟩, ?_⟩
      rw [left_of_error hReplay]
      exact hCloses.of_ok hClose
  | error other w' =>
      simp only [hClose] at hReplay
      refine ⟨⟨other, w', hReplay⟩, ?_⟩
      rw [left_of_error hReplay]
      exact hCloses.of_error hClose

/- A replay that gives a passed result has saved the tab. -/
theorem saved_of_success
    {session : Session}
    {config : Configuration}
    {scenario : Text}
    {w w' : World}
    {result : RunResult}
    (hReplay :
      (session.replay config scenario).run w = .ok result w')
    (hSuccess : result.success = true) :
    ∃ addr v v',
      session.Passes config scenario w addr result v ∧
        (save session.store addr).run v = .ok () v' ∧
        Window.finish.run v' = .ok () w' := by
  rw [replay_eq] at hReplay
  rcases exists_of_bind_ok hReplay with
    ⟨addr, u, hBegin, hReplay⟩
  rcases exists_of_andFinally_ok hReplay with
    ⟨v', hActs, hClose⟩
  rcases exists_of_bind_ok hActs with ⟨other, v, hWalk, hKeep⟩
  cases hPassed : other.success with
  | false =>
      simp only [keep, hPassed] at hKeep
      cases hKeep
      rw [hPassed] at hSuccess
      cases hSuccess
  | true =>
      simp only [keep, hPassed, if_true] at hKeep
      rcases exists_of_bind_ok hKeep with
        ⟨_, _, hSave, hPure⟩
      cases hPure
      exact ⟨addr, v, v', ⟨u, hBegin, hWalk, hPassed⟩, hSave,
        hClose⟩

/- A replay that passes, saves and closes gives its result. -/
theorem replay_of_save_ok
    {session : Session}
    {config : Configuration}
    {scenario : Text}
    {w v v' w' : World}
    {addr : Address}
    {result : RunResult}
    (hPasses :
      session.Passes config scenario w addr result v)
    (hSave : (save session.store addr).run v = .ok () v')
    (hClose : Window.finish.run v' = .ok () w') :
    (session.replay config scenario).run w =
      .ok result w' := by
  rcases hPasses with ⟨u, hBegin, hWalk, hSuccess⟩
  have hKeep :
      (session.keep addr result).run v = .ok result v' := by
    simp [keep, hSuccess, hSave]
  rw [run_replay_of_walk_ok hBegin hWalk, run_andFinally, hKeep]
  dsimp only
  rw [hClose]

end Session

/-
  A replay whose steps all passed and whose save does not
  complete fails, and every file but the clock and the two of
  the tab holds what it held before.

  If the address could not be written, the cookies are as they
  were, and so is the address, unless the disk had no room for
  it: then its file holds a beginning of the new one.  If the
  address was written, it is the new one, unless a pipe stands
  in its place, and the cookies are as they were, unless the
  disk had no room for the new ones.
-/
theorem replay_of_incomplete_save
    (session : Session)
    (hStore : session.store = .folder session.state)
    (config : Configuration)
    (scenario : Text)
    (w : World)
    {addr : Address}
    {result : RunResult}
    {v v' : World}
    (hPasses :
      session.Passes config scenario w addr result v)
    {failure : Failure}
    (hSave :
      (Session.save session.store addr).run v =
        .error failure v') :
    let after := ((session.replay config scenario).left w).files
    let url := Folder.url session.state addr
    let cookies := Folder.cookies session.state addr
    (∃ other w',
      (session.replay config scenario).run w =
        .error other w') ∧
    (∀ place,
      w.files.locate (Clock.file session.state) ≠
          .ok place →
      after.locate url ≠ .ok place →
      after.locate cookies ≠ .ok place →
        after.held? place = w.files.held? place) ∧
    (∀ other u,
      (Folder.writeUrl session.state addr v.page.url).run v =
          .error other u →
        (∀ place,
          after.locate cookies = .ok place →
            after.held? place = w.files.held? place) ∧
        ((∀ place,
          after.locate url = .ok place →
            after.held? place = w.files.held? place) ∨
          after.TornText url v.page.url)) ∧
    (∀ u,
      (Folder.writeUrl session.state addr v.page.url).run v =
          .ok () u →
        (after.standing? url = some .pipe ∨
          ∃ s : String,
            v.page.url = s ∧
            after.standing? url = some (.file (.text s))) ∧
        ((∀ place,
          after.locate cookies = .ok place →
            after.held? place = w.files.held? place) ∨
          ∃ reported u',
            Window.exportCookies.run u = .ok reported u' ∧
            after.Torn cookies
              (.text (Jar.writeJson reported)))) := by
  have hEnd := Session.replay_of_save_error hPasses hSave
  rw [hStore] at hSave
  -- The clock is a file of the state, in none of their places.
  have hUrlPlace
      {tree : FileTree}
      {place : Place}
      (hLocate :
        tree.locate (Folder.url session.state addr) =
          .ok place) :
      v.files.held? place = w.files.held? place :=
    Session.held?_of_passes hPasses
      (FileTree.locate_child_ne (by decide) (by decide)
        (by decide) hLocate)
  have hCookiesPlace
      {tree : FileTree}
      {place : Place}
      (hLocate :
        tree.locate (Folder.cookies session.state addr) =
          .ok place) :
      v.files.held? place = w.files.held? place :=
    Session.held?_of_passes hPasses
      (FileTree.locate_child_ne (by decide) (by decide)
        (by decide) hLocate)
  dsimp only
  rw [hEnd.2]
  refine ⟨hEnd.1, ?_, ?_, ?_⟩
  · intro place hClock hUrl hCookies
    rw [Session.held?_of_save_error hSave hUrl hCookies]
    exact Session.held?_of_passes hPasses hClock
  · intro other u hFailed
    rcases Session.save_error hSave with hUrl | ⟨_, hUrl, _⟩
    · rcases Session.address_of_save_error hUrl with
        ⟨hCookies, hAddress⟩
      refine ⟨fun place hLocate => ?_,
        hAddress.imp_left fun hHeld place hLocate => ?_⟩
      · rw [hCookies place hLocate, hCookiesPlace hLocate]
      · rw [hHeld, hUrlPlace hLocate]
    · rw [hUrl] at hFailed
      cases hFailed
  · intro u hWritten
    rcases Session.cookies_of_save_error hSave hWritten with
      ⟨hUrl, hCookies⟩
    refine ⟨hUrl, hCookies.imp_left fun hHeld place hLocate => ?_⟩
    rw [hHeld place hLocate, hCookiesPlace hLocate]

/- A scenario of one step that passes. -/
def visitHome : Configuration :=
  ⟨[("home", .visit "http://new/")],
    [("tour", ⟨["home"], none⟩)]⟩

/- A world whose browser cannot tell its cookies. -/
def secretive : World :=
  { World.start savedTab .blank with
    browser :=
      { Browser.blank with
        breakdowns := [(.cookies, .browser "gone")] } }

/- The save writes the address, and then the browser fails. -/
theorem save_secretive :
    ∃ result v failure v' u u',
      savedSession.Passes visitHome "tour" secretive ⟨"b", "t"⟩
        result v ∧
      (Session.save savedSession.store ⟨"b", "t"⟩).run v =
        .error failure v' ∧
      (Folder.writeUrl savedSession.state ⟨"b", "t"⟩
          v.page.url).run v =
        .ok () u ∧
      Window.exportCookies.run u = .error failure u' ∧
      v'.files.standing?
          (Folder.url savedSession.state ⟨"b", "t"⟩) =
        some (.file (.text "http://new/")) ∧
      v'.files.standing?
          (Folder.cookies savedSession.state ⟨"b", "t"⟩) =
        some (.file (.text "[]")) ∧
      v'.files.locate
          (Folder.cookies savedSession.state ⟨"b", "t"⟩) =
        .ok ["state", "browser", "b", "cookie.json"] := by
  have hBegin :
      (savedSession.begin visitHome "tour").run secretive =
        .ok ⟨"b", "t"⟩ (Window.launched ⟨none, true⟩ secretive) :=
    Session.run_begin_of_no_limit (by decide) rfl rfl rfl
  exact ⟨_, _, _, _, _, _, ⟨_, hBegin, rfl, rfl⟩, rfl, rfl, rfl,
    rfl, rfl, rfl⟩

/- The cookies are as before if the browser cannot tell them. -/
theorem replay_of_incomplete_save_secretive :
    savedSession.store = .folder savedSession.state ∧
    (∃ addr result v failure v',
      savedSession.Passes visitHome "tour" secretive addr
        result v ∧
      (Session.save savedSession.store addr).run v =
        .error failure v') ∧
    ((savedSession.replay visitHome "tour").left
        secretive).files.held?
          ["state", "browser", "b", "cookie.json"] =
      some (.text "[]") := by
  rcases save_secretive with
    ⟨result, v, failure, v', u, u', hPasses, hSave, hUrl, hExport,
      _, _, hPlace⟩
  refine ⟨rfl, ⟨_, result, v, failure, v', hPasses, hSave⟩, ?_⟩
  rw [← (Session.replay_of_save_error hPasses hSave).2] at hPlace
  rcases (replay_of_incomplete_save savedSession rfl visitHome
      "tour" secretive hPasses hSave).2.2.2 u hUrl with
    ⟨_, hHeld | ⟨reported, _, hReported, _⟩⟩
  · exact hHeld _ hPlace
  · rw [hExport] at hReported
    cases hReported

/-
  Saving is not all or nothing: where the browser cannot tell
  its cookies, the new address stands beside the old ones.
-/
theorem save_not_all_or_nothing :
    ∃ addr result v failure v',
      savedSession.Passes visitHome "tour" secretive addr
        result v ∧
      (Session.save savedSession.store addr).run v =
        .error failure v' ∧
      secretive.files.standing?
          (Folder.url savedSession.state addr) =
        some (.file (.text "http://old/")) ∧
      ((savedSession.replay visitHome "tour").left
          secretive).files.standing?
            (Folder.url savedSession.state addr) =
        some (.file (.text "http://new/")) ∧
      ((savedSession.replay visitHome "tour").left
          secretive).files.standing?
            (Folder.cookies savedSession.state addr) =
        some (.file (.text "[]")) := by
  rcases save_secretive with
    ⟨result, v, failure, v', _, _, hPasses, hSave, _, _, hUrl,
      hCookies, _⟩
  refine ⟨_, result, v, failure, v', hPasses, hSave, rfl, ?_⟩
  rw [(Session.replay_of_save_error hPasses hSave).2]
  exact ⟨hUrl, hCookies⟩

end Replay
