import Mathlib.Data.List.Chain
import Replay.Proofs.Session

/-
  This file proves that the cookies of a browser come back in
  the next replay, over whole histories of replays.

  Key definitions include:
    * `Invocation`
    * `Invocation.Succeeds`
    * `Invocation.Restores`
    * `Invocation.Orderly`
    * `World.restored`

  Main results:
    * `Invocation.standing?_after`
    * `Invocation.restored_after`
    * `cookies_of_history`
-/

------------------------------------------------------------
-- Invocations
------------------------------------------------------------

namespace Replay

open Number Play

/- One replay: how, of what, and in which world it begins. -/
structure Invocation where
  options : LaunchOptions
  timeout : Option Binary64
  addr : Option Address
  config : Configuration
  scenario : Text
  start : World

namespace Invocation

/- The session of an invocation on a folder. -/
def session
    (state : Path)
    (i : Invocation) : Session :=
  ⟨state, i.options, i.timeout, .folder state, i.addr⟩

/- The world that an invocation leaves. -/
def after
    (state : Path)
    (i : Invocation) : World :=
  ((i.session state).replay i.config i.scenario).left i.start

/- The invocation starts a browser for a tab. -/
def ActsOn
    (state : Path)
    (i : Invocation)
    (addr : Address) : Prop :=
  ∃ u,
    ((i.session state).begin i.config i.scenario).run i.start =
      .ok addr u

/- The invocation gives a passed result. -/
def Succeeds
    (state : Path)
    (i : Invocation) : Prop :=
  ∃ result w,
    ((i.session state).replay i.config i.scenario).run i.start =
        .ok result w ∧
      result.success = true

/- The invocation gets as far as restoring cookies. -/
def Restores
    (state : Path)
    (i : Invocation)
    (addr : Address) : Prop :=
  ∃ u kept u',
    ((i.session state).begin i.config i.scenario).run i.start =
        .ok addr u ∧
      (Folder.readCookies state addr).run u = .ok kept u'

/-
  The browser has a plain name, no save fails, the browser
  closes, and it reports cookies with a plain expiry, in texts
  where no two halves in a row make a surrogate pair.
-/
structure Orderly
    (state : Path)
    (i : Invocation) : Prop where
  named : ∀ addr,
    i.ActsOn state addr → Path.IsName addr.browser
  saves : ∀ addr result v,
    (i.session state).Passes i.config i.scenario i.start addr
        result v →
      ∃ v',
        (Session.save (.folder state) addr).run v = .ok () v'
  closes : i.start.browser.breakdowns.lookup .close = none
  reports : ∀ d ∈ i.start.browser.cookies,
    Cookie.HasPlainExpiry d ∧ d.IsUnpaired

/-
  Between two invocations nothing else writes the cookies of
  a browser.
-/
def Untouched
    (state : Path)
    (i j : Invocation) : Prop :=
  ∀ addr : Address,
    Path.IsName addr.browser →
      j.start.files.standing? (Folder.cookies state addr) =
        (i.after state).files.standing?
          (Folder.cookies state addr)

end Invocation

/- The records that a call gives to the browser. -/
def Call.records? :
    Call → Option (List (List (String × Json.Value)))
  | .addCookies cookies => some (cookies.map Cookie.record)
  | _ => none

/- All records that were given to the browser, call by call. -/
def World.restored
    (w : World) : List (List (List (String × Json.Value))) :=
  w.trace.filterMap Call.records?

------------------------------------------------------------
-- What Gives No Cookies
------------------------------------------------------------

/- The same browser, and no cookies given to it. -/
def World.Ungiven (w v : World) : Prop :=
  v.browser = w.browser ∧ v.restored = w.restored

instance : IsPreorder World World.Ungiven where
  refl _ := ⟨rfl, rfl⟩
  trans _ _ _ hFirst hSecond :=
    ⟨hSecond.1.trans hFirst.1, hSecond.2.trans hFirst.2⟩

/- Only the call that adds cookies gives any. -/
theorem ungiven_frame (state : Path) :
    ActionFrame state (fun call => call.records? = none)
      World.Ungiven where
  note _ _ := ⟨rfl, rfl⟩
  record w call hCall := by
    refine ⟨rfl, ?_⟩
    simp [World.restored, hCall]
  window _ _ _ _ _ := ⟨rfl, rfl⟩
  clock _ _ := ⟨rfl, rfl⟩
  ofPage call hCall := by
    cases call <;> first | rfl | cases hCall

/- The same browser. -/
def World.SameBrowser (w v : World) : Prop :=
  v.browser = w.browser

instance : IsPreorder World World.SameBrowser where
  refl _ := rfl
  trans _ _ _ hFirst hSecond := hSecond.trans hFirst

/- Nothing exchanges the browser. -/
theorem sameBrowser_frame (state : Path) :
    ActionFrame state (fun _ => True) World.SameBrowser where
  note _ _ := rfl
  record _ _ _ := rfl
  window _ _ _ _ _ := rfl
  clock _ _ := rfl
  ofPage _ _ := trivial

namespace Session

variable {config : Configuration}
variable {scenario : Text}

theorem begin_ungiven
    (session : Session)
    (config : Configuration)
    (scenario : Text) :
    (session.begin config scenario).StaysIn World.Ungiven :=
  begin_staysIn (ungiven_frame session.state) rfl
    (fun _ _ => rfl) (fun _ => rfl) config scenario

/- From the new tab on no cookies are added. -/
theorem onward_ungiven
    (session : Session)
    (config : Configuration)
    (scenario : Text)
    (addr : Address) :
    (session.onward config scenario addr).StaysIn
      World.Ungiven :=
  onward_staysIn (ungiven_frame session.state) (fun _ => rfl) rfl
    config scenario addr

/- Neither are they when the tab is saved. -/
theorem keep_ungiven
    {session : Session}
    {state : Path}
    (hStore : session.store = .folder state)
    (addr : Address)
    (result : RunResult) :
    (session.keep addr result).StaysIn World.Ungiven :=
  keep_staysIn (ungiven_frame state).toFrame
    (fun _ _ => ⟨rfl, rfl⟩) rfl hStore addr result

theorem finish_ungiven :
    Window.finish.StaysIn World.Ungiven :=
  Window.finish_staysIn (ungiven_frame ⟨"", []⟩).toFrame rfl

/- The saving begins with the browser of the start. -/
theorem browser_of_passes
    {session : Session}
    {w v : World}
    {addr : Address}
    {result : RunResult}
    (hPasses :
      session.Passes config scenario w addr result v) :
    v.browser = w.browser := by
  rcases hPasses with ⟨u, hBegin, hWalk, _⟩
  have hFirst : u.browser = w.browser :=
    (begin_staysIn (sameBrowser_frame session.state) trivial
      (fun _ _ => trivial) (fun _ => trivial) config
      scenario).of_ok hBegin
  have hSecond : v.browser = u.browser :=
    (walk_staysIn (sameBrowser_frame session.state)
      (fun _ => trivial) (fun _ => trivial) (fun _ => trivial)
      trivial config scenario addr).of_ok hWalk
  exact hSecond.trans hFirst

/- A save does not change the browser. -/
theorem browser_of_save
    {state : Path}
    {addr : Address}
    {v v' : World}
    (hSave : (save (.folder state) addr).run v = .ok () v') :
    v'.browser = v.browser :=
  (save_staysIn (sameBrowser_frame state).toFrame
    (fun _ _ => rfl) trivial state addr).of_ok hSave

------------------------------------------------------------
-- Kept Cookies
------------------------------------------------------------

/- Moving the clock leaves the cookies of a browser alone. -/
theorem standing?_cookies_of_onlyClock
    {state : Path}
    {w v : World}
    (hClock : World.OnlyClock state w v)
    {addr : Address}
    {entry : Entry}
    (hStanding :
      w.files.standing? (Folder.cookies state addr) =
        some entry) :
    v.files.standing? (Folder.cookies state addr) =
      some entry :=
  hClock.standing?_of_ne
    (fun _ => FileTree.locate_child_ne (by decide) (by decide)
      (by decide))
    hStanding

/- A save leaves the cookies of other browsers alone. -/
theorem standing?_cookies_of_save
    {state : Path}
    {addr other : Address}
    (hName : Path.IsName addr.browser)
    (hOther : Path.IsName other.browser)
    (hBrowsers : other.browser ≠ addr.browser)
    {v v' : World}
    (hSave : (save (.folder state) other).run v = .ok () v')
    {entry : Entry}
    (hStanding :
      v.files.standing? (Folder.cookies state addr) =
        some entry) :
    v'.files.standing? (Folder.cookies state addr) =
      some entry := by
  rcases save_ok hSave with
    ⟨cookies, u, u', u'', hUrl, _, hSame, hCookies, hFiles⟩
  rw [Folder.writeUrl_eq] at hUrl
  rw [Folder.writeCookies_eq] at hCookies
  have hAfterUrl :
      u.files.standing? (Folder.cookies state addr) =
        some entry :=
    standing?_of_keepText_ne hUrl
      (fun _ _ => FileTree.locate_child_ne (by decide)
        (by decide) (by decide))
      hStanding
  rw [hFiles]
  rw [← hSame] at hAfterUrl
  exact standing?_of_keepText_ne hCookies
    (fun _ _ => FileTree.locate_grandchild_ne hOther hName
      (by decide) hBrowsers)
    hAfterUrl

/-
  After a save the reported cookies are kept, unless a pipe
  stands in their place.
-/
theorem kept_of_save
    {state : Path}
    {addr : Address}
    {v v' : World}
    (hSave : (save (.folder state) addr).run v = .ok () v') :
    ∃ cookies,
      Jar.AreRead v.browser.cookies cookies ∧
        (v'.files.standing? (Folder.cookies state addr) =
            some (.file (.text (Jar.writeJson cookies))) ∨
          v'.files.standing? (Folder.cookies state addr) =
            some .pipe) := by
  rcases save_ok hSave with
    ⟨cookies, u, u', u'', hUrl, hExport, _, hCookies, hFiles⟩
  rw [Folder.writeUrl_eq] at hUrl
  rw [Folder.writeCookies_eq] at hCookies
  have hBrowser : u.browser = v.browser :=
    (keepText_staysIn (R := World.SameBrowser) (fun _ _ => rfl)
      _ _).of_ok hUrl
  refine ⟨cookies, ?_, ?_⟩
  · rw [← hBrowser]
    exact Window.areRead_of_exportCookies hExport
  · rw [hFiles]
    by_cases hPipe :
        u''.files.standing? (Folder.cookies state addr) =
          some .pipe
    · exact Or.inr hPipe
    · rw [← written_ofString (Jar.writeJson cookies)]
      exact Or.inl (standing?_of_keepText hPipe hCookies).2

end Session

------------------------------------------------------------
-- One Invocation
------------------------------------------------------------

namespace Invocation

open Session

variable {state : Path}
variable {i : Invocation}

/- An orderly invocation succeeds if its steps pass. -/
theorem Orderly.saved_of_passes
    (hOrderly : i.Orderly state)
    {addr : Address}
    {result : RunResult}
    {v : World}
    (hPasses :
      (i.session state).Passes i.config i.scenario i.start addr
        result v) :
    ∃ v',
      (save (.folder state) addr).run v = .ok () v' ∧
        i.Succeeds state ∧
        (i.after state).files = v'.files := by
  rcases hOrderly.saves addr result v hPasses with ⟨v', hSave⟩
  have hBrowser : v'.browser = i.start.browser :=
    (browser_of_save hSave).trans (browser_of_passes hPasses)
  have hClose := Window.run_finish v'
  rw [hBrowser, hOrderly.closes] at hClose
  have hReplay := replay_of_save_ok hPasses hSave hClose
  refine ⟨v', hSave, ⟨result, _, hReplay, ?_⟩, ?_⟩
  · exact (success_of_passes hPasses hReplay).2
  · rw [after, left_of_ok hReplay]

/-
  An invocation that does not succeed on a browser leaves the
  cookies of that browser alone.
-/
theorem standing?_after
    (hOrderly : i.Orderly state)
    {addr : Address}
    (hName : Path.IsName addr.browser)
    (hFails :
      ∀ other,
        i.ActsOn state other →
          other.browser = addr.browser →
            ¬ i.Succeeds state)
    {entry : Entry}
    (hStanding :
      i.start.files.standing? (Folder.cookies state addr) =
        some entry) :
    (i.after state).files.standing?
        (Folder.cookies state addr) =
      some entry := by
  by_cases hPasses :
      ∃ other result v,
        (i.session state).Passes i.config i.scenario i.start
          other result v
  · rcases hPasses with ⟨other, result, v, hPasses⟩
    rcases hOrderly.saved_of_passes hPasses with
      ⟨v', hSave, hSucceeds, hFiles⟩
    have hActs : i.ActsOn state other := by
      rcases hPasses with ⟨u, hBegin, _⟩
      exact ⟨u, hBegin⟩
    rw [hFiles]
    exact standing?_cookies_of_save hName
      (hOrderly.named other hActs)
      (fun hSame => hFails other hActs hSame hSucceeds) hSave
      (standing?_cookies_of_onlyClock
        (onlyClock_of_passes hPasses) hStanding)
  · have hClock :=
      (i.session state).replay_onlyClock i.config i.scenario
        i.start fun other result v hOther =>
          hPasses ⟨other, result, v, hOther⟩
    exact standing?_cookies_of_onlyClock hClock hStanding

/- An invocation that succeeds keeps the reported cookies. -/
theorem kept_after
    {addr : Address}
    (hActs : i.ActsOn state addr)
    (hSucceeds : i.Succeeds state) :
    ∃ cookies,
      Jar.AreRead i.start.browser.cookies cookies ∧
        ((i.after state).files.standing?
              (Folder.cookies state addr) =
            some (.file (.text (Jar.writeJson cookies))) ∨
          (i.after state).files.standing?
              (Folder.cookies state addr) =
            some .pipe) := by
  rcases hActs with ⟨u, hBegin⟩
  rcases hSucceeds with ⟨result, w, hReplay, hSuccess⟩
  rcases saved_of_success hReplay hSuccess with
    ⟨other, v, v', hPasses, hSave, hClose⟩
  have hSame : other = addr := by
    rcases hPasses with ⟨u', hOther, _⟩
    rw [hBegin] at hOther
    cases hOther
    rfl
  subst hSame
  have hFiles : (i.after state).files = v'.files := by
    rw [after, left_of_ok hReplay]
    exact (Window.finish_staysIn sameFiles_frame
      trivial).of_ok hClose
  rw [hFiles, ← browser_of_passes hPasses]
  exact kept_of_save hSave

/- A call gives its own records, and no others. -/
theorem restored_of_call
    (method : BrowserMethod)
    (call : Call)
    (w : World) :
    ((Window.call method call).left w).restored =
      w.restored ++ call.records?.toList := by
  have hRest :
      World.Ungiven ((record call).left w)
        ((Window.call method call).left w) :=
    StaysIn.left_bind
      (fun _ => StaysIn.get.bind fun _ => breakDown_staysIn _) w
  rw [hRest.2, left_of_ok (run_record call w)]
  cases hRecords : call.records? <;>
    simp [World.restored, hRecords]

/- Cookies are restored in one call, none in no call. -/
theorem restored_of_restoreCookies
    (cookies : List Cookie)
    (w : World) :
    ((Window.restoreCookies (some cookies)).left w).restored =
      w.restored ++
        (if cookies = [] then []
          else [cookies.map Cookie.record]) := by
  cases cookies with
  | nil =>
      simp [Window.restoreCookies, left]
  | cons c rest =>
      have hNoted (log : List Notice) :
          World.restored { w with log := log } = w.restored :=
        rfl
      have hLeft :
          ((Window.restoreCookies
              (some (c :: rest))).left w).restored =
            w.restored ++
              (Call.addCookies (c :: rest)).records?.toList := by
        unfold Window.restoreCookies
        rw [left, EStateM.run_bind, run_note]
        dsimp only
        rw [← left, restored_of_call, hNoted]
      rw [hLeft, if_neg (List.cons_ne_nil c rest)]
      rfl

/-
  An invocation that finds kept cookies restores them, and
  gives no others to the browser.
-/
theorem restored_after
    {addr : Address}
    (hActs : i.ActsOn state addr)
    {cookies : List Cookie}
    (hUnpaired : ∀ c ∈ cookies, c.IsUnpaired)
    (hLasting : ∀ c ∈ cookies, c.IsLasting)
    (hStanding :
      i.start.files.standing? (Folder.cookies state addr) =
        some (.file (.text (Jar.writeJson cookies)))) :
    i.Restores state addr ∧
      (i.after state).restored =
        i.start.restored ++
          (if cookies = [] then []
            else [cookies.map Cookie.record]) := by
  rcases hActs with ⟨u, hBegin⟩
  have hFound :
      u.files.standing? (Folder.cookies state addr) =
        some (.file (.text (Jar.writeJson cookies))) :=
    standing?_cookies_of_onlyClock
      ((begin_onlyClock (i.session state) i.config
        i.scenario).of_ok hBegin)
      hStanding
  have hRead := Folder.run_readCookies hUnpaired hLasting hFound
  refine ⟨⟨u, _, u, hBegin, hRead⟩, ?_⟩
  have hWalk :
      ((i.session state).walk i.config i.scenario addr).left u =
        (Window.restoreCookies (some cookies) >>= fun _ =>
          (i.session state).onward i.config i.scenario
            addr).left u := by
    have hRun :
        ((i.session state).store.readCookies addr).run u =
          .ok (some cookies) u :=
      hRead
    rw [walk_eq, left, left, EStateM.run_bind, hRun]
  have hOnward :
      World.Ungiven
        ((Window.restoreCookies (some cookies)).left u)
        (((i.session state).walk i.config i.scenario
          addr).left u) := by
    rw [hWalk]
    exact StaysIn.left_bind
      (fun _ => (i.session state).onward_ungiven i.config
        i.scenario addr) u
  have hKeep :
      World.Ungiven
        (((i.session state).walk i.config i.scenario
          addr).left u)
        (((i.session state).walk i.config i.scenario addr >>=
          (i.session state).keep addr).left u) :=
    StaysIn.left_bind (fun _ => keep_ungiven rfl addr _) u
  have hBefore : u.restored = i.start.restored :=
    (((i.session state).begin_ungiven i.config
      i.scenario).of_ok hBegin).2
  rw [after, left_replay_of_begin_ok hBegin,
    (finish_ungiven _).2, hKeep.2, hOnward.2,
    restored_of_restoreCookies, hBefore]

/- Nothing is restored where a pipe took the cookies. -/
theorem not_restores_of_pipe
    {addr : Address}
    (hStanding :
      i.start.files.standing? (Folder.cookies state addr) =
        some .pipe) :
    ¬ i.Restores state addr := by
  rintro ⟨u, kept, u', hBegin, hRead⟩
  have hPipe :
      u.files.standing? (Folder.cookies state addr) =
        some .pipe :=
    standing?_cookies_of_onlyClock
      ((begin_onlyClock (i.session state) i.config
        i.scenario).of_ok hBegin)
      hStanding
  rcases Folder.run_readCookies_pipe hPipe with
    ⟨failure, hFails⟩
  rw [hFails] at hRead
  cases hRead

/- An invocation that is seen to save what passes is orderly. -/
theorem orderly_of_ends
    {addr : Address}
    {u : World}
    (hBegin :
      ((i.session state).begin i.config i.scenario).run
        i.start = .ok addr u)
    (hEnds :
      ((i.session state).walk i.config i.scenario addr >>=
        fun _ => save (.folder state) addr).ends u = true)
    (hName : Path.IsName addr.browser)
    (hCloses :
      i.start.browser.breakdowns.lookup .close = none)
    (hReports :
      ∀ d ∈ i.start.browser.cookies,
        Cookie.HasPlainExpiry d ∧ d.IsUnpaired) :
    i.Orderly state where
  named := by
    rintro other ⟨w, hOther⟩
    rw [hBegin] at hOther
    cases hOther
    exact hName
  saves := by
    rintro other result v ⟨w, hOther, hWalk, _⟩
    rw [hBegin] at hOther
    cases hOther
    rcases exists_of_ends hEnds with ⟨_, v', hSave⟩
    rw [EStateM.run_bind, hWalk] at hSave
    exact ⟨v', hSave⟩
  closes := hCloses
  reports := hReports

------------------------------------------------------------
-- Histories
------------------------------------------------------------

/-
  What an invocation leaves of the cookies of a browser is
  there when another one begins, if none between the two
  succeeds on that browser.
-/
theorem standing?_start_of_chain
    {between : List Invocation}
    {j : Invocation}
    (hOrderly : ∀ k ∈ between, k.Orderly state)
    (hChain : List.IsChain (Untouched state) (i :: between ++ [j]))
    {addr : Address}
    (hName : Path.IsName addr.browser)
    (hFail :
      ∀ k ∈ between, ∀ other,
        k.ActsOn state other →
          other.browser = addr.browser →
            ¬ k.Succeeds state)
    {entry : Entry}
    (hLeft :
      (i.after state).files.standing?
          (Folder.cookies state addr) =
        some entry) :
    j.start.files.standing? (Folder.cookies state addr) =
      some entry := by
  induction between generalizing i with
  | nil =>
      have hNext : Untouched state i j :=
        (List.isChain_cons_cons.mp hChain).1
      rw [hNext addr hName, hLeft]
  | cons k between ih =>
      have hParts :
          Untouched state i k ∧
            List.IsChain (Untouched state)
              (k :: between ++ [j]) :=
        List.isChain_cons_cons.mp hChain
      refine ih
        (fun other hMember =>
          hOrderly other (List.mem_cons_of_mem _ hMember))
        hParts.2
        (fun other hMember =>
          hFail other (List.mem_cons_of_mem _ hMember)) ?_
      refine standing?_after (hOrderly k List.mem_cons_self) hName
        (hFail k List.mem_cons_self) ?_
      rw [hParts.1 addr hName, hLeft]

end Invocation

/-
  In every history of replays on one folder: a replay that
  gets as far as restoring cookies gives its browser the
  cookies that were reported when a replay on that browser
  last succeeded, each as it was read, in their order and in
  one call, or makes no such call if there were none.  It does
  get that far if it starts a browser, unless a pipe took the
  cookies.
-/
theorem cookies_of_history
    (state : Path)
    {past between later : List Invocation}
    {i j : Invocation}
    (hOrderly :
      ∀ k ∈ past ++ i :: (between ++ j :: later),
        k.Orderly state)
    (hChain :
      List.IsChain (Invocation.Untouched state)
        (past ++ i :: (between ++ j :: later)))
    {first next : Address}
    (hFirst : i.ActsOn state first)
    (hSucceeds : i.Succeeds state)
    (hLatest :
      ∀ k ∈ between, ∀ addr,
        k.ActsOn state addr →
          addr.browser = first.browser →
            ¬ k.Succeeds state)
    (hNext : j.ActsOn state next)
    (hSame : next.browser = first.browser) :
    ∃ cookies,
      Jar.AreRead i.start.browser.cookies cookies ∧
        (j.start.files.standing? (Folder.cookies state next) ≠
            some .pipe →
          j.Restores state next) ∧
        (j.Restores state next →
          (j.after state).restored =
            j.start.restored ++
              (if cookies = [] then []
                else [cookies.map Cookie.record])) := by
  have hOrderlyI : i.Orderly state := hOrderly i (by simp)
  have hCookies :
      Folder.cookies state next = Folder.cookies state first := by
    rw [Folder.cookies, Folder.cookies, Folder.browser,
      Folder.browser, hSame]
  have hBetween :
      List.IsChain (Invocation.Untouched state)
        (i :: between ++ [j]) := by
    have hSuffix := hChain.right_of_append
    have hSplit :
        i :: (between ++ j :: later) =
          (i :: between ++ [j]) ++ later := by
      simp
    rw [hSplit] at hSuffix
    exact hSuffix.left_of_append
  rcases Invocation.kept_after hFirst hSucceeds with
    ⟨cookies, hRead, hKept⟩
  have hCarried
      {entry : Entry}
      (hLeft :
        (i.after state).files.standing?
            (Folder.cookies state first) =
          some entry) :
      j.start.files.standing? (Folder.cookies state next) =
        some entry := by
    rw [hCookies]
    exact Invocation.standing?_start_of_chain
      (fun k hMember => hOrderly k (by simp [hMember]))
      hBetween (hOrderlyI.named first hFirst) hLatest hLeft
  refine ⟨cookies, hRead, ?_⟩
  rcases hKept with hFile | hPipe
  · have hRestored :=
      Invocation.restored_after hNext
        (hRead.isUnpaired fun d hMember =>
          (hOrderlyI.reports d hMember).2)
        (hRead.isLasting fun d hMember =>
          (hOrderlyI.reports d hMember).1)
        (hCarried hFile)
    constructor
    · intro _
      exact hRestored.1
    · intro _
      exact hRestored.2
  · have hLost := hCarried hPipe
    constructor
    · intro hNone
      exact absurd hLost hNone
    · intro hRestores
      exact absurd hRestores
        (Invocation.not_restores_of_pipe hLost)

/- A cookie as a browser reports it. -/
def crumb : Document :=
  .mapping
    [(.text "name", .scalar (.text "sid")),
      (.text "value", .scalar (.text "1")),
      (.text "domain", .scalar (.text "new")),
      (.text "expires", .scalar (.integer (-1)))]

/- It can be reported in an orderly invocation. -/
theorem plain_crumb :
    ∀ d ∈ [crumb], Cookie.HasPlainExpiry d ∧ d.IsUnpaired := by
  intro d hMember
  rw [List.mem_singleton.mp hMember]
  refine ⟨by simp [crumb, Cookie.HasPlainExpiry, Document.field?,
    Document.find?], .mapping fun entry hEntry => ?_⟩
  simp only [List.mem_cons, List.not_mem_nil, or_false] at hEntry
  rcases hEntry with rfl | rfl | rfl | rfl
  all_goals
    refine .scalar fun s hText => ?_
    cases hText <;> exact Text.isUnpaired_ofString _

/- A visit with some files and a browser that has a cookie. -/
def visitWith (files : FileTree) : Invocation :=
  ⟨⟨none, true⟩, none, some ⟨"b", "t"⟩, visitHome, "tour",
    { World.start files .blank with
      browser := { Browser.blank with cookies := [crumb] } }⟩

/- The visit can be begun on all files. -/
theorem run_begin_visitWith (files : FileTree) :
    (((visitWith files).session (.ofText "state")).begin visitHome
        "tour").run (visitWith files).start =
      .ok ⟨"b", "t"⟩
        (Window.launched ⟨none, true⟩ (visitWith files).start) :=
  Session.run_begin_of_no_limit (by decide) rfl rfl rfl

/- A visit on the files of a tab that was saved before. -/
def firstVisit : Invocation :=
  visitWith savedTab

/- A visit on the files that the first one leaves. -/
def secondVisit : Invocation :=
  visitWith (firstVisit.after (.ofText "state")).files

/- The cookie of the first visit comes back in the second one. -/
theorem cookies_of_history_of_two_visits :
    ∃ cookies,
      Jar.AreRead [crumb] cookies ∧
        secondVisit.Restores (.ofText "state") ⟨"b", "t"⟩ ∧
        (secondVisit.after (.ofText "state")).restored =
          secondVisit.start.restored ++
            (if cookies = [] then []
              else [cookies.map Cookie.record]) := by
  have hFirst : firstVisit.Orderly (.ofText "state") :=
    Invocation.orderly_of_ends (run_begin_visitWith _)
      (by decide +kernel)
      (by decide) rfl plain_crumb
  have hSecond : secondVisit.Orderly (.ofText "state") :=
    Invocation.orderly_of_ends (run_begin_visitWith _)
      (by decide +kernel)
      (by decide) rfl plain_crumb
  have hOrderly :
      ∀ k ∈ [] ++ firstVisit :: ([] ++ secondVisit :: []),
        k.Orderly (.ofText "state") := by
    intro k hMember
    rcases List.mem_pair.mp hMember with rfl | rfl
    · exact hFirst
    · exact hSecond
  have hChain :
      List.IsChain (Invocation.Untouched (.ofText "state"))
        ([] ++ firstVisit :: ([] ++ secondVisit :: [])) := by
    apply List.isChain_pair.mpr
    intro addr _
    simp only [secondVisit, visitWith, World.start]
  have hSucceeds : firstVisit.Succeeds (.ofText "state") := by
    rcases hFirst.saved_of_passes
        ⟨_, run_begin_visitWith savedTab, rfl, rfl⟩ with
      ⟨_, _, hSucceeds, _⟩
    exact hSucceeds
  have hLatest :
      ∀ k ∈ ([] : List Invocation), ∀ addr : Address,
        k.ActsOn (.ofText "state") addr →
          addr.browser = "b" →
            ¬ k.Succeeds (.ofText "state") := by
    intro k hMember
    cases hMember
  have hNoPipe :
      secondVisit.start.files.standing?
          (Folder.cookies (.ofText "state") ⟨"b", "t"⟩) ≠
        some .pipe := by
    decide +kernel
  rcases cookies_of_history (.ofText "state") hOrderly hChain
      ⟨_, run_begin_visitWith _⟩ hSucceeds hLatest
      ⟨_, run_begin_visitWith _⟩ rfl with
    ⟨cookies, hRead, hReaches, hRestored⟩
  have hRestores := hReaches hNoPipe
  exact ⟨cookies, hRead, hRestores, hRestored hRestores⟩

end Replay
