import Mathlib.Data.List.Basic
import Replay.Proofs.Store
import Replay.Window

/-
  This file proves what starting, using and closing a browser
  leaves alone, and which cookies it exports.

  Key definitions include:
    * `World.SameWindow`
    * `Window.furnished`
    * `Window.start`
    * `Window.finish`
    * `Window.launched`

  Main results:
    * `Window.run_furnishProfile`
    * `Window.onProfile_launch`
    * `Window.run_reload`
    * `Window.start_of_breakdown`
    * `Window.start_of_limit`
    * `Window.start_of_broken_limit`
    * `Window.start_staysIn`
    * `Window.restoreCookies_staysIn`
    * `Window.areRead_of_exportCookies`
-/

------------------------------------------------------------
-- What Is Seen of a Window
------------------------------------------------------------

namespace Replay

open Play

/- What is seen of a browser is the same in two worlds. -/
structure World.SameWindow (w v : World) : Prop where
  browser : v.browser = w.browser
  pages : v.pages = w.pages
  closed : v.closed = w.closed
  trace : v.trace = w.trace

instance : IsPreorder World World.SameWindow where
  refl _ := ⟨rfl, rfl, rfl, rfl⟩
  trans _ _ _ hFirst hSecond :=
    { browser := hSecond.browser.trans hFirst.browser
      pages := hSecond.pages.trans hFirst.pages
      closed := hSecond.closed.trans hFirst.closed
      trace := hSecond.trace.trans hFirst.trace }

/- Nothing but the files differs in the later world. -/
def World.OnlyFiles (w v : World) : Prop :=
  v = { w with files := v.files }

instance : IsPreorder World World.OnlyFiles where
  refl _ := rfl
  trans w v u hFirst hSecond := by
    rw [World.OnlyFiles] at *
    rw [hSecond, hFirst]

------------------------------------------------------------
-- Profiles
------------------------------------------------------------

namespace Window

/- The preferences are a string, which nothing hinders to write. -/
theorem writePreferences_eq
    (profile : Path)
    (theme : Option String) :
    writePreferences profile theme = (do
      let file := (profile.child "Default").child "Preferences"
      makeFolders file.parent
      write file (.text (preferencesText theme))
      return file) := by
  simp only [writePreferences, writeText_ofString]

/- The preferences are kept as a text in a file of their own. -/
theorem writePreferences_onlyFiles
    (profile : Path)
    (theme : Option String) :
    (writePreferences profile theme).StaysIn World.OnlyFiles := by
  have hKeep :
      (keepText ((profile.child "Default").child "Preferences")
        (preferencesText theme)).StaysIn World.OnlyFiles :=
    keepText_staysIn (fun _ _ => rfl) _ _
  simpa [writePreferences, keepText] using
    hKeep.bind fun _ =>
      StaysIn.pure ((profile.child "Default").child "Preferences")

/- A new profile that was furnished: the preferences alone. -/
def furnished (theme : Option String) : FileTree :=
  FileTree.empty.install ["Default", "Preferences"]
    (.file (.text (preferencesText theme)))

/- Nothing keeps the preferences from a new profile. -/
theorem run_furnishProfile
    (theme : Option String)
    (w : World) :
    (furnishProfile theme).run { w with profile := some .empty } =
      .ok () { w with profile := some (furnished theme) } := by
  unfold furnishProfile
  rw [writePreferences_eq]
  rfl

/- Whatever the profile holds, no more than it changes. -/
theorem exists_left_furnishProfile
    (theme : Option String)
    (w : World) :
    ∃ profile,
      (furnishProfile theme).left w =
        { w with profile := profile } := by
  have hWrite :
      StaysIn World.OnlyFiles (do
        let _ ← writePreferences .here theme
        return) :=
    (writePreferences_onlyFiles .here theme).bind
      fun _ => StaysIn.pure ()
  have hSwap :
      swapProfile.run w =
        .ok () { w with
          files := w.profile.getD .empty
          profile := some w.files } := rfl
  unfold furnishProfile
  rw [left_bind_of_ok hSwap, left_andFinally, hWrite]
  exact ⟨_, rfl⟩

/-
  Start a browser on a new profile.  The profile is removed
  if the browser does not start.
-/
def start
    (options : LaunchOptions)
    (timeout : Option Number.Binary64) : Play Unit := do
  makeProfile
  (launch options timeout).orFinally removeProfile

/- Close the browser, and remove its profile in any case. -/
def finish : Play Unit :=
  close.andFinally removeProfile

/- A browser on a new profile is started and finished. -/
theorem onProfile_launch
    {α : Type}
    (options : LaunchOptions)
    (timeout : Option Number.Binary64)
    (act : Play α) :
    onProfile (do
      launch options timeout
      act.andFinally close) =
    (do
      start options timeout
      act.andFinally finish) := by
  rw [onProfile, bind_andFinally, start, finish, bind_assoc,
    andFinally_andFinally]

------------------------------------------------------------
-- Calls
------------------------------------------------------------

@[simp] theorem run_makeProfile (w : World) :
    makeProfile.run w =
      .ok () { w with profile := some .empty } := rfl

@[simp] theorem run_removeProfile (w : World) :
    removeProfile.run w = .ok () { w with profile := none } := rfl

/- A call is entered in any case, before it may break down. -/
theorem run_call
    (method : BrowserMethod)
    (entry : Call)
    (w : World) :
    (call method entry).run w =
      match w.browser.breakdowns.lookup method with
      | none => .ok () { w with trace := w.trace ++ [entry] }
      | some breakdown =>
        .error breakdown.failure
          { w with trace := w.trace ++ [entry] } := by
  unfold call
  cases hBreak : w.browser.breakdowns.lookup method <;>
    simp [hBreak, breakDown]

/- A reload that may break down, of each page in turn. -/
theorem run_reload
    (labels : List String)
    (w : World) :
    (reload labels).run w =
      match w.browser.breakdowns.lookup .reload, labels with
      | none, _ =>
        .ok () { w with trace := w.trace ++ labels.map .reload }
      | some _, [] => .ok () w
      | some breakdown, label :: _ =>
        .error breakdown.failure
          { w with trace := w.trace ++ [.reload label] } := by
  induction labels generalizing w with
  | nil =>
      cases w.browser.breakdowns.lookup .reload <;> simp [reload]
  | cons label rest ih =>
      unfold reload
      rw [EStateM.run_bind, run_call]
      cases hBreak : w.browser.breakdowns.lookup .reload with
      | none =>
          simp [ih, hBreak]
      | some breakdown =>
          rfl

/- Whether it breaks down or not, the browser is finished. -/
theorem run_finish (w : World) :
    finish.run w =
      match w.browser.breakdowns.lookup .close with
      | none =>
        .ok ()
          { w with trace := w.trace ++ [.close], profile := none }
      | some breakdown =>
        .error breakdown.failure
          { w with
            trace := w.trace ++ [.close]
            profile := none } := by
  rw [finish, run_andFinally, close, run_call]
  cases w.browser.breakdowns.lookup .close <;> simp

------------------------------------------------------------
-- Starting
------------------------------------------------------------

/- A browser was started on its profile, with no limit yet. -/
def launched
    (options : LaunchOptions)
    (w : World) : World :=
  { w with
    profile := some (furnished options.theme)
    pages := blankPages w.browser.blankPages
    closed := false
    trace := w.trace ++
      [.launch options (preferencesText options.theme)]
    log := w.log ++ [⟨.info, launchLog, launchMessage options⟩] }

/- A browser that breaks down at its start leaves one call. -/
theorem start_of_breakdown
    (options : LaunchOptions)
    (timeout : Option Number.Binary64)
    {w : World}
    {breakdown : Breakdown}
    (hBreak :
      w.browser.breakdowns.lookup .launch = some breakdown) :
    (start options timeout).run w =
      .error breakdown.failure
        { w with
          profile := none
          trace := w.trace ++
            [.launch options (preferencesText options.theme)]
          log := w.log ++
            [⟨.info, launchLog, launchMessage options⟩] } := by
  have hLaunch :
      (launch options timeout).run
          { w with profile := some .empty } =
        .error breakdown.failure
          { w with
            profile := some (furnished options.theme)
            trace := w.trace ++
              [.launch options (preferencesText options.theme)]
            log := w.log ++
              [⟨.info, launchLog, launchMessage options⟩] } := by
    unfold launch
    simp only [EStateM.run_bind, run_furnishProfile, run_note,
      run_call, hBreak]
  unfold start
  rw [EStateM.run_bind, run_makeProfile]
  dsimp only
  rw [run_orFinally, hLaunch]
  rfl

/- On a new profile it is launched, and its time limited. -/
theorem launch_of_success
    (options : LaunchOptions)
    (timeout : Option Number.Binary64)
    {w : World}
    (hNone : w.browser.breakdowns.lookup .launch = none) :
    (launch options timeout).run { w with profile := some .empty } =
      (limitTime timeout).run (launched options w) := by
  unfold launch
  simp only [EStateM.run_bind, run_furnishProfile, run_note,
    run_call, hNone, EStateM.run_modify]
  rfl

/- The profile is removed if its time cannot be limited. -/
theorem start_of_success
    (options : LaunchOptions)
    (timeout : Option Number.Binary64)
    {w : World}
    (hNone : w.browser.breakdowns.lookup .launch = none) :
    (start options timeout).run w =
      ((limitTime timeout).orFinally removeProfile).run
        (launched options w) := by
  unfold start
  rw [EStateM.run_bind, run_makeProfile]
  dsimp only
  rw [run_orFinally, run_orFinally,
    launch_of_success options timeout hNone]

/- The call by which the time is limited, if it is. -/
def limitCalls : Option Number.Binary64 → List Call
  | none => []
  | some limit => [.limitTime limit]

/- A browser that can be limited is started. -/
theorem start_of_limit
    (options : LaunchOptions)
    {timeout : Option Number.Binary64}
    {w : World}
    (hNone : w.browser.breakdowns.lookup .launch = none)
    (hLimit :
      timeout = none ∨
        w.browser.breakdowns.lookup .limitTime = none) :
    (start options timeout).run w =
      .ok () { launched options w with
        trace := w.trace ++
          .launch options (preferencesText options.theme) ::
            limitCalls timeout } := by
  rw [start_of_success options timeout hNone, run_orFinally]
  cases timeout with
  | none =>
      rfl
  | some limit =>
      have hWorks :
          (launched options w).browser.breakdowns.lookup
            .limitTime = none :=
        hLimit.resolve_left (Option.some_ne_none limit)
      rw [limitTime, run_call, hWorks]
      simp [launched, limitCalls]

/- One that cannot be limited is left open, but no profile is. -/
theorem start_of_broken_limit
    (options : LaunchOptions)
    {limit : Number.Binary64}
    {w : World}
    {breakdown : Breakdown}
    (hNone : w.browser.breakdowns.lookup .launch = none)
    (hBreak :
      w.browser.breakdowns.lookup .limitTime = some breakdown) :
    (start options (some limit)).run w =
      .error breakdown.failure
        { launched options w with
          profile := none
          trace := w.trace ++
            [.launch options (preferencesText options.theme),
              .limitTime limit] } := by
  have hBreaks :
      (launched options w).browser.breakdowns.lookup .limitTime =
        some breakdown := hBreak
  rw [start_of_success options (some limit) hNone, run_orFinally,
    limitTime, run_call, hBreaks]
  simp [launched]

/- A browser without a limit is started by one call. -/
theorem start_of_no_limit
    (options : LaunchOptions)
    {w : World}
    (hNone : w.browser.breakdowns.lookup .launch = none) :
    (start options none).run w = .ok () (launched options w) := by
  rw [start_of_success options none hNone]
  rfl

------------------------------------------------------------
-- Frames of Calls
------------------------------------------------------------

section Calling

variable {mayCall : Call → Prop}
variable {R : World → World → Prop}
variable [IsPreorder World R]

/- A call keeps what such calls keep, also if it breaks down. -/
theorem call_staysIn
    (frame : Frame mayCall R)
    (method : BrowserMethod)
    {entry : Call}
    (hEntry : mayCall entry) :
    (call method entry).StaysIn R :=
  (frame.record_staysIn entry hEntry).bind fun _ =>
    StaysIn.get.bind fun _ => breakDown_staysIn _

omit [IsPreorder World R] in
/- To make or remove a profile changes nothing else. -/
theorem changeProfile_staysIn
    (frame : Frame mayCall R)
    (change : World → Option FileTree) :
    (modify fun w => { w with profile := change w } :
      Play Unit).StaysIn R :=
  fun w => frame.window w w.pages w.closed w.page _

omit [IsPreorder World R] in
/- The profile is no file that a frame speaks of. -/
theorem furnishProfile_staysIn
    (frame : Frame mayCall R)
    (theme : Option String) :
    (furnishProfile theme).StaysIn R := by
  intro w
  rcases exists_left_furnishProfile theme w with ⟨profile, hLeft⟩
  rw [hLeft]
  exact frame.window w w.pages w.closed w.page profile

theorem limitTime_staysIn
    (frame : Frame mayCall R)
    (hLimit : ∀ limit, mayCall (.limitTime limit))
    (timeout : Option Number.Binary64) :
    (limitTime timeout).StaysIn R := by
  cases timeout with
  | none =>
      exact StaysIn.pure ()
  | some limit =>
      exact call_staysIn frame .limitTime (hLimit limit)

/- A launch makes two calls at most. -/
theorem launch_staysIn
    (frame : Frame mayCall R)
    (hLaunch : ∀ options text, mayCall (.launch options text))
    (hLimit : ∀ limit, mayCall (.limitTime limit))
    (options : LaunchOptions)
    (timeout : Option Number.Binary64) :
    (launch options timeout).StaysIn R := by
  refine (furnishProfile_staysIn frame _).bind fun _ =>
    (frame.note_staysIn _ _ _).bind fun _ =>
      (call_staysIn frame .launch (hLaunch _ _)).bind
        fun _ => StaysIn.bind ?_ fun _ =>
          limitTime_staysIn frame hLimit timeout
  exact fun w => frame.window w _ _ w.page w.profile

theorem start_staysIn
    (frame : Frame mayCall R)
    (hLaunch : ∀ options text, mayCall (.launch options text))
    (hLimit : ∀ limit, mayCall (.limitTime limit))
    (options : LaunchOptions)
    (timeout : Option Number.Binary64) :
    (start options timeout).StaysIn R :=
  (changeProfile_staysIn frame _).bind fun _ =>
    (launch_staysIn frame hLaunch hLimit options
      timeout).orFinally (changeProfile_staysIn frame _)

/- To restore cookies makes one call at most. -/
theorem restoreCookies_staysIn
    (frame : Frame mayCall R)
    (hAdd : ∀ cookies, mayCall (.addCookies cookies))
    (cookies : Option (List Cookie)) :
    (restoreCookies cookies).StaysIn R := by
  unfold restoreCookies
  split
  · exact StaysIn.pure ()
  · exact StaysIn.pure ()
  · exact (frame.note_staysIn _ _ _).bind fun _ =>
      call_staysIn frame .addCookies (hAdd _)

theorem newTab_staysIn
    (frame : Frame mayCall R)
    (hNew : mayCall .newPage) :
    newTab.StaysIn R :=
  (call_staysIn frame .newPage hNew).bind fun _ =>
    fun w => frame.window w _ w.closed _ w.profile

/- The end of a browser makes one call. -/
theorem finish_staysIn
    (frame : Frame mayCall R)
    (hClose : mayCall .close) :
    finish.StaysIn R :=
  (call_staysIn frame .close hClose).andFinally
    (changeProfile_staysIn frame _)

/- To check what was reported changes nothing. -/
theorem checkCookies_staysIn
    (records : List Document) :
    (checkCookies records).StaysIn R := by
  induction records with
  | nil =>
      exact StaysIn.pure _
  | cons record rest ih =>
      unfold checkCookies
      split
      · exact ih.bind fun _ => StaysIn.pure _
      · exact StaysIn.throw _

theorem exportCookies_staysIn
    (frame : Frame mayCall R)
    (hList : mayCall .listCookies) :
    exportCookies.StaysIn R :=
  (call_staysIn frame .cookies hList).bind fun _ =>
    StaysIn.get.bind fun _ => checkCookies_staysIn _

end Calling

------------------------------------------------------------
-- Reported Cookies
------------------------------------------------------------

/- What passes the check is the cookies of the records. -/
theorem areRead_of_checkCookies
    {records : List Document}
    {cookies : List Cookie}
    {w w' : World}
    (hCheck :
      (checkCookies records).run w = .ok cookies w') :
    Jar.AreRead records cookies := by
  induction records generalizing cookies w' with
  | nil =>
      cases hCheck
      exact .nil
  | cons record rest ih =>
      unfold checkCookies at hCheck
      cases hRead : Cookie.read record with
      | error rejection =>
          simp [hRead] at hCheck
      | ok cookie =>
          simp only [hRead] at hCheck
          rcases exists_of_bind_ok hCheck with
            ⟨others, v, hRest, hPure⟩
          cases hPure
          exact .cons hRead (ih hRest)

/- The cookies that are exported are those that are reported. -/
theorem areRead_of_exportCookies
    {cookies : List Cookie}
    {w w' : World}
    (hExport : exportCookies.run w = .ok cookies w') :
    Jar.AreRead w.browser.cookies cookies := by
  unfold exportCookies call at hExport
  simp only [EStateM.run_bind, run_record, EStateM.run_get]
    at hExport
  cases hBreak : w.browser.breakdowns.lookup .cookies with
  | some breakdown =>
      simp [hBreak, breakDown] at hExport
  | none =>
      simp only [hBreak, breakDown, EStateM.run_pure] at hExport
      exact areRead_of_checkCookies hExport

end Window

end Replay
