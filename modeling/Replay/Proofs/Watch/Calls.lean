import Replay.Proofs.Number.Digit
import Replay.Proofs.Watch.Loop

/-
  This file proves which calls are made while a tab is opened
  and watched over, from its start to its end.

  Key definitions include:
    * `World.Still`
    * `Play.Consults`
    * `Store.Keeps`
    * `FileTree.OffersPipe`
    * `Listener.Ready`
    * `Watch.openingCalls`

  Main results:
    * `Store.readCookies_consults`
    * `Window.closePages_run`
    * `Watch.opening_run`
    * `Listener.Ready.attach`
    * `Watch.calls_of_begin`
-/

------------------------------------------------------------
-- Looking Things Up
------------------------------------------------------------

namespace Replay

open Play Text

/- After some calls nothing that a browser shows has changed. -/
structure World.Still
    (w : World)
    (calls : List Call)
    (v : World) : Prop
    extends w.Leads calls v where
  pending : v.pending = w.pending
  pages : v.pages = w.pages
  closed : v.closed = w.closed
  page : v.page = w.page

namespace World.Still

variable {w u v : World}
variable {calls more : List Call}

theorem refl (w : World) :
    w.Still [] w :=
  ⟨⟨rfl, rfl, rfl, (List.append_nil _).symm⟩, rfl, rfl, rfl, rfl⟩

theorem trans
    (hFirst : w.Still calls u)
    (hSecond : u.Still more v) :
    w.Still (calls ++ more) v where
  toLeads := hFirst.toLeads.trans hSecond.toLeads
  pending := hSecond.pending.trans hFirst.pending
  pages := hSecond.pages.trans hFirst.pages
  closed := hSecond.closed.trans hFirst.closed
  page := hSecond.page.trans hFirst.page

end World.Still

namespace Play

variable {α β : Type}

/- What follows an act that ended is done where it ended. -/
theorem run_bind_of_ok
    {act : Play α}
    {next : α → Play β}
    {w u : World}
    {value : α}
    (hRun : act.run w = .ok value u) :
    (act >>= next).run w = (next value).run u := by
  rw [EStateM.run_bind, hRun]

/-
  An act that depends on the files alone: what it gives once,
  it gives in every world with the same files.
-/
def Consults
    (calls : List Call)
    (act : Play α) : Prop :=
  ∀ w w' v value,
    act.run w = .ok value w' →
      v.files = w.files →
        ∃ u, act.run v = .ok value u ∧ v.Still calls u

namespace Consults

variable {calls more : List Call}

theorem pure (value : α) :
    Consults [] (Pure.pure value : Play α) := by
  intro w w' v value hRun _
  cases hRun
  exact ⟨v, rfl, .refl v⟩

/- An act that never ends consults whatever one likes. -/
theorem throw (failure : Failure) :
    Consults calls (MonadExcept.throw failure : Play α) := by
  intro w w' v value hRun
  cases hRun

/- A call that is recorded is the call that is made. -/
theorem record (call : Call) :
    Consults [call] (Play.record call) := by
  intro w w' v value _ _
  exact ⟨_, rfl, ⟨rfl, rfl, rfl, rfl⟩, rfl, rfl, rfl, rfl⟩

theorem note
    (level : Level)
    (source : String)
    (message : Text) :
    Consults [] (Play.note level source message) := by
  intro w w' v value _ _
  exact ⟨_, rfl, ⟨rfl, rfl, rfl, (List.append_nil _).symm⟩, rfl,
    rfl, rfl, rfl⟩

/- To look for a file makes no call. -/
theorem hasEntry (path : Path) :
    Consults [] (Play.hasEntry path) := by
  intro w w' v value hRun hFiles
  rw [run_hasEntry] at hRun ⊢
  rw [hFiles]
  split at hRun
  · cases hRun
    exact ⟨v, by simp [*], .refl v⟩
  · cases hRun

theorem readText (path : Path) :
    Consults [] (Play.readText path) := by
  intro w w' v value hRun hFiles
  rw [run_readText] at hRun ⊢
  rw [hFiles]
  split at hRun
  · cases hRun
  · split at hRun
    · cases hRun
      exact ⟨v, by simp [*], .refl v⟩
    · cases hRun

/- Acts one after another depend on the files if each does. -/
theorem bind
    {act : Play α}
    {next : α → Play β}
    (hAct : Consults calls act)
    (hNext : ∀ value, Consults more (next value)) :
    Consults (calls ++ more) (act >>= next) := by
  intro w w' v value hRun hFiles
  rcases exists_of_bind_ok hRun with ⟨first, w₁, hFirst, hRest⟩
  rcases hAct w w₁ w first hFirst rfl with ⟨w₂, hSame, hStill⟩
  rw [hFirst] at hSame
  cases hSame
  rcases hAct w w₁ v first hFirst hFiles with ⟨u, hRunAct, hLeads⟩
  have hLater : u.files = w₁.files := by
    rw [hLeads.files, hStill.files, hFiles]
  rcases hNext first w₁ w' u value hRest hLater with
    ⟨x, hRunNext, hMore⟩
  exact ⟨x, (run_bind_of_ok hRunAct).trans hRunNext,
    hLeads.trans hMore⟩

theorem map
    {act : Play α}
    (f : α → β)
    (hAct : Consults calls act) :
    Consults calls (f <$> act) := by
  rw [← bind_pure_comp, ← List.append_nil calls]
  exact hAct.bind fun value => pure (f value)

end Consults

end Play

------------------------------------------------------------
-- What Is Kept of a Tab
------------------------------------------------------------

namespace Folder

theorem activeAddress_consults (state : Path) :
    Consults [] (activeAddress state) :=
  (Consults.readText _).bind fun _ =>
    (Consults.readText _).bind fun _ => Consults.pure _

/- What comes of a jar is passed on without a call. -/
theorem ofJar_consults
    (outcome : Except Jar.Refusal (List Cookie)) :
    Consults [] (ofJar outcome) := by
  cases outcome with
  | ok cookies =>
      exact Consults.pure cookies
  | error refusal =>
      exact Consults.throw _

theorem readCookies_consults
    (state : Path)
    (addr : Address) :
    Consults [] (readCookies state addr) := by
  refine (Consults.hasEntry _).bind fun found => ?_
  split
  · exact (Consults.readText _).bind fun text =>
      (ofJar_consults _).map _
  · refine (Consults.hasEntry _).bind fun foundLines => ?_
    split
    · exact (Consults.readText _).bind fun text =>
        (ofJar_consults _).map _
    · exact (Consults.note _ _ _).bind fun _ => Consults.pure _

theorem readUrl_consults
    (state : Path)
    (addr : Address) :
    Consults [] (readUrl state addr) := by
  refine (Consults.hasEntry _).bind fun found => ?_
  split
  · exact (Consults.readText _).bind fun _ => Consults.pure _
  · exact Consults.pure none

end Folder

namespace Store

/- The use of a store that is kept elsewhere is a call. -/
def asks
    (call : Call) :
    Store → List Call
  | folder _ => []
  | remote _ _ _ => [call]

theorem activeAddress_consults (store : Store) :
    Consults (store.asks .activeAddress) store.activeAddress := by
  cases store with
  | folder state =>
      exact Folder.activeAddress_consults state
  | remote addr url cookies =>
      exact (Consults.record _).bind fun _ => Consults.pure addr

theorem readCookies_consults
    (store : Store)
    (addr : Address) :
    Consults (store.asks (.readCookies addr))
      (store.readCookies addr) := by
  cases store with
  | folder state =>
      exact Folder.readCookies_consults state addr
  | remote _ url cookies =>
      exact (Consults.record _).bind fun _ => Consults.pure cookies

theorem readUrl_consults
    (store : Store)
    (addr : Address) :
    Consults (store.asks (.readUrl addr))
      (store.readUrl addr) := by
  cases store with
  | folder state =>
      exact Folder.readUrl_consults state addr
  | remote _ url cookies =>
      exact (Consults.record _).bind fun _ => Consults.pure url

/- The active tab, and what is kept of it, can be read. -/
structure Keeps
    (store : Store)
    (w : World)
    (addr : Address)
    (cookies : Option (List Cookie))
    (url : Option Text) : Prop where
  active : store.activeAddress.run' w = some addr
  cookies : (store.readCookies addr).run' w = some cookies
  url : (store.readUrl addr).run' w = some url

end Store

------------------------------------------------------------
-- Calls to the Browser
------------------------------------------------------------

namespace Window

variable {w : World}

/- The pages of a browser have different labels. -/
theorem nodup_blankPages (count : Nat) :
    (blankPages count).Nodup := by
  refine List.Nodup.map (fun m n hSame => ?_) List.nodup_range
  have hDigits : Number.digitChars m = Number.digitChars n := by
    simpa [Number.natText] using congrArg String.toList hSame
  rw [← Number.digitsValue_digitChars m, hDigits,
    Number.digitsValue_digitChars]

/- None of them is the tab. -/
theorem tab_notMem_blankPages (count : Nat) :
    tab ∉ blankPages count := by
  intro hTab
  rcases List.mem_map.mp hTab with ⟨n, _, hSame⟩
  have hFirst := congrArg (fun s => s.toList.head?) hSame
  simp [tab] at hFirst

/- A launch is one call if it does not break down. -/
theorem launch_run
    (theme : Option String)
    (hLaunch : w.browser.breakdowns.lookup .launch = none) :
    ∃ v,
      (launch ⟨theme, false⟩ none).run
          { w with profile := some .empty } =
        .ok () v ∧
        World.Still
          { w with
            pages := blankPages w.browser.blankPages
            closed := false }
          [.launch ⟨theme, false⟩ (preferencesText theme)] v :=
  ⟨_, launch_of_success _ none hLaunch, ⟨rfl, rfl, rfl, rfl⟩,
    rfl, rfl, rfl, rfl⟩

/- Cookies are given if there are any. -/
def cookieCalls : Option (List Cookie) → List Call
  | none => []
  | some [] => []
  | some cookies => [.addCookies cookies]

/- Cookies are added with one call, if there are any. -/
theorem restoreCookies_run
    (cookies : Option (List Cookie))
    (hAdd :
      cookieCalls cookies ≠ [] →
        w.browser.breakdowns.lookup .addCookies = none) :
    ∃ v,
      (restoreCookies cookies).run w = .ok () v ∧
        w.Still (cookieCalls cookies) v := by
  unfold restoreCookies cookieCalls at *
  split
  · exact ⟨w, rfl, .refl w⟩
  · exact ⟨w, rfl, .refl w⟩
  · rename_i kept hSome
    have hWorks : w.browser.breakdowns.lookup .addCookies = none := by
      cases kept with
      | nil =>
          exact absurd rfl hSome
      | cons cookie rest =>
          exact hAdd (List.cons_ne_nil _ _)
    simp only [EStateM.run_bind, run_note, run_call, hWorks]
    exact ⟨_, rfl, ⟨rfl, rfl, rfl, rfl⟩, rfl, rfl, rfl, rfl⟩

/- A new tab is one call, and a page more. -/
theorem newTab_run
    (hNew : w.browser.breakdowns.lookup .newPage = none) :
    ∃ v,
      newTab.run w = .ok () v ∧
        World.Still
          { w with
            pages := w.pages ++ [tab]
            page := w.browser.page }
          [.newPage] v := by
  simp only [newTab, EStateM.run_bind, run_call, hNew,
    EStateM.run_modify]
  exact ⟨_, rfl, ⟨rfl, rfl, rfl, rfl⟩, rfl, rfl, rfl, rfl⟩

/- Each of the pages is closed, in their order. -/
theorem closePages_run
    (labels : List String)
    (w : World)
    (hClose :
      labels ≠ [] →
        w.browser.breakdowns.lookup .closePage = none) :
    ∃ v,
      (closePages labels).run w = .ok () v ∧
        World.Still
          { w with pages := w.pages.filter (· ∉ labels) }
          (labels.map .closePage) v := by
  induction labels generalizing w with
  | nil =>
      refine ⟨w, rfl, ⟨rfl, rfl, rfl, ?_⟩, rfl, ?_, rfl, rfl⟩
      · simp
      · simp
  | cons label rest ih =>
      have hWorks := hClose (List.cons_ne_nil label rest)
      rcases ih
          { w with
            trace := w.trace ++ [.closePage label]
            pages := w.pages.filter (· != label) }
          (fun _ => hWorks) with
        ⟨v, hRun, hStill⟩
      refine ⟨v, ?_, ⟨hStill.files, hStill.handles, hStill.browser,
        ?_⟩, hStill.pending, ?_, hStill.closed, hStill.page⟩
      · simp only [closePages, EStateM.run_bind, run_call, hWorks,
          EStateM.run_modify]
        exact hRun
      · rw [hStill.trace]
        simp
      · rw [hStill.pages, List.filter_filter]
        refine List.filter_congr fun other _ => ?_
        by_cases hLabel : other = label <;> simp [hLabel]

/- After that, only the tab is left of a new browser. -/
theorem filter_blankPages (count : Nat) :
    (blankPages count ++ [tab]).filter
        (· ∉ blankPages count) =
      [tab] := by
  rw [List.filter_append]
  simp [tab_notMem_blankPages]

end Window

/- An address is opened if it is not empty. -/
def visitCalls : Option Text → List Call
  | none => []
  | some url => if url = [] then [] else [.visit url]

/- To visit an address that can be reached is one call. -/
theorem visit_run
    {w : World}
    {url : Text}
    (hVisit : w.page.unreachable.lookup url = none) :
    ∃ v,
      (visit url).run w = .ok () v ∧
        World.Still { w with page := w.page.opened url }
          [.visit url] v := by
  simp only [visit, EStateM.run_bind, run_record, EStateM.run_get,
    hVisit, breakDown, EStateM.run_pure, EStateM.run_modify]
  exact ⟨_, rfl, ⟨rfl, rfl, rfl, rfl⟩, rfl, rfl, rfl, rfl⟩

------------------------------------------------------------
-- Opening
------------------------------------------------------------

/- No call by which a tab is opened breaks down. -/
structure Browser.Opens
    (browser : Browser)
    (cookies : Option (List Cookie))
    (url : Option Text) : Prop where
  launch : browser.breakdowns.lookup .launch = none
  addCookies :
    Window.cookieCalls cookies ≠ [] →
      browser.breakdowns.lookup .addCookies = none
  newPage : browser.breakdowns.lookup .newPage = none
  closePage :
    browser.blankPages ≠ 0 →
      browser.breakdowns.lookup .closePage = none
  visit :
    ∀ address,
      .visit address ∈ visitCalls url →
        browser.page.unreachable.lookup address = none

namespace Watch

variable {w : World}
variable {store : Store}
variable {theme : Option String}
variable {addr : Address}
variable {cookies : Option (List Cookie)}
variable {url : Option Text}

/- The calls from the launch to the last page that is closed. -/
def openingCalls
    (store : Store)
    (theme : Option String)
    (addr : Address)
    (cookies : Option (List Cookie))
    (url : Option Text)
    (blank : List String) : List Call :=
  [.launch ⟨theme, false⟩ (Window.preferencesText theme)] ++
    store.asks (.readCookies addr) ++
    Window.cookieCalls cookies ++
    [.newPage] ++
    store.asks (.readUrl addr) ++
    visitCalls url ++
    blank.map .closePage

/- The tab is led to its address, if that was kept. -/
def restoreUrl (url : Option Text) : Play Unit :=
  match url with
  | none => pure ()
  | some url => if url = [] then pure () else visit url

/- An address is restored with one call at most. -/
theorem restoreUrl_run
    (hVisit :
      ∀ address,
        .visit address ∈ visitCalls url →
          w.page.unreachable.lookup address = none) :
    ∃ v page,
      (restoreUrl url).run w = .ok () v ∧
        World.Still { w with page := page } (visitCalls url) v := by
  unfold restoreUrl visitCalls at *
  split
  · exact ⟨w, w.page, rfl, .refl w⟩
  · rename_i address
    split
    · exact ⟨w, w.page, rfl, .refl w⟩
    · rename_i hSome
      simp only [if_neg hSome] at hVisit
      rcases visit_run (hVisit address List.mem_cons_self) with
        ⟨v, hRun, hStill⟩
      exact ⟨v, _, hRun, hStill⟩

/-
  To open a tab is a row of acts, the last one without a
  result.
-/
theorem opening_eq
    (store : Store)
    (theme : Option String)
    (addr : Address) :
    opening store theme addr = (do
      Window.launch ⟨theme, false⟩ none
      let cookies ← store.readCookies addr
      Window.restoreCookies cookies
      let blank := (← get).pages
      Window.newTab
      let url ← store.readUrl addr
      restoreUrl url
      Window.closePages blank) := by
  unfold opening restoreUrl
  refine bind_congr fun _ => bind_congr fun cookies =>
    bind_congr fun _ => bind_congr fun w =>
      bind_congr fun _ => bind_congr fun url => ?_
  cases url with
  | none =>
      rfl
  | some url =>
      dsimp only
      split <;> rfl

/- A tab is opened: the calls are made, and it alone is open. -/
theorem opening_run
    {start : World}
    (hKeeps : store.Keeps start addr cookies url)
    (hFiles : w.files = start.files)
    (hOpens : w.browser.Opens cookies url) :
    ∃ v,
      (opening store theme addr).run
          { w with profile := some .empty } =
        .ok () v ∧
        w.Leads
          (openingCalls store theme addr cookies url
            (Window.blankPages w.browser.blankPages)) v ∧
        v.pending = w.pending ∧
        v.pages = [Window.tab] ∧
        v.closed = false := by
  rcases exists_run_of_run' hKeeps.cookies with ⟨_, hCookies⟩
  rcases exists_run_of_run' hKeeps.url with ⟨_, hUrl⟩
  rcases Window.launch_run theme hOpens.launch with
    ⟨w₁, hRun₁, h₁⟩
  have hFiles₁ : w₁.files = start.files := h₁.files.trans hFiles
  rcases store.readCookies_consults addr _ _ w₁ _ hCookies
      hFiles₁ with ⟨w₂, hRun₂, h₂⟩
  have hBrowser₂ : w₂.browser = w.browser :=
    h₂.browser.trans h₁.browser
  rcases @Window.restoreCookies_run w₂ cookies
      (hBrowser₂ ▸ hOpens.addCookies) with ⟨w₃, hRun₃, h₃⟩
  have hBrowser₃ : w₃.browser = w.browser :=
    h₃.browser.trans hBrowser₂
  have hPages₃ :
      w₃.pages = Window.blankPages w.browser.blankPages :=
    h₃.pages.trans (h₂.pages.trans h₁.pages)
  rcases @Window.newTab_run w₃ (hBrowser₃ ▸ hOpens.newPage) with
    ⟨w₄, hRun₄, h₄⟩
  have hFiles₄ : w₄.files = start.files :=
    h₄.files.trans (h₃.files.trans (h₂.files.trans hFiles₁))
  rcases store.readUrl_consults addr _ _ w₄ _ hUrl hFiles₄ with
    ⟨w₅, hRun₅, h₅⟩
  have hPage₅ : w₅.page = w.browser.page :=
    h₅.page.trans (h₄.page.trans (congrArg Browser.page hBrowser₃))
  rcases @restoreUrl_run w₅ url (hPage₅ ▸ hOpens.visit) with
    ⟨w₆, page, hRun₆, h₆⟩
  have hBrowser₆ : w₆.browser = w.browser :=
    h₆.browser.trans
      (h₅.browser.trans (h₄.browser.trans hBrowser₃))
  have hClose :
      w₃.pages ≠ [] →
        w₆.browser.breakdowns.lookup .closePage = none := by
    intro hSome
    rw [hBrowser₆]
    refine hOpens.closePage fun hNone => hSome ?_
    rw [hPages₃, hNone]
    rfl
  rcases Window.closePages_run w₃.pages w₆ hClose with
    ⟨w₇, hRun₇, h₇⟩
  refine ⟨w₇, ?_, ⟨?_, ?_, ?_, ?_⟩, ?_, ?_, ?_⟩
  · rw [opening_eq, run_bind_of_ok hRun₁, run_bind_of_ok hRun₂,
      run_bind_of_ok hRun₃]
    simp only [EStateM.run_bind, EStateM.run_get, hRun₄, hRun₅,
      hRun₆, hRun₇]
  · simp only [h₇.files, h₆.files, h₅.files, h₄.files, h₃.files,
      h₂.files, h₁.files]
  · simp only [h₇.handles, h₆.handles, h₅.handles, h₄.handles,
      h₃.handles, h₂.handles, h₁.handles]
  · exact h₇.browser.trans hBrowser₆
  · simp only [h₇.trace, h₆.trace, h₅.trace, h₄.trace, h₃.trace,
      h₂.trace, h₁.trace, hPages₃, openingCalls,
      List.append_assoc]
  · simp only [h₇.pending, h₆.pending, h₅.pending, h₄.pending,
      h₃.pending, h₂.pending, h₁.pending]
  · simp only [h₇.pages, h₆.pages, h₅.pages, h₄.pages, hPages₃]
    exact Window.filter_blankPages _
  · simp only [h₇.closed, h₆.closed, h₅.closed, h₄.closed,
      h₃.closed, h₂.closed, h₁.closed]

end Watch

------------------------------------------------------------
-- Listening
------------------------------------------------------------

/- A pipe stands at a path, or can be made there. -/
def FileTree.OffersPipe
    (tree : FileTree)
    (path : Path) : Prop :=
  tree.standing? path = some .pipe ∨
    tree.hasEntry path = .ok false ∧
      ∃ made piped,
        tree.makeFolders path.parent = (.ok (), made) ∧
          made.make path .pipe = .ok piped

/- An end is opened where a pipe can be had. -/
theorem Channel.attach_run
    {c : Channel}
    {w : World}
    (hPipe : w.files.OffersPipe c.path) :
    ∃ files,
      c.attach.run w =
          .ok { c with handle := some w.freshHandle }
            ({ w with files := files }.withEnd c.path) ∧
        files.standing? c.path = some .pipe := by
  rcases hPipe with hPipe | ⟨hNone, made, piped, hMade, hMake⟩
  · exact ⟨w.files, attach_run_of_standing hPipe, hPipe⟩
  · have hPiped : piped.standing? c.path = some .pipe :=
      (FileTree.Grown.of_make hMake).2
    have hEnsure :
        c.ensure.run w = .ok () { w with files := piped } := by
      unfold ensure
      rw [EStateM.run_bind, run_hasEntry, hNone]
      simp [hMade, hMake]
    have hTarget :=
      @target_run_of_standing c { w with files := piped } hPiped
    refine ⟨piped, ?_, hPiped⟩
    rw [attach, run_bind_of_ok hEnsure, run_bind_of_ok hTarget]
    rfl

/- The end that was opened last is closed again. -/
theorem World.handles_closeHandle
    {w v : World}
    {path : Path}
    (hHandles : v.handles = (w.withEnd path).handles) :
    (v.closeHandle w.freshHandle).handles = w.handles := by
  have hFresh := List.lookup_eq_none_iff.mp w.lookup_freshHandle
  have hKept : ∀ entry ∈ w.handles, entry.1 != w.freshHandle :=
    fun entry hEntry => (bne_comm ..).trans (hFresh entry hEntry)
  rw [closeHandle, hHandles, withEnd, List.filter_append,
    List.filter_eq_self.mpr hKept]
  simp

namespace Listener

/- The call by which a scripted listener is opened. -/
def opening : Listener → List Call
  | channel _ => []
  | scripted _ => [.openChannel]

/-
  A listener by whom every message can be heard: a channel for
  which a pipe can be had, in which nothing stands yet, and
  into which only messages are sent that fit; or a scripted
  one, if nothing is sent on the pipe.
-/
inductive Ready
    (pipe : Channel)
    (w : World)
    (ticks : List Tick) : Listener → Prop
  | channel {c : Channel} :
      c.path = pipe.path →
      w.files.OffersPipe c.path →
      w.pendingAt (FileTree.goal c.path) = [] →
      (∀ tick ∈ ticks, tick.Fits) →
      Ready pipe w ticks (.channel c)
  | scripted {messages : List (Option String)} :
      (∀ tick ∈ ticks, tick.sent = none) →
      Ready pipe w ticks (.scripted messages)

/- A listener that has been attached, and is to be detached. -/
structure Attached
    (pipe : Channel)
    (ticks : List Tick)
    (listener later : Listener)
    (w u : World) : Prop where
  browser : u.browser = w.browser
  pages : u.pages = w.pages
  closed : u.closed = w.closed
  trace : u.trace = w.trace ++ listener.opening
  hears : later.Hears pipe u ticks (listener.heard ticks)
  detach :
    ∀ v,
      v.handles = u.handles →
        ∃ x,
          later.detach.run v = .ok () x ∧
            x.handles = w.handles ∧
            x.trace = v.trace ++ listener.closing

section

variable {pipe : Channel}
variable {w u : World}
variable {ticks : List Tick}
variable {listener : Listener}

/-
  Whether a listener is ready depends on the files and on
  what is pending.
-/
theorem Ready.of_same
    (hReady : listener.Ready pipe w ticks)
    (hFiles : u.files = w.files)
    (hPending : u.pending = w.pending) :
    listener.Ready pipe u ticks := by
  cases hReady with
  | channel hPath hPipe hNothing hFit =>
      refine .channel hPath (hFiles ▸ hPipe) ?_ hFit
      rw [World.pendingAt, hPending]
      exact hNothing
  | scripted hSilent =>
      exact .scripted hSilent

/- The end of an attached channel stands in an empty pipe. -/
theorem holds_of_attach
    {c : Channel}
    (hPath : c.path = pipe.path)
    (hPipe : w.files.standing? c.path = some .pipe)
    (hNothing : w.pendingAt (FileTree.goal c.path) = []) :
    Holds pipe (w.withEnd c.path) []
      { c with handle := some w.freshHandle } where
  path := hPath
  tuned := by
    have hEntry := (FileTree.find_of_standing? hPipe).2
    have hBefore : Scene.Tuned ⟨{ c with handle := none }, w⟩ :=
      { noFile := by simp [FileTree.held?, Scene.place, hEntry]
        pipe := fun _ => hPipe
        own := nofun
        silent := fun _ => hNothing }
    exact hBefore.withEnd hPipe
  inside := rfl
  pending := hNothing

/- A listener that is ready can be attached. -/
theorem Ready.attach (hReady : listener.Ready pipe w ticks) :
    ∃ later u,
      listener.attach.run w = .ok later u ∧
        Attached pipe ticks listener later w u := by
  cases hReady with
  | @channel c hPath hPipe hNothing hFit =>
      rcases Channel.attach_run hPipe with ⟨files, hRun, hStanding⟩
      have hHolds :=
        @holds_of_attach pipe { w with files := files } c hPath
          hStanding hNothing
      have hAttach :
          (Listener.channel c).attach.run w =
            .ok (.channel { c with handle := some w.freshHandle })
              ({ w with files := files }.withEnd c.path) := by
        rw [Listener.attach, run_map, hRun]
      refine ⟨_, _, hAttach, rfl, rfl, rfl,
        (List.append_nil _).symm, ?_, ?_⟩
      · have hNone : (Utf8.bytesOf "").length ≤ chunkLimit := by
          decide
        exact .channel hHolds hNone hFit
      · intro v hHandles
        refine ⟨_, rfl, ?_, (List.append_nil _).symm⟩
        exact @World.handles_closeHandle { w with files := files } v
          c.path hHandles
  | scripted hSilent =>
      refine ⟨_, _, rfl, rfl, rfl, rfl, rfl, .scripted hSilent, ?_⟩
      exact fun v hHandles => ⟨_, rfl, hHandles, rfl⟩

end

end Listener

------------------------------------------------------------
-- The Whole Session
------------------------------------------------------------

namespace Watch

variable {pipe : Channel}
variable {listener : Listener}
variable {w : World}

/- While the listener is attached, the turns are served. -/
theorem watching_run
    (hReady : listener.Ready pipe w w.browser.ticks)
    (hOpen : w.closed = false)
    (hSucceeds :
      Succeeds w.browser w.browser.ticks
        (turns w.pages (listener.heard w.browser.ticks)
          w.browser.ticks)) :
    ∃ v,
      (watching pipe listener).run w = .ok () v ∧
        v.handles = w.handles ∧
        v.trace =
          w.trace ++ listener.opening ++
            (turns w.pages (listener.heard w.browser.ticks)
              w.browser.ticks).flatMap Turn.calls ++
            listener.closing := by
  rcases hReady.attach with ⟨later, u, hAttach, hAttached⟩
  rw [← hAttached.browser, ← hAttached.pages] at hSucceeds
  have hHears := hAttached.hears
  rw [← hAttached.browser] at hHears
  rcases serve_run hHears (hAttached.closed.trans hOpen) hSucceeds
    with ⟨v, hServe, hLeads⟩
  rcases hAttached.detach v hLeads.handles with
    ⟨x, hDetach, hHandles, hTrace⟩
  refine ⟨x, ?_, hHandles, ?_⟩
  · rw [watching, run_bind_of_ok hAttach, EStateM.run_bind,
      EStateM.run_get]
    simp only [run_andFinally, hServe, hDetach]
  · rw [hTrace, hLeads.trace, hAttached.trace, hAttached.browser,
      hAttached.pages]

/-
  A session of a tab that is kept, in which no call breaks
  down and every message fits, ends.  The browser is launched,
  given its cookies if any were kept, and a new tab is led to
  its address if one was; each page of the start is closed,
  and the tab is not.  Then one turn is served after another:
  the pages are reloaded if what is heard asks for it, and the
  first one waits, until the browser is closed or no page is
  open.  The channel and the profile are gone at the end.
-/
theorem calls_of_begin
    {store : Store}
    {theme : Option String}
    {addr : Address}
    {cookies : Option (List Cookie)}
    {url : Option Text}
    (hKeeps : store.Keeps w addr cookies url)
    (hReady : listener.Ready pipe w w.browser.ticks)
    (hOpens : w.browser.Opens cookies url)
    (hSucceeds :
      Succeeds w.browser w.browser.ticks
        (turns [Window.tab] (listener.heard w.browser.ticks)
          w.browser.ticks)) :
    ∃ v,
      (begin store theme pipe listener).run w = .ok () v ∧
        v.trace =
          w.trace ++ store.asks .activeAddress ++
            openingCalls store theme addr cookies url
              (Window.blankPages w.browser.blankPages) ++
            listener.opening ++
            (turns [Window.tab] (listener.heard w.browser.ticks)
              w.browser.ticks).flatMap Turn.calls ++
            listener.closing ∧
        (Window.blankPages w.browser.blankPages).Nodup ∧
        Window.tab ∉ Window.blankPages w.browser.blankPages ∧
        v.handles = w.handles ∧
        v.profile = none := by
  rcases exists_run_of_run' hKeeps.active with ⟨_, hActive⟩
  rcases store.activeAddress_consults _ _ w _ hActive rfl with
    ⟨w₁, hRun₁, h₁⟩
  rcases @opening_run w₁ store theme addr cookies url w hKeeps
      h₁.files (h₁.browser ▸ hOpens) with
    ⟨u, hOpening, hLeads, hPending, hPages, hClosed⟩
  have hBrowser : u.browser = w.browser :=
    hLeads.browser.trans h₁.browser
  have hReadyThen : listener.Ready pipe u u.browser.ticks := by
    rw [hBrowser]
    exact hReady.of_same (hLeads.files.trans h₁.files)
      (hPending.trans h₁.pending)
  rw [← hBrowser, ← hPages] at hSucceeds
  rcases watching_run hReadyThen hClosed hSucceeds with
    ⟨v, hWatching, hHandles, hTrace⟩
  have hAttend :
      (attend store theme pipe listener addr).run
          { w₁ with profile := some .empty } =
        .ok () v := by
    rw [attend_eq, run_bind_of_ok hOpening, hWatching]
  refine ⟨{ v with
    profile := none
    log := v.log ++ [⟨.info, sessionLog, "Browser closed"⟩] },
    ?_, ?_, Window.nodup_blankPages _,
    Window.tab_notMem_blankPages _, ?_, rfl⟩
  · rw [begin, run_bind_of_ok hRun₁, Window.onProfile]
    simp only [EStateM.run_bind, Window.run_makeProfile,
      run_andFinally]
    rw [hAttend]
    rfl
  · change v.trace = _
    rw [hTrace, hLeads.trace, hBrowser, hPages, h₁.trace,
      h₁.browser]
  · exact hHandles.trans (hLeads.handles.trans h₁.handles)

/- A tab that is kept, with a cookie. -/
def keptTab : FileTree where
  entries :=
    [(["state"], .folder),
      (["state", "active-browser.txt"], .file (.text "b\n")),
      (["state", "active-tab.txt"], .file (.text "t\n")),
      (["state", "browser"], .folder),
      (["state", "browser", "b"], .folder),
      (["state", "browser", "b", "cookie.txt"],
        .file (.text "a.test\tFALSE\t/\tFALSE\t0\tsid\told")),
      (["state", "browser", "b", "tab"], .folder),
      (["state", "browser", "b", "tab", "t"], .folder),
      (["state", "browser", "b", "tab", "t", "url.txt"],
        .file (.text "http://a.test/"))]

/-
  A browser that starts with two pages.  A request is sent
  during the first pause, and the user closes the browser
  during the third.
-/
def requestWorld : World :=
  { World.start keptTab .blank with
    browser :=
      { Browser.blank with
        blankPages := 2
        ticks :=
          [⟨some reloadAll, false, false, none⟩,
            ⟨none, false, false, none⟩, ⟨none, false, true, none⟩] } }

/- The cookie that is kept. -/
def keptCookie : Cookie :=
  ⟨"sid", "old", "a.test", "/", none, false, false, none⟩

/- The request is served in the second of three turns. -/
theorem calls_of_begin_of_requestWorld :
    Store.Keeps (.folder (.ofText "state")) requestWorld ⟨"b", "t"⟩
        (some [keptCookie]) (some (Text.ofString "http://a.test/")) ∧
      ∃ v,
        (begin (.folder (.ofText "state")) (some "dark")
            ⟨.ofText "run/browser.fifo", none⟩
            (.channel ⟨.ofText "run/browser.fifo", none⟩)).run
            requestWorld =
          .ok () v ∧
        v.trace =
          [.launch ⟨some "dark", false⟩
              (Window.preferencesText (some "dark")),
            .addCookies [keptCookie], .newPage,
            .visit "http://a.test/", .closePage "blank0",
            .closePage "blank1", .pause "tab", .reload "tab",
            .pause "tab", .pause "tab"] ∧
        v.handles = [] ∧
        v.profile = none := by
  have hKeeps :
      Store.Keeps (.folder (.ofText "state")) requestWorld
        ⟨"b", "t"⟩ (some [keptCookie])
        (some (Text.ofString "http://a.test/")) :=
    ⟨rfl, rfl, rfl⟩
  have hReady :
      Listener.Ready ⟨.ofText "run/browser.fifo", none⟩
        requestWorld requestWorld.browser.ticks
        (.channel ⟨.ofText "run/browser.fifo", none⟩) := by
    refine .channel rfl (.inr ⟨rfl, _, _, rfl, rfl⟩) rfl ?_
    simp only [Tick.Fits]
    decide
  have hOpens :
      requestWorld.browser.Opens (some [keptCookie])
        (some (Text.ofString "http://a.test/")) :=
    ⟨rfl, fun _ => rfl, rfl, fun _ => rfl, fun _ _ => rfl⟩
  have hSucceeds
      (turns : List Turn) :
      Succeeds requestWorld.browser requestWorld.browser.ticks
        turns := by
    refine ⟨fun _ _ _ => rfl, fun tick hTick => ?_⟩
    have hTicks :
        ∀ tick ∈ requestWorld.browser.ticks,
          tick.breakdown = none := by
      decide
    exact hTicks tick (List.mem_of_mem_take hTick)
  rcases @calls_of_begin _ _ _ _ (some "dark") _ _ _ hKeeps hReady
      hOpens (hSucceeds _) with ⟨v, hRun, hTrace, _, _, hEnds⟩
  exact ⟨hKeeps, v, hRun, hTrace.trans rfl, hEnds⟩

end Watch

end Replay
