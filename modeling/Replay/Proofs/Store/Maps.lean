import Mathlib.Logic.Function.Basic
import Replay.Proofs.Store.Layout

/-
  This file proves that a folder keeps what two maps would
  keep: an address for each tab, and cookies for each browser.

  Key definitions include:
    * `Folder.Write`
    * `Folder.writeAll`
    * `Folder.Kept`
    * `Folder.IsEmpty`
    * `Folder.Mirrors`

  Main results:
    * `Folder.Mirrors.after`
    * `Folder.Mirrors.afterAll`
    * `Folder.reads_of_writes`

  Names that are too long for a file system are no exception:
  nothing is kept under them, but a read may say so instead of
  finding nothing.
-/

------------------------------------------------------------
-- Writes
------------------------------------------------------------

namespace Replay

open Text Play

namespace Folder

/- One use of a folder that writes. -/
inductive Write where
  | url (addr : Address) (text : Text)
  | cookies (addr : Address) (list : List Cookie)

namespace Write

/- The tab that is written for. -/
def addr : Write → Address
  | url addr _ => addr
  | cookies addr _ => addr

/-
  Cookies that are written can be restored: none expires
  before time began, and none has a surrogate pair in halves.
-/
def IsRestorable : Write → Prop
  | url _ _ => True
  | cookies _ list => ∀ c ∈ list, c.IsLasting ∧ c.IsUnpaired

/- Make the use. -/
def act (state : Path) : Write → Play Unit
  | url addr text => writeUrl state addr text
  | cookies addr list => writeCookies state addr list

/- What is written has a file. -/
def item : Write → Item
  | url addr _ => .url addr
  | cookies addr _ => .cookies addr.browser

/- The text that its file is to hold. -/
def text : Write → Text
  | url _ text => text
  | cookies _ list => Jar.writeJson list

theorem isNamed_item
    {write : Write}
    (hNamed : write.addr.IsNamed) :
    write.item.IsNamed := by
  cases write with
  | url addr text =>
      exact hNamed
  | cookies addr list =>
      exact Address.IsNamed.browser hNamed

/- A write for a named address keeps a text below the state. -/
theorem act_of_isNamed
    {write : Write}
    (hNamed : write.addr.IsNamed)
    (state : Path) :
    write.act state =
      keepText (state.below write.item.names) write.text := by
  cases write with
  | url addr text =>
      have hAddr : addr.IsNamed := hNamed
      rw [act, writeUrl_eq, url_of_isNamed hAddr]
      rfl
  | cookies addr list =>
      have hAddr : addr.IsNamed := hNamed
      rw [act, writeCookies_eq, cookies_of_isName hAddr.browser]
      rfl

end Write

/- Make the uses one after another. -/
def writeAll (state : Path) : List Write → Play Unit
  | [] => pure ()
  | write :: rest => do
    write.act state
    writeAll state rest

------------------------------------------------------------
-- Maps
------------------------------------------------------------

/- What is kept: an address by tabs, cookies by browsers. -/
structure Kept where
  url : Address → Option Text
  cookies : String → Option (List Cookie)

namespace Kept

/- Nothing is kept. -/
def nothing : Kept :=
  ⟨fun _ => none, fun _ => none⟩

/- What is written replaces what was kept under its key. -/
def after (kept : Kept) : Write → Kept
  | .url addr text =>
    { kept with url := Function.update kept.url addr (some text) }
  | .cookies addr list =>
    { kept with
      cookies :=
        Function.update kept.cookies addr.browser (some list) }

/- What is kept after writes one after another. -/
def ofWrites (writes : List Write) : Kept :=
  writes.foldl after nothing

/- What the file of an item holds then, if there is one. -/
def text? (kept : Kept) : Item → Option String
  | .url addr => (kept.url addr).map written
  | .cookies browser => (kept.cookies browser).map Jar.writeJson
  | .cookieLines _ => none

/- A write replaces what one file holds. -/
theorem text?_after
    (kept : Kept)
    (write : Write)
    (item : Item) :
    (kept.after write).text? item =
      if item = write.item then some (written write.text)
      else kept.text? item := by
  cases write with
  | url addr text =>
      cases item with
      | url other =>
          simp only [text?, after, Function.update_apply,
            Write.item, Write.text, Item.url.injEq]
          split_ifs <;> rfl
      | _ =>
          rfl
  | cookies addr list =>
      cases item with
      | cookies browser =>
          simp only [text?, after, Function.update_apply,
            Write.item, Write.text, Item.cookies.injEq,
            written_ofString]
          split_ifs <;> rfl
      | _ =>
          rfl

/- All cookies that are kept can be restored. -/
def IsRestorable (kept : Kept) : Prop :=
  ∀ browser list,
    kept.cookies browser = some list →
      ∀ c ∈ list, c.IsLasting ∧ c.IsUnpaired

/- They still can if those that are written can be. -/
theorem IsRestorable.after
    {kept : Kept}
    {write : Write}
    (hKept : kept.IsRestorable)
    (hRestorable : write.IsRestorable) :
    (kept.after write).IsRestorable := by
  cases write with
  | url addr text =>
      exact hKept
  | cookies addr list =>
      intro browser other hOther
      simp only [Kept.after, Function.update_apply] at hOther
      split_ifs at hOther with hSame
      · cases hOther
        exact hRestorable
      · exact hKept browser other hOther

end Kept

/- An address that was kept, as it is read; blanks are none. -/
def trimmed (text : Text) : Option Text :=
  let line :=
    trim (String.ofList (unifyNewlines (written text).toList))
  if line = "" then none else some line

end Folder

------------------------------------------------------------
-- Files and Keys
------------------------------------------------------------

namespace FileTree

/- A path leads to a file with a text, or there is nothing. -/
def Bears
    (tree : FileTree)
    (path : Path) : Option String → Prop
  | some text => tree.standing? path = some (.file (.text text))
  | none => tree.entryAt? (goal path) = none

/- Where a text is borne no pipe stands. -/
theorem Bears.ne_pipe
    {tree : FileTree}
    {path : Path}
    {text? : Option String}
    (hBears : tree.Bears path text?) :
    tree.entryAt? (goal path) ≠ some .pipe := by
  cases text? with
  | none =>
      simp [show tree.entryAt? (goal path) = none from hBears]
  | some text =>
      rcases standing?_eq_some_iff.mp hBears with
        ⟨place, hLocate, hEntry⟩
      rw [← goal_of_locate hLocate, hEntry]
      simp

end FileTree

/- A text that is kept changes nothing that lies elsewhere. -/
theorem bears_of_keepText
    {base : Path}
    {names : List String}
    (hNames : ∀ name ∈ names, Path.IsName name)
    (hFile : names ≠ [])
    {text : Text}
    {w v : World}
    (hSettled : w.files.Settled base)
    (hKeep : (keepText (base.below names) text).run w = .ok () v)
    {other : List String}
    (hOther : ∀ name ∈ other, Path.IsName name)
    (hAside : ¬other <+: names)
    {text? : Option String}
    (hBears : w.files.Bears (base.below other) text?) :
    v.files.Bears (base.below other) text? := by
  have hSome : other ≠ [] := by
    rintro rfl
    exact hAside List.nil_prefix
  cases text? with
  | none =>
      have hVacant :
          w.files.entryAt? (FileTree.goal (base.below other)) =
            none := hBears
      rw [FileTree.goal_below hOther] at hVacant
      rw [FileTree.Bears, FileTree.goal_below hOther,
        entryAt?_of_keepText hNames hFile hSettled hKeep hSome
          hAside, hVacant]
  | some kept =>
      refine standing?_of_keepText_ne hKeep (fun _ _ =>
        FileTree.locate_ne_of_goal_ne ?_) hBears
      rw [FileTree.goal_below hNames, FileTree.goal_below hOther]
      intro hSame
      exact hAside
        (List.append_cancel_left hSame ▸ List.prefix_refl names)

namespace Folder

/-
  Nothing lies in the folder of the browsers, and the way to
  the folder of the state does not lead through that folder
  itself, unless it is there.
-/
structure IsEmpty
    (state : Path)
    (tree : FileTree) : Prop where
  settled : tree.Settled state
  vacant : ∀ names, names ≠ [] →
    tree.entryAt? (FileTree.goal state ++ "browser" :: names) = none

/- The files of a folder hold what is kept, and only that. -/
structure Mirrors
    (state : Path)
    (tree : FileTree)
    (kept : Kept) : Prop where
  settled : tree.Settled state
  bears : ∀ item : Item, item.IsNamed →
    tree.Bears (state.below item.names) (kept.text? item)
  restorable : kept.IsRestorable

namespace Mirrors

variable {state : Path}

/- An empty state mirrors that nothing was written. -/
theorem nothing
    {tree : FileTree}
    (hEmpty : IsEmpty state tree) :
    Mirrors state tree .nothing where
  settled := hEmpty.settled
  bears item hNamed := by
    have hVacant :
        tree.entryAt? (FileTree.goal (state.below item.names)) =
          none := by
      rw [FileTree.goal_below (Item.isName_names hNamed)]
      cases item <;> exact hEmpty.vacant _ (by simp)
    cases item <;> exact hVacant
  restorable browser list hKept := by
    cases hKept

/- One write changes the files as it changes the maps. -/
theorem after
    {kept : Kept}
    {write : Write}
    {w v : World}
    (hMirrors : Mirrors state w.files kept)
    (hNamed : write.addr.IsNamed)
    (hRestorable : write.IsRestorable)
    (hAct : (write.act state).run w = .ok () v) :
    Mirrors state v.files (kept.after write) := by
  rw [Write.act_of_isNamed hNamed] at hAct
  have hItem := Write.isNamed_item hNamed
  refine
    { settled :=
        settled_of_keepText (Item.isName_names hItem)
          (Item.names_ne_nil _) hMirrors.settled hAct
      bears := fun item hOther => ?_
      restorable := hMirrors.restorable.after hRestorable }
  have hBefore := hMirrors.bears item hOther
  rw [Kept.text?_after]
  split_ifs with hSame
  · rw [hSame] at hBefore ⊢
    exact (standing?_of_keepText_of_ne_pipe hBefore.ne_pipe
      hAct).2
  · exact bears_of_keepText (Item.isName_names hItem)
      (Item.names_ne_nil _) hMirrors.settled hAct
      (Item.isName_names hOther)
      (fun hPrefix => hSame (Item.eq_of_prefix_names hPrefix))
      hBefore

/- So do writes one after another. -/
theorem afterAll
    {kept : Kept}
    {writes : List Write}
    {w v : World}
    (hMirrors : Mirrors state w.files kept)
    (hNamed : ∀ write ∈ writes, write.addr.IsNamed)
    (hRestorable : ∀ write ∈ writes, write.IsRestorable)
    (hWrites : (writeAll state writes).run w = .ok () v) :
    Mirrors state v.files (writes.foldl Kept.after kept) := by
  induction writes generalizing w kept with
  | nil =>
      cases hWrites
      exact hMirrors
  | cons write rest ih =>
      rcases exists_of_bind_ok hWrites with ⟨_, u, hAct, hRest⟩
      refine ih
        (hMirrors.after (hNamed write List.mem_cons_self)
          (hRestorable write List.mem_cons_self) hAct)
        (fun other hOther =>
          hNamed other (List.mem_cons_of_mem _ hOther))
        (fun other hOther =>
          hRestorable other (List.mem_cons_of_mem _ hOther))
        hRest

end Mirrors

/- Beside the folder of the browsers nothing changes. -/
theorem entryAt?_of_writeAll
    {state : Path}
    {writes : List Write}
    {w v : World}
    (hSettled : w.files.Settled state)
    (hNamed : ∀ write ∈ writes, write.addr.IsNamed)
    (hWrites : (writeAll state writes).run w = .ok () v)
    {name : String}
    (hName : Path.IsName name)
    (hBrowser : name ≠ "browser") :
    v.files.entryAt? (FileTree.goal (state.child name)) =
      w.files.entryAt? (FileTree.goal (state.child name)) := by
  induction writes generalizing w with
  | nil =>
      cases hWrites
      rfl
  | cons write rest ih =>
      rcases exists_of_bind_ok hWrites with ⟨_, u, hAct, hRest⟩
      have hAddr := hNamed write List.mem_cons_self
      rw [Write.act_of_isNamed hAddr] at hAct
      have hNames :=
        Item.isName_names (Write.isNamed_item hAddr)
      have hFile := Item.names_ne_nil write.item
      have hAside : ¬[name] <+: write.item.names := by
        cases write <;>
          simpa [Write.item, Item.names] using hBrowser
      rw [ih
        (settled_of_keepText hNames hFile hSettled hAct)
        (fun other hOther =>
          hNamed other (List.mem_cons_of_mem _ hOther))
        hRest]
      rw [FileTree.goal_child hName]
      exact entryAt?_of_keepText hNames hFile hSettled hAct
        (List.cons_ne_nil _ _) hAside

------------------------------------------------------------
-- Reads
------------------------------------------------------------

section

variable {state : Path}
variable {addr : Address}
variable {w : World}

/- Where the file cannot be looked for, the read fails. -/
theorem run_readUrl_of_error
    {fault : FileTree.Fault}
    (hEntry : w.files.hasEntry (url state addr) = .error fault) :
    (readUrl state addr).run w = .error (.files fault) w := by
  rw [readUrl, EStateM.run_bind, run_hasEntry, hEntry]

/- The address of a tab is read as it was kept. -/
theorem run_readUrl_of_bears
    {text? : Option Text}
    (hBears : w.files.Bears (url state addr) (text?.map written)) :
    (readUrl state addr).run w = .ok (text?.bind trimmed) w ∨
      text? = none ∧ ¬(url state addr).Fits ∧
        (readUrl state addr).run w =
          .error (.files .nameTooLong) w := by
  cases text? with
  | none =>
      rcases FileTree.hasEntry_of_vacant hBears with
        hNone | ⟨hLong, hFits⟩
      · rw [readUrl, EStateM.run_bind, run_hasEntry, hNone]
        exact Or.inl rfl
      · exact Or.inr ⟨rfl, hFits, run_readUrl_of_error hLong⟩
  | some text =>
      have hText :
          (readText (url state addr)).run w =
            .ok (String.ofList
              (unifyNewlines (written text).toList)) w := by
        rw [run_readText, FileTree.read_of_standing?_file hBears]
        rfl
      rw [readUrl, EStateM.run_bind, run_hasEntry,
        FileTree.hasEntry_of_standing? hBears]
      dsimp only
      rw [if_pos rfl, EStateM.run_bind, hText]
      simp only [Option.bind_some, trimmed, EStateM.run_pure,
        true_or]

/- The cookies of a browser are read as they were kept. -/
theorem run_readCookies_of_bears
    {list? : Option (List Cookie)}
    (hRestorable :
      ∀ list, list? = some list →
        ∀ c ∈ list, c.IsLasting ∧ c.IsUnpaired)
    (hBears :
      w.files.Bears (cookies state addr)
        (list?.map Jar.writeJson))
    (hLines : w.files.Bears (cookieLines state addr) none) :
    (∃ u,
      (readCookies state addr).run w = .ok list? u ∧
      u.Alike w) ∨
      list? = none ∧
        ¬((cookies state addr).Fits ∧
          (cookieLines state addr).Fits) ∧
        (readCookies state addr).run w =
          .error (.files .nameTooLong) w := by
  cases list? with
  | some list =>
      have hList := hRestorable list rfl
      exact Or.inl
        ⟨w, run_readCookies (fun c hMember => (hList c hMember).2)
          (fun c hMember => (hList c hMember).1) hBears, .rfl⟩
  | none =>
      unfold readCookies
      rw [EStateM.run_bind, run_hasEntry]
      rcases FileTree.hasEntry_of_vacant hBears with
        hNone | ⟨hLong, hFits⟩
      · rw [hNone]
        dsimp only
        rw [if_neg Bool.false_ne_true, EStateM.run_bind,
          run_hasEntry]
        rcases FileTree.hasEntry_of_vacant hLines with
          hNoLines | ⟨hLong, hFits⟩
        · rw [hNoLines]
          exact Or.inl ⟨_, rfl, rfl⟩
        · rw [hLong]
          exact Or.inr ⟨rfl, fun hBoth => hFits hBoth.2, rfl⟩
      · rw [hLong]
        exact Or.inr ⟨rfl, fun hBoth => hFits hBoth.1, rfl⟩

end

/-
  After writes for named tabs, on files of which none lay in
  the folder of the browsers, every named tab is read from the
  maps: the address that was written last for it, with line
  ends unified and without blanks at its ends, and the cookies
  that were written last for its browser.  Only if nothing was
  written and the path of the file is too long, the read may
  fail for that.  Reads leave all files as they are, and writes
  leave what stands beside the folder of the browsers.
-/
theorem reads_of_writes
    {state : Path}
    {writes : List Write}
    {w v : World}
    (hEmpty : IsEmpty state w.files)
    (hNamed : ∀ write ∈ writes, write.addr.IsNamed)
    (hRestorable : ∀ write ∈ writes, write.IsRestorable)
    (hWrites : (writeAll state writes).run w = .ok () v) :
    (∀ addr : Address, addr.IsNamed →
      ((readUrl state addr).run v =
          .ok (((Kept.ofWrites writes).url addr).bind trimmed) v ∨
        (Kept.ofWrites writes).url addr = none ∧
          ¬(url state addr).Fits ∧
          (readUrl state addr).run v =
            .error (.files .nameTooLong) v) ∧
      ((∃ u,
        (readCookies state addr).run v =
          .ok ((Kept.ofWrites writes).cookies addr.browser) u ∧
        u.Alike v) ∨
        (Kept.ofWrites writes).cookies addr.browser = none ∧
          ¬((cookies state addr).Fits ∧
            (cookieLines state addr).Fits) ∧
          (readCookies state addr).run v =
            .error (.files .nameTooLong) v)) ∧
    (∀ addr u,
      ((readUrl state addr).left u).files = u.files ∧
      ((readCookies state addr).left u).files = u.files) ∧
    ∀ name, Path.IsName name → name ≠ "browser" →
      v.files.entryAt? (FileTree.goal (state.child name)) =
        w.files.entryAt? (FileTree.goal (state.child name)) := by
  have hMirrors : Mirrors state v.files (Kept.ofWrites writes) :=
    (Mirrors.nothing hEmpty).afterAll hNamed hRestorable hWrites
  refine ⟨fun addr hAddr => ⟨?_, ?_⟩, fun addr u => ⟨?_, ?_⟩, ?_⟩
  · have hUrl := hMirrors.bears (.url addr) hAddr
    rw [← url_of_isNamed hAddr] at hUrl
    exact run_readUrl_of_bears hUrl
  · have hCookies :=
      hMirrors.bears (.cookies addr.browser) hAddr.browser
    have hLines :=
      hMirrors.bears (.cookieLines addr.browser) hAddr.browser
    rw [← cookies_of_isName hAddr.browser] at hCookies
    rw [← cookieLines_of_isName hAddr.browser] at hLines
    exact run_readCookies_of_bears
      (hMirrors.restorable addr.browser) hCookies hLines
  · exact readUrl_staysIn (R := World.SameFiles) state addr u
  · exact readCookies_staysIn sameFiles_frame state addr u
  · exact fun name => entryAt?_of_writeAll hEmpty.settled hNamed
      hWrites

/- Two addresses for one tab, with one for another in between. -/
def someWrites : List Write :=
  [.url ⟨"b", "t"⟩ "a", .url ⟨"b", "url.txt"⟩ "b",
    .url ⟨"b", "t"⟩ " c\r\n"]

/- They can be written, and the folder of the tabs is there. -/
theorem ends_someWrites :
    (writeAll (.ofText "state") someWrites).ends
        (.start .empty .blank) = true ∧
      ((writeAll (.ofText "state") someWrites).left
        (.start .empty .blank)).files.standing?
          ((Path.ofText "state").below ["browser", "b", "tab"]) =
        some .folder := by
  decide +kernel

theorem isEmpty_empty :
    IsEmpty (.ofText "state") .empty where
  settled := FileTree.settled_of_not_mem _ (by decide)
  vacant names _ := by
    have hGoal :
        FileTree.goal (.ofText "state") = ["state"] := by
      decide
    rw [hGoal]
    rfl

/- The last address that was written for a tab is read. -/
theorem reads_of_writes_of_someWrites :
    ∃ v,
      (writeAll (.ofText "state") someWrites).run
          (.start .empty .blank) =
        .ok () v ∧
      (readUrl (.ofText "state") ⟨"b", "t"⟩).run v =
        .ok (some (Text.ofString "c")) v := by
  rcases exists_of_ends ends_someWrites.1 with ⟨_, v, hWrites⟩
  have hKept :
      (Kept.ofWrites someWrites).url ⟨"b", "t"⟩ =
        some (Text.ofString " c\r\n") := by
    decide +kernel
  have hTrimmed :
      trimmed " c\r\n" = some (Text.ofString "c") := by
    decide +kernel
  have hRead :=
    ((reads_of_writes isEmpty_empty (by decide)
      (by simp [someWrites, Write.IsRestorable]) hWrites).1
        ⟨"b", "t"⟩ (by decide)).1
  rw [hKept, Option.bind_some, hTrimmed] at hRead
  refine ⟨v, hWrites, hRead.resolve_right ?_⟩
  rintro ⟨hNone, _⟩
  cases hNone

/- A tab with a name that no file system takes. -/
def longAddress : Address :=
  ⟨"b", String.ofList (List.replicate 256 'x')⟩

theorem isNamed_longAddress : longAddress.IsNamed where
  browser := by decide
  tab := by
    have hList :
        longAddress.tab.toList = List.replicate 256 'x' :=
      String.toList_ofList
    have hOther
        {s : String}
        (hLength : s.toList.length ≠ 256) :
        longAddress.tab ≠ s := by
      rintro rfl
      exact hLength (by rw [hList, List.length_replicate])
    have hMember
        {c : Char}
        (hChar : c ≠ 'x') :
        c ∉ longAddress.tab.toList := by
      rw [hList, List.mem_replicate]
      exact fun hBoth => hChar hBoth.2
    exact ⟨hOther (by decide), hOther (by decide),
      hOther (by decide), hMember (by decide),
      hMember (by decide)⟩

/- The name is longer than any file name may be. -/
theorem long_longAddress :
    FileTree.nameLimit < longAddress.tab.utf8ByteSize := by
  decide +kernel

/-
  After writes for another tab of the browser the read of its
  address is refused, although nothing was written for it.
-/
theorem readUrl_of_longAddress_refused :
    longAddress.IsNamed ∧
      IsEmpty (.ofText "state") .empty ∧
      (Kept.ofWrites someWrites).url longAddress = none ∧
      (writeAll (.ofText "state") someWrites).ends
          (.start .empty .blank) = true ∧
      ∃ failure u,
        (readUrl (.ofText "state") longAddress).run
            ((writeAll (.ofText "state") someWrites).left
              (.start .empty .blank)) =
          .error failure u := by
  refine ⟨isNamed_longAddress, isEmpty_empty, by decide +kernel,
    ends_someWrites.1, .files .nameTooLong, _,
    run_readUrl_of_error ?_⟩
  rw [url_of_isNamed isNamed_longAddress]
  exact FileTree.hasEntry_of_long ends_someWrites.2
    isNamed_longAddress.tab long_longAddress (by decide)

end Folder

end Replay
