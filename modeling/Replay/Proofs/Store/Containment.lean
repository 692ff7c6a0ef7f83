import Replay.Proofs.Store.Layout

/-
  This file proves which tabs have their files in the folder
  of the browsers, and which may have them anywhere.

  Key definitions include:
    * `Path.staysBelow`
    * `Folder.IsInside`
    * `Address.StaysInside`
    * `FileTree.SameAt`

  Main results:
    * `Folder.isInside_of_locate`
    * `Folder.files_of_address`

  The names of a tab are read from files and taken as they
  are, so they may well be paths.
-/

------------------------------------------------------------
-- Ways That Stay Below
------------------------------------------------------------

namespace Replay

open Text Play

namespace Path

/- Do names never lead above the folder some steps further up? -/
def staysBelow : Nat → List String → Bool
  | _, [] => true
  | depth, name :: rest =>
    if name = "" ∨ name = "." then staysBelow depth rest
    else if name = ".." then
      match depth with
      | 0 => false
      | depth + 1 => staysBelow depth rest
    else staysBelow (depth + 1) rest

/- A path that stays below does so from its beginning on. -/
theorem staysBelow_of_append
    {depth : Nat}
    {names rest : List String}
    (hStays : staysBelow depth (names ++ rest) = true) :
    staysBelow depth names = true := by
  induction names generalizing depth with
  | nil =>
      rfl
  | cons name names ih =>
      simp only [List.cons_append, staysBelow] at hStays ⊢
      split_ifs at hStays ⊢
      · exact ih hStays
      · cases depth with
        | zero =>
            cases hStays
        | succ depth =>
            exact ih hStays
      · exact ih hStays

/- A path that is written without a first stroke is joined. -/
theorem child_of_relative
    (base : Path)
    {s : String}
    (hRelative : (ofText s).root = "") :
    base.child s = base.below (ofText s).names := by
  rw [child, join, if_pos hRelative, below]

/- One that is written with a first stroke takes over. -/
theorem child_of_absolute
    (base : Path)
    {s : String}
    (hAbsolute : (ofText s).root ≠ "") :
    base.child s = ofText s := by
  rw [child, join, if_neg hAbsolute]

end Path

namespace FileTree

/- Above a name there is what it stands in. -/
theorem above_append_singleton
    {place : Place}
    (hPlace : place ≠ [])
    (name : String) :
    above (place ++ [name]) = place := by
  have hTop : isTop (place ++ [name]) = false := by
    rcases List.exists_cons_of_ne_nil hPlace with
      ⟨first, rest, rfl⟩
    simp [isTop, outside]
  rw [above, hTop, if_neg Bool.false_ne_true,
    List.dropLast_concat]

/- Names that stay below lead to a place that lies below. -/
theorem exists_destination_of_staysBelow
    {top : Place}
    (hTop : top ≠ [])
    {names : List String}
    {inner : Place}
    (hStays : Path.staysBelow inner.length names = true) :
    ∃ there, destination (top ++ inner) names = top ++ there := by
  induction names generalizing inner with
  | nil =>
      exact ⟨inner, rfl⟩
  | cons name rest ih =>
      simp only [Path.staysBelow] at hStays
      simp only [destination]
      split_ifs at hStays ⊢
      · exact ih hStays
      · -- One folder up is still below the top.
        rcases List.eq_nil_or_concat' inner with
          rfl | ⟨front, last, rfl⟩
        · cases hStays
        · rw [List.length_append, List.length_singleton] at hStays
          rw [← List.append_assoc,
            above_append_singleton (by simp [hTop])]
          exact ih hStays
      · rw [List.append_assoc]
        exact ih (by simpa using hStays)

end FileTree

------------------------------------------------------------
-- Files That Are Not Known
------------------------------------------------------------

namespace FileTree

/-
  Two trees that differ at most in what files hold, and only
  where these are not known.
-/
def SameAt
    (known : Place → Prop)
    (tree other : FileTree) : Prop :=
  ∀ place,
    other.entryAt? place = tree.entryAt? place ∨
      ¬known place ∧ ∃ content otherContent,
        tree.entryAt? place = some (.file content) ∧
        other.entryAt? place = some (.file otherContent)

namespace SameAt

variable {known : Place → Prop}
variable {tree other : FileTree}

/- What a file holds does not matter to a way. -/
theorem follow_eq
    (hSame : SameAt known tree other)
    (here : Place)
    (names : List String) :
    other.follow here names = tree.follow here names := by
  induction names generalizing here with
  | nil =>
      rfl
  | cons name rest ih =>
      simp only [follow]
      rcases hSame here with
        hEntry | ⟨_, content, otherContent, hEntry, hOther⟩
      · rw [hEntry]
        simp only [ih]
      · rw [hEntry, hOther]

/- Trees with the same folders lead paths to the same places. -/
theorem locate_eq
    (hSame : SameAt known tree other)
    (path : Path) :
    other.locate path = tree.locate path := by
  simp only [locate, hSame.follow_eq]

/- What is known is found in both. -/
theorem find_eq
    (hSame : SameAt known tree other)
    {path : Path}
    (hKnown : ∀ place, tree.locate path = .ok place → known place) :
    other.find path = tree.find path := by
  unfold find
  rw [hSame.locate_eq]
  cases hLocate : tree.locate path with
  | error fault =>
      rfl
  | ok place =>
      rcases hSame place with hEntry | ⟨hUnknown, _⟩
      · simp only [bind, Except.bind, hEntry]
      · exact absurd (hKnown place hLocate) hUnknown

end SameAt

end FileTree

namespace Play

variable {known : Place → Prop}

/- Two worlds with such files. -/
def FilesSameAt
    (known : Place → Prop)
    (w v : World) : Prop :=
  w.files.SameAt known v.files

/- What is known in both trees is there in both, or in none. -/
theorem hasEntry_agrees
    {path : Path}
    (hKnown :
      ∀ tree place,
        FileTree.locate tree path = .ok place → known place) :
    Agrees (FilesSameAt known) Eq (hasEntry path)
      (hasEntry path) := by
  intro w v hSame
  rw [run_hasEntry, run_hasEntry, FileTree.hasEntry,
    FileTree.hasEntry, hSame.find_eq (hKnown w.files)]
  split
  · exact .ok rfl hSame
  · exact .error hSame

/- It reads the same in both. -/
theorem readText_agrees
    {path : Path}
    (hKnown :
      ∀ tree place,
        FileTree.locate tree path = .ok place → known place) :
    Agrees (FilesSameAt known) Eq (readText path)
      (readText path) := by
  intro w v hSame
  rw [run_readText, run_readText, FileTree.read, FileTree.read,
    hSame.find_eq (hKnown w.files)]
  split
  · exact .error hSame
  · split
    · exact .ok rfl hSame
    · exact .error hSame

end Play

------------------------------------------------------------
-- The Folder of the Browsers
------------------------------------------------------------

/- Both names are relative, and together they stay below. -/
def Address.StaysInside (addr : Address) : Prop :=
  (Path.ofText addr.browser).root = "" ∧
    (Path.ofText addr.tab).root = "" ∧
    Path.staysBelow 0
      ((Path.ofText addr.browser).names ++
        "tab" :: (Path.ofText addr.tab).names) = true

instance (addr : Address) : Decidable addr.StaysInside := by
  unfold Address.StaysInside
  infer_instance

namespace Folder

/- The place lies in the folder of the browsers. -/
def IsInside
    (state : Path)
    (place : Place) : Prop :=
  FileTree.isBelow place (FileTree.goal (state.child "browser")) =
    true

instance (state : Path) (place : Place) :
    Decidable (IsInside state place) := by
  unfold IsInside
  infer_instance

/- The files of a store that are read or written for a tab. -/
def files
    (state : Path)
    (addr : Address) : List Path :=
  [url state addr, cookies state addr, cookieLines state addr]

/- What lies below the folder of browsers is inside. -/
theorem isInside_append
    (state : Path)
    {inner : Place}
    (hInner : inner ≠ []) :
    IsInside state
      (FileTree.goal (state.child "browser") ++ inner) := by
  simpa [IsInside, FileTree.isBelow] using hInner

/- A name after names that stay below leads to a place inside. -/
theorem isInside_goal_below
    (state : Path)
    {names : List String}
    (hStays : Path.staysBelow 0 names = true)
    {name : String}
    (hName : Path.IsName name) :
    IsInside state
      (FileTree.goal
        (((state.child "browser").below names).child name)) := by
  have hTop : FileTree.goal (state.child "browser") ≠ [] := by
    rw [FileTree.goal_child (isName_fixed "browser" (by simp))]
    simp
  have hEmpty :
      Path.staysBelow ([] : Place).length names = true := hStays
  rcases FileTree.exists_destination_of_staysBelow hTop hEmpty with
    ⟨there, hThere⟩
  rw [List.append_nil] at hThere
  rw [FileTree.goal_child hName, FileTree.goal_below_eq, hThere,
    List.append_assoc]
  exact isInside_append state (by simp)

section

variable {state : Path}
variable {addr : Address}

/- The files of such a tab lie inside, in every tree. -/
theorem isInside_of_locate
    (hStays : addr.StaysInside)
    {file : Path}
    (hFile : file ∈ files state addr)
    {tree : FileTree}
    {place : Place}
    (hLocate : tree.locate file = .ok place) :
    IsInside state place := by
  rcases hStays with ⟨hBrowser, hTab, hNames⟩
  have hFolder :
      browser state addr =
        (state.child "browser").below
          (Path.ofText addr.browser).names :=
    Path.child_of_relative _ hBrowser
  rw [FileTree.goal_of_locate hLocate]
  simp only [files, List.mem_cons, List.not_mem_nil, or_false]
    at hFile
  rcases hFile with rfl | rfl | rfl
  · rw [url, hFolder,
      Path.child_of_isName _ (isName_fixed "tab" (by simp)),
      Path.child_of_relative _ hTab, Path.below_below,
      Path.below_below]
    exact isInside_goal_below state hNames
      (isName_fixed _ (by simp))
  · rw [cookies, hFolder]
    exact isInside_goal_below state
      (Path.staysBelow_of_append hNames) (isName_fixed _ (by simp))
  · rw [cookieLines, hFolder]
    exact isInside_goal_below state
      (Path.staysBelow_of_append hNames) (isName_fixed _ (by simp))

/- Plain names stay below. -/
theorem staysInside_of_isNamed
    (hNamed : addr.IsNamed) :
    addr.StaysInside := by
  rcases hNamed with ⟨hBrowser, hTab⟩
  rw [Address.StaysInside, Path.ofText_of_isName hBrowser,
    Path.ofText_of_isName hTab]
  refine ⟨rfl, rfl, ?_⟩
  rcases hBrowser with ⟨hEmpty, hDot, hDots, _, _⟩
  rcases hTab with ⟨hTabEmpty, hTabDot, hTabDots, _, _⟩
  simp [Path.staysBelow, hEmpty, hDot, hDots, hTabEmpty, hTabDot,
    hTabDots]

/- Two tabs with plain names have files in different places. -/
theorem locate_url_ne
    (hNamed : addr.IsNamed)
    {other : Address}
    (hOther : other.IsNamed)
    (hSame : addr ≠ other)
    {tree otherTree : FileTree}
    {place : Place}
    (hLocate : tree.locate (url state addr) = .ok place) :
    otherTree.locate (url state other) ≠ .ok place := by
  refine FileTree.locate_ne_of_goal_ne (fun hGoals => ?_) hLocate
  have hNames : ∀ name ∈ (Item.url addr).names, Path.IsName name :=
    Item.isName_names hNamed
  have hOthers : ∀ name ∈ (Item.url other).names, Path.IsName name :=
    Item.isName_names hOther
  rw [url_of_isNamed hNamed, url_of_isNamed hOther,
    FileTree.goal_below hNames, FileTree.goal_below hOthers]
    at hGoals
  have hItems : Item.url addr = Item.url other :=
    Item.eq_of_prefix_names
      (List.append_cancel_left hGoals ▸ List.prefix_refl _)
  exact hSame (Item.url.inj hItems)

/- The files of an absolute name have nothing to do with a state. -/
theorem files_of_absolute
    (hAbsolute : (Path.ofText addr.browser).root ≠ "")
    (other : Path) :
    files state addr = files other addr := by
  have hFolder
      (folder : Path) :
      browser folder addr = Path.ofText addr.browser :=
    Path.child_of_absolute _ hAbsolute
  simp only [files, url, cookies, cookieLines, hFolder]

/- What is read for such a tab depends on nothing outside. -/
theorem readUrl_agrees
    (hStays : addr.StaysInside) :
    Agrees (FilesSameAt (IsInside state)) Eq (readUrl state addr)
      (readUrl state addr) := by
  have hUrl
      (tree : FileTree)
      (place : Place) :
      tree.locate (url state addr) = .ok place →
        IsInside state place :=
    isInside_of_locate hStays (by simp [files])
  refine (hasEntry_agrees hUrl).bindEq fun found => ?_
  split
  · exact (readText_agrees hUrl).bindEq fun text => Agrees.pure rfl
  · exact Agrees.pure rfl

/- Cookies of an address that stays inside are read inside. -/
theorem readCookies_agrees
    (hStays : addr.StaysInside) :
    Agrees (FilesSameAt (IsInside state)) Eq
      (readCookies state addr) (readCookies state addr) := by
  have hFile
      {file : Path}
      (hMember : file ∈ files state addr)
      (tree : FileTree)
      (place : Place) :
      tree.locate file = .ok place → IsInside state place :=
    isInside_of_locate hStays hMember
  have hJar
      (outcome : Except Jar.Refusal (List Cookie)) :
      Agrees (FilesSameAt (IsInside state)) Eq
        (some <$> ofJar outcome) (some <$> ofJar outcome) := by
    refine Agrees.map (V := Eq) ?_ fun _ _ hSame => by rw [hSame]
    cases outcome with
    | ok list =>
        exact Agrees.pure rfl
    | error refusal =>
        exact Agrees.throw _
  refine (hasEntry_agrees (hFile (by simp [files]))).bindEq
    fun found => ?_
  split
  · exact (readText_agrees (hFile (by simp [files]))).bindEq
      fun text => hJar _
  · refine (hasEntry_agrees (hFile (by simp [files]))).bindEq
      fun foundLines => ?_
    split
    · exact (readText_agrees (hFile (by simp [files]))).bindEq
        fun text => hJar _
    · have hNote :
          Agrees (FilesSameAt (IsInside state)) Eq
            (note .debug "netero.session.store"
              ("No saved cookies for " ++ addr.shown))
            (note .debug "netero.session.store"
              ("No saved cookies for " ++ addr.shown)) :=
        Agrees.change fun _ _ hSame => hSame
      exact hNote.bindEq fun _ => Agrees.pure rfl

/- What is kept for such a tab changes no file outside. -/
theorem held?_of_keepText_outside
    (hStays : addr.StaysInside)
    {file : Path}
    (hFile : file ∈ files state addr)
    (text : Text)
    (w : World)
    {place : Place}
    (hOutside : ¬IsInside state place) :
    ((keepText file text).left w).files.held? place =
      w.files.held? place :=
  held?_left_keepText fun hLocate =>
    hOutside (isInside_of_locate hStays hFile hLocate)

end

/-
  The files of a tab lie in the folder of the browsers if the
  two names are relative paths that stay below it together.
  Then reads depend on no file outside of that folder, and
  writes change none.  Plain names are such paths, and two
  tabs with plain names have no file for an address in common.
  The files of a browser with an absolute name do not depend
  on the folder of the state at all.
-/
theorem files_of_address
    (state : Path)
    (addr : Address) :
    (addr.StaysInside →
      (∀ file ∈ files state addr, ∀ tree place,
        FileTree.locate tree file = .ok place →
          IsInside state place) ∧
      Agrees (FilesSameAt (IsInside state)) Eq
        (readUrl state addr) (readUrl state addr) ∧
      Agrees (FilesSameAt (IsInside state)) Eq
        (readCookies state addr) (readCookies state addr) ∧
      ∀ w place, ¬IsInside state place →
        (∀ text,
          ((writeUrl state addr text).left w).files.held? place =
            w.files.held? place) ∧
        ∀ list,
          ((writeCookies state addr list).left w).files.held?
              place =
            w.files.held? place) ∧
    (addr.IsNamed →
      addr.StaysInside ∧
      ∀ other : Address, other.IsNamed → addr ≠ other →
        ∀ tree otherTree place,
          FileTree.locate tree (url state addr) = .ok place →
            FileTree.locate otherTree (url state other) ≠
              .ok place) ∧
    ((Path.ofText addr.browser).root ≠ "" →
      ∀ other, files state addr = files other addr) := by
  refine ⟨fun hStays => ⟨?_, readUrl_agrees hStays,
    readCookies_agrees hStays, fun w place hOutside => ⟨?_, ?_⟩⟩,
    fun hNamed => ⟨staysInside_of_isNamed hNamed, ?_⟩, ?_⟩
  · exact fun file hFile tree place =>
      isInside_of_locate hStays hFile
  · intro text
    rw [writeUrl_eq]
    exact held?_of_keepText_outside hStays (by simp [files]) _ w
      hOutside
  · intro list
    rw [writeCookies_eq]
    exact held?_of_keepText_outside hStays (by simp [files]) _ w
      hOutside
  · intro other hOther hSame tree otherTree place
    exact locate_url_ne hNamed hOther hSame
  · exact files_of_absolute

/- A path inside, two plain names, and an absolute name. -/
theorem files_of_address_of_names :
    Address.StaysInside ⟨"a/../b", "."⟩ ∧
      (∀ file ∈ files (.ofText "state") ⟨"a/../b", "."⟩,
        ∀ tree place,
          FileTree.locate tree file = .ok place →
            IsInside (.ofText "state") place) ∧
      (∀ tree place,
        FileTree.locate tree
            (url (.ofText "state") ⟨"tab", "url.txt"⟩) =
          .ok place →
        FileTree.locate tree
            (url (.ofText "state") ⟨"tab", "tab"⟩) ≠
          .ok place) ∧
      files (.ofText "state") ⟨"/b", "t"⟩ =
        files (.ofText "other") ⟨"/b", "t"⟩ := by
  have hStays : Address.StaysInside ⟨"a/../b", "."⟩ := by
    decide
  have hNamed : Address.IsNamed ⟨"tab", "url.txt"⟩ := by
    decide
  have hOther : Address.IsNamed ⟨"tab", "tab"⟩ := by
    decide
  refine ⟨hStays, ?_, ?_, ?_⟩
  · exact ((files_of_address (.ofText "state") _).1 hStays).1
  · exact fun tree =>
      ((files_of_address (.ofText "state") _).2.1 hNamed).2 _ hOther
        (by decide) tree tree
  · exact (files_of_address (.ofText "state") ⟨"/b", "t"⟩).2.2
      (by decide) (.ofText "other")

/- A world in which the names of the next tab lead upwards. -/
def climbingWorld : World :=
  .start
    ((FileTree.empty.install ["state", "active-browser.txt"]
      (.file (.text "..\n"))).install ["state", "active-tab.txt"]
        (.file (.text "..")))
    .blank

/-
  The address of that tab is kept outside of the folder of the
  browsers, and two tabs may have one file for an address.
-/
theorem activeAddress_escapes :
    (activeAddress (.ofText "state")).run' climbingWorld =
        some ⟨"..", ".."⟩ ∧
      ((writeUrl (.ofText "state") ⟨"..", ".."⟩ "u").left
          climbingWorld).files.held? ["state", "url.txt"] =
        some (.text "u") ∧
      ¬IsInside (.ofText "state") ["state", "url.txt"] ∧
      (⟨"a/tab/b", "c"⟩ : Address) ≠ ⟨"a", "b/tab/c"⟩ ∧
      url (.ofText "state") ⟨"a/tab/b", "c"⟩ =
        url (.ofText "state") ⟨"a", "b/tab/c"⟩ := by
  decide +kernel

end Folder

end Replay
