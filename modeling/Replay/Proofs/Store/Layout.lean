import Replay.Proofs.FileTree.Below
import Replay.Proofs.Store

/-
  This file proves where the files of a store lie, and that
  keeping a text in one of them leaves alone what is not on
  the way to it.

  Key definitions include:
    * `Address.IsNamed`
    * `Folder.Item`

  Main results:
    * `Folder.Item.eq_of_prefix_names`
    * `Folder.url_of_isNamed`
    * `entryAt?_of_keepText`
    * `standing?_of_keepText_of_ne_pipe`
-/

------------------------------------------------------------
-- Layout
------------------------------------------------------------

namespace Replay

open Play

/- Browser and tab are called by one plain name each. -/
structure Address.IsNamed (addr : Address) : Prop where
  browser : Path.IsName addr.browser
  tab : Path.IsName addr.tab

instance (addr : Address) : Decidable addr.IsNamed :=
  decidable_of_iff
    (Path.IsName addr.browser ∧ Path.IsName addr.tab)
    ⟨fun hBoth => ⟨hBoth.1, hBoth.2⟩,
      fun hNamed => ⟨hNamed.browser, hNamed.tab⟩⟩

namespace Folder

/-
  What a folder has a file for: the address of a tab, and the
  cookies of a browser, as JSON or as lines.
-/
inductive Item where
  | url (addr : Address)
  | cookies (browser : String)
  | cookieLines (browser : String)
  deriving DecidableEq

namespace Item

/- The names on the way to the file. -/
def names : Item → List String
  | url addr =>
    ["browser", addr.browser, "tab", addr.tab, "url.txt"]
  | cookies browser => ["browser", browser, "cookie.json"]
  | cookieLines browser => ["browser", browser, "cookie.txt"]

/- It belongs to what is called by plain names. -/
def IsNamed : Item → Prop
  | url addr => addr.IsNamed
  | cookies browser => Path.IsName browser
  | cookieLines browser => Path.IsName browser

theorem names_ne_nil (item : Item) :
    item.names ≠ [] := by
  cases item <;> simp [names]

/- No file is on the way to another one, nor in its place. -/
theorem eq_of_prefix_names
    {item other : Item}
    (hPrefix : item.names <+: other.names) :
    item = other := by
  cases item with
  | url addr =>
      cases other with
      | url otherAddr =>
          rcases addr with ⟨browser, tab⟩
          rcases otherAddr with ⟨otherBrowser, otherTab⟩
          simpa [names, List.cons_prefix_cons] using hPrefix
      | _ =>
          simp [names, List.cons_prefix_cons] at hPrefix
  | cookies browser =>
      cases other with
      | cookies otherBrowser =>
          simpa [names, List.cons_prefix_cons] using hPrefix
      | _ =>
          simp [names, List.cons_prefix_cons] at hPrefix
  | cookieLines browser =>
      cases other with
      | cookieLines otherBrowser =>
          simpa [names, List.cons_prefix_cons] using hPrefix
      | _ =>
          simp [names, List.cons_prefix_cons] at hPrefix

end Item

/- All other names of a store are plain. -/
theorem isName_fixed :
    ∀ name ∈
      ["browser", "tab", "url.txt", "cookie.json", "cookie.txt"],
      Path.IsName name := by
  decide

/- The file of a named item lies at plain names. -/
theorem Item.isName_names
    {item : Item}
    (hNamed : item.IsNamed) :
    ∀ name ∈ item.names, Path.IsName name := by
  have hTop := isName_fixed "browser" (by simp)
  cases item with
  | url addr =>
      have hTab := isName_fixed "tab" (by simp)
      have hLast := isName_fixed "url.txt" (by simp)
      simp only [names, List.forall_mem_cons]
      exact ⟨hTop, hNamed.browser, hTab, hNamed.tab, hLast,
        by simp⟩
  | cookies browser =>
      have hLast := isName_fixed "cookie.json" (by simp)
      simp only [names, List.forall_mem_cons]
      exact ⟨hTop, hNamed, hLast, by simp⟩
  | cookieLines browser =>
      have hLast := isName_fixed "cookie.txt" (by simp)
      simp only [names, List.forall_mem_cons]
      exact ⟨hTop, hNamed, hLast, by simp⟩

section

variable {addr : Address}

/- The way to the folder of a named browser. -/
theorem browser_of_isName
    (hName : Path.IsName addr.browser)
    (state : Path) :
    browser state addr = state.below ["browser", addr.browser] := by
  rw [browser, Path.child_of_isName _ hName,
    Path.child_of_isName _ (isName_fixed "browser" (by simp)),
    Path.below_below]
  rfl

/- The ways to the files of a named tab and its browser. -/
theorem url_of_isNamed
    (hNamed : addr.IsNamed)
    (state : Path) :
    url state addr = state.below (Item.url addr).names := by
  rw [url, browser_of_isName hNamed.browser,
    Path.child_of_isName _ (isName_fixed "tab" (by simp)),
    Path.child_of_isName _ hNamed.tab,
    Path.child_of_isName _ (isName_fixed "url.txt" (by simp))]
  simp only [Path.below_below]
  rfl

/- The cookies of a named browser lie below the state. -/
theorem cookies_of_isName
    (hName : Path.IsName addr.browser)
    (state : Path) :
    cookies state addr =
      state.below (Item.cookies addr.browser).names := by
  rw [cookies, browser_of_isName hName,
    Path.child_of_isName _ (isName_fixed "cookie.json" (by simp)),
    Path.below_below]
  rfl

/- So do its lines of cookies. -/
theorem cookieLines_of_isName
    (hName : Path.IsName addr.browser)
    (state : Path) :
    cookieLines state addr =
      state.below (Item.cookieLines addr.browser).names := by
  rw [cookieLines, browser_of_isName hName,
    Path.child_of_isName _ (isName_fixed "cookie.txt" (by simp)),
    Path.below_below]
  rfl

end

end Folder

------------------------------------------------------------
-- Keeping a Text
------------------------------------------------------------

section

variable {base : Path}
variable {names : List String}
variable {text : Text}
variable {w v : World}

/-
  What does not lie on the way from a settled folder to the
  file where a text is kept stays what it is.
-/
theorem entryAt?_of_keepText
    (hNames : ∀ name ∈ names, Path.IsName name)
    (hFile : names ≠ [])
    (hSettled : w.files.Settled base)
    (hKeep : (keepText (base.below names) text).run w = .ok () v)
    {other : List String}
    (hOther : other ≠ [])
    (hAside : ¬other <+: names) :
    v.files.entryAt? (FileTree.goal base ++ other) =
      w.files.entryAt? (FileTree.goal base ++ other) := by
  rcases keepText_ok hKeep with
    ⟨furnished, hAlong, _, hWrite, _⟩
  rw [Path.parent_below base hFile] at hAlong
  have hFurnished :=
    hAlong.entryAt?_below
      (fun name hName => hNames name (List.mem_of_mem_dropLast hName))
      hSettled hOther
      fun hPrefix => hAside (hPrefix.trans (List.dropLast_prefix _))
  rw [← hFurnished]
  refine (FileTree.rewrittenAt_of_write hWrite).2 _ fun hLocate => ?_
  have hSame := FileTree.goal_of_locate hLocate
  rw [FileTree.goal_below hNames] at hSame
  rw [List.append_cancel_left hSame] at hAside
  exact hAside (List.prefix_refl names)

/- The folder itself stays settled. -/
theorem settled_of_keepText
    (hNames : ∀ name ∈ names, Path.IsName name)
    (hFile : names ≠ [])
    (hSettled : w.files.Settled base)
    (hKeep : (keepText (base.below names) text).run w = .ok () v) :
    v.files.Settled base := by
  refine Or.imp_left (standing?_of_keepText_ne hKeep fun _ _ =>
    FileTree.locate_ne_of_goal_ne ?_) hSettled
  rw [FileTree.goal_below hNames]
  simpa using hFile

/- A text is there after it was kept where no pipe stood. -/
theorem standing?_of_keepText_of_ne_pipe
    {file : Path}
    (hPipe :
      w.files.entryAt? (FileTree.goal file) ≠ some .pipe)
    (hKeep : (keepText file text).run w = .ok () v) :
    text = written text ∧
      v.files.standing? file =
        some (.file (.text (written text))) := by
  rcases keepText_ok hKeep with
    ⟨furnished, hAlong, hText, hWrite, _⟩
  refine ⟨hText,
    FileTree.standing?_of_write (fun hBefore => ?_) hWrite⟩
  rcases FileTree.standing?_eq_some_iff.mp hBefore with
    ⟨place, hLocate, hEntry⟩
  rw [FileTree.goal_of_locate hLocate] at hEntry
  rcases hAlong.furnished (FileTree.goal file) with
    hSame | ⟨_, hFolder⟩
  · exact hPipe (hSame.symm.trans hEntry)
  · rw [hFolder] at hEntry
    cases hEntry

end

end Replay
