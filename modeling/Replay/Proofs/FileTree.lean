import Mathlib.Order.Defs.Unbundled
import Mathlib.Tactic.SplitIfs
import Replay.FileTree
import Replay.Proofs.Path

/-
  This file proves what the operations on a tree of files
  change and what they leave alone.

  Key definitions include:
    * `FileTree.KeepsFolders`
    * `FileTree.goal`
    * `FileTree.RewrittenAt`
    * `FileTree.Furnished`
    * `FileTree.FurnishedAlong`
    * `FileTree.standing?`

  Main results:
    * `FileTree.goal_of_locate`
    * `FileTree.goal_child`
    * `FileTree.rewrittenAt_of_write`
    * `FileTree.furnishedAlong_makeFolders`
-/

------------------------------------------------------------
-- Entries
------------------------------------------------------------

namespace Replay

/- A text without carriage returns is read as it is. -/
theorem Content.lines_text
    {s : String}
    (hReturn : '\r' ∉ s.toList) :
    lines (.text s) = .ok s := by
  rw [lines, Text.unifyNewlines_of_not_mem hReturn,
    String.ofList_toList]

namespace FileTree

@[simp] theorem entryAt?_of_isTop
    (tree : FileTree)
    {place : Place}
    (hTop : isTop place = true) :
    tree.entryAt? place = some .folder := by
  simp [entryAt?, hTop]

/- What is no folder is no top. -/
theorem isTop_of_entryAt?_ne
    {tree : FileTree}
    {place : Place}
    (hEntry : tree.entryAt? place ≠ some .folder) :
    isTop place = false := by
  cases hTop : isTop place with
  | true =>
      exact absurd (entryAt?_of_isTop tree hTop) hEntry
  | false =>
      rfl

/- Entries that were filtered by place are still found. -/
theorem lookup_filter_ne
    {place other : Place}
    (hOther : other ≠ place)
    (entries : List (Place × Entry)) :
    (entries.filter fun (p, _) => p != place).lookup other =
      entries.lookup other := by
  induction entries with
  | nil =>
      rfl
  | cons entry rest ih =>
      rcases entry with ⟨p, kept⟩
      by_cases hPlace : p = place
      · subst hPlace
        have hKey : (other == p) = false :=
          beq_false_of_ne hOther
        simp [ih, List.lookup_cons, hKey]
      · simp [hPlace, List.lookup_cons, ih]

/- What is put at a place stands there. -/
theorem entryAt?_put_self
    (tree : FileTree)
    {place : Place}
    (hTop : isTop place = false)
    (entry : Entry) :
    (tree.put place entry).entryAt? place = some entry := by
  simp [entryAt?, put, hTop]

/- At any other place stands what stood there. -/
theorem entryAt?_put_of_ne
    (tree : FileTree)
    {place other : Place}
    (hOther : other ≠ place)
    (entry : Entry) :
    (tree.put place entry).entryAt? other =
      tree.entryAt? other := by
  have hKey : (other == place) = false :=
    beq_false_of_ne hOther
  simp [entryAt?, put, List.lookup_cons, hKey,
    lookup_filter_ne hOther]

------------------------------------------------------------
-- Following Paths
------------------------------------------------------------

/- Every folder of a tree is a folder of the other one. -/
def KeepsFolders (before after : FileTree) : Prop :=
  ∀ place,
    before.entryAt? place = some .folder →
      after.entryAt? place = some .folder

/- Only a folder can be left by a name. -/
theorem entryAt?_of_follow_cons
    {tree : FileTree}
    {here place : Place}
    {name : String}
    {rest : List String}
    (hFollow : tree.follow here (name :: rest) = .ok place) :
    tree.entryAt? here = some .folder := by
  cases hHere : tree.entryAt? here with
  | none =>
      simp [follow, hHere] at hFollow
  | some entry =>
      cases entry with
      | file content =>
          simp [follow, hHere] at hFollow
      | pipe =>
          simp [follow, hHere] at hFollow
      | folder =>
          rfl

/- A way that leads somewhere is still there among more folders. -/
theorem follow_of_keepsFolders
    {before after : FileTree}
    (hFolders : KeepsFolders before after)
    {names : List String}
    {here place : Place}
    (hFollow : before.follow here names = .ok place) :
    after.follow here names = .ok place := by
  induction names generalizing here with
  | nil =>
      exact hFollow
  | cons name rest ih =>
      have hHere := entryAt?_of_follow_cons hFollow
      simp only [follow, hHere] at hFollow
      simp only [follow, hFolders here hHere]
      split_ifs at hFollow ⊢ <;> exact ih hFollow

/- Where folders are kept, paths lead where they led. -/
theorem locate_of_keepsFolders
    {before after : FileTree}
    (hFolders : KeepsFolders before after)
    {path : Path}
    {place : Place}
    (hLocate : before.locate path = .ok place) :
    after.locate path = .ok place := by
  unfold locate at hLocate ⊢
  split_ifs at hLocate ⊢ <;>
    exact follow_of_keepsFolders hFolders hLocate

/-
  The place that names lead to from another one, if they lead
  anywhere.  What stands in a tree has no part in it.
-/
def destination (here : Place) : List String → Place
  | [] => here
  | name :: rest =>
    if name = "" ∨ name = "." then destination here rest
    else if name = ".." then destination (above here) rest
    else destination (here ++ [name]) rest

/- The place that a path leads to, if it leads anywhere. -/
def goal (path : Path) : Place :=
  destination (if path.root = "" then [] else outside) path.names

/- A path that can be followed leads to its destination. -/
theorem destination_of_follow
    {tree : FileTree}
    {here place : Place}
    {names : List String}
    (hFollow : tree.follow here names = .ok place) :
    place = destination here names := by
  induction names generalizing here with
  | nil =>
      cases hFollow
      rfl
  | cons name rest ih =>
      have hHere := entryAt?_of_follow_cons hFollow
      simp only [follow, hHere] at hFollow
      simp only [destination]
      split_ifs at hFollow ⊢ <;> exact ih hFollow

/- In every tree a path leads to its goal or nowhere. -/
theorem goal_of_locate
    {tree : FileTree}
    {path : Path}
    {place : Place}
    (hLocate : tree.locate path = .ok place) :
    place = goal path := by
  unfold locate at hLocate
  split_ifs at hLocate with hNul hLong hRoot
  all_goals simpa [goal, hRoot] using destination_of_follow hLocate

/- A path is followed part by part. -/
theorem destination_append
    (here : Place)
    (names rest : List String) :
    destination here (names ++ rest) =
      destination (destination here names) rest := by
  induction names generalizing here with
  | nil =>
      rfl
  | cons name names ih =>
      simp only [List.cons_append, destination]
      split_ifs <;> exact ih _

/- Plain names lead down, one after another. -/
theorem destination_of_isName
    {names : List String}
    (hNames : ∀ name ∈ names, Path.IsName name)
    (here : Place) :
    destination here names = here ++ names := by
  induction names generalizing here with
  | nil =>
      simp [destination]
  | cons name rest ih =>
      rcases hNames name List.mem_cons_self with
        ⟨hEmpty, hDot, hDots, _, _⟩
      simp only [destination, hEmpty, hDot, hDots, or_self,
        if_false]
      rw [ih fun other hOther =>
        hNames other (List.mem_cons_of_mem _ hOther)]
      simp

/- The place of names below a path. -/
theorem goal_below_eq
    (base : Path)
    (names : List String) :
    goal (base.below names) = destination (goal base) names :=
  destination_append _ _ _

/- Plain names lie straight below it. -/
theorem goal_below
    {names : List String}
    (hNames : ∀ name ∈ names, Path.IsName name)
    (base : Path) :
    goal (base.below names) = goal base ++ names := by
  rw [goal_below_eq, destination_of_isName hNames]

/- The goal of a named child lies below that of its folder. -/
theorem goal_child
    {name : String}
    (hName : Path.IsName name)
    (base : Path) :
    goal (base.child name) = goal base ++ [name] := by
  rw [Path.child_of_isName base hName]
  exact goal_below (by simpa using hName) base

/- Paths with different goals lead to different places. -/
theorem locate_ne_of_goal_ne
    {tree otherTree : FileTree}
    {path other : Path}
    (hGoals : goal path ≠ goal other)
    {place : Place}
    (hLocate : tree.locate path = .ok place) :
    otherTree.locate other ≠ .ok place := by
  intro hOther
  exact hGoals
    ((goal_of_locate hLocate).symm.trans (goal_of_locate hOther))

/- So do paths that end in different names. -/
theorem locate_child_ne
    {tree other : FileTree}
    {base otherBase : Path}
    {name otherName : String}
    (hName : Path.IsName name)
    (hOtherName : Path.IsName otherName)
    (hNames : name ≠ otherName)
    {place : Place}
    (hLocate : tree.locate (base.child name) = .ok place) :
    other.locate (otherBase.child otherName) ≠
      .ok place := by
  refine locate_ne_of_goal_ne ?_ hLocate
  rw [goal_child hName, goal_child hOtherName]
  intro hSame
  have hLast := (List.append_inj' hSame rfl).2
  exact hNames (by simpa using hLast)

/- So do files of one name in folders of different names. -/
theorem locate_grandchild_ne
    {tree other : FileTree}
    {base otherBase : Path}
    {outer otherOuter name : String}
    (hOuter : Path.IsName outer)
    (hOtherOuter : Path.IsName otherOuter)
    (hName : Path.IsName name)
    (hNames : outer ≠ otherOuter)
    {place : Place}
    (hLocate :
      tree.locate ((base.child outer).child name) =
        .ok place) :
    other.locate ((otherBase.child otherOuter).child name) ≠
      .ok place := by
  refine locate_ne_of_goal_ne ?_ hLocate
  rw [goal_child hName, goal_child hName, goal_child hOuter,
    goal_child hOtherOuter]
  intro hSame
  have hOuters := (List.append_inj' hSame rfl).1
  have hLast := (List.append_inj' hOuters rfl).2
  exact hNames (by simpa using hLast)

------------------------------------------------------------
-- Writing
------------------------------------------------------------

/- What stands where a path leads to. -/
def standing?
    (tree : FileTree)
    (path : Path) : Option Entry :=
  match tree.find path with
  | .ok (_, entry) => some entry
  | .error _ => none

/- What the file at a place holds. -/
def held?
    (tree : FileTree)
    (place : Place) : Option Content :=
  match tree.entryAt? place with
  | some (.file content) => some content
  | _ => none

/- What stands at a path is the entry at its place. -/
theorem standing?_eq_some_iff
    {tree : FileTree}
    {path : Path}
    {entry : Entry} :
    tree.standing? path = some entry ↔
      ∃ place,
        tree.locate path = .ok place ∧
          tree.entryAt? place = some entry := by
  unfold standing? find
  cases hLocate : tree.locate path with
  | error fault =>
      simp [bind, Except.bind]
  | ok place =>
      cases hEntry : tree.entryAt? place <;>
        simp [bind, Except.bind, pure, Except.pure, hEntry,
          throw, throwThe, MonadExceptOf.throw]

/- What stands somewhere is found there. -/
theorem exists_find_of_standing?
    {tree : FileTree}
    {path : Path}
    {entry : Entry}
    (hStanding : tree.standing? path = some entry) :
    ∃ place, tree.find path = .ok (place, entry) := by
  unfold standing? at hStanding
  cases hFind : tree.find path with
  | error fault =>
      rw [hFind] at hStanding
      cases hStanding
  | ok found =>
      rw [hFind] at hStanding
      cases hStanding
      exact ⟨found.1, rfl⟩

/- Where something stands there is an entry. -/
theorem hasEntry_of_standing?
    {tree : FileTree}
    {path : Path}
    {entry : Entry}
    (hStanding : tree.standing? path = some entry) :
    tree.hasEntry path = .ok true := by
  rcases exists_find_of_standing? hStanding with ⟨place, hFind⟩
  simp [hasEntry, hFind]

/- A file that stands somewhere can be read there. -/
theorem read_of_standing?_file
    {tree : FileTree}
    {path : Path}
    {content : Content}
    (hStanding :
      tree.standing? path = some (.file content)) :
    tree.read path = .ok content := by
  rcases exists_find_of_standing? hStanding with ⟨place, hFind⟩
  simp [read, hFind, bind, Except.bind, pure, Except.pure]

/- A pipe that stands somewhere holds nothing. -/
theorem read_of_standing?_pipe
    {tree : FileTree}
    {path : Path}
    (hStanding : tree.standing? path = some .pipe) :
    tree.read path = .ok (.text "") := by
  rcases exists_find_of_standing? hStanding with ⟨place, hFind⟩
  simp [read, hFind, bind, Except.bind, pure, Except.pure]

/-
  Nothing differs but what stands where a path leads to, and
  that is no folder, before or after.
-/
def RewrittenAt
    (path : Path)
    (before after : FileTree) : Prop :=
  (∀ place,
    after.entryAt? place = some .folder ↔
      before.entryAt? place = some .folder) ∧
  ∀ place,
    before.locate path ≠ .ok place →
      after.entryAt? place = before.entryAt? place

namespace RewrittenAt

variable {path : Path}

theorem keepsFolders
    {before after : FileTree}
    (hRewritten : RewrittenAt path before after) :
    KeepsFolders before after :=
  fun place => (hRewritten.1 place).mpr

/- The path leads to the same place as before. -/
theorem locate_ne
    {before after : FileTree}
    (hRewritten : RewrittenAt path before after)
    {other : Path}
    {place : Place}
    (hLocate : before.locate other ≠ .ok place) :
    after.locate other ≠ .ok place := by
  intro hAfter
  exact hLocate
    (locate_of_keepsFolders
      (fun inner => (hRewritten.1 inner).mp) hAfter)

instance : IsPreorder FileTree (RewrittenAt path) where
  refl _ := ⟨fun _ => Iff.rfl, fun _ _ => rfl⟩
  trans _ _ _ hFirst hSecond :=
    ⟨fun place => (hSecond.1 place).trans (hFirst.1 place),
      fun place hPlace =>
        (hSecond.2 place (hFirst.locate_ne hPlace)).trans
          (hFirst.2 place hPlace)⟩

/- What stands elsewhere still stands there. -/
theorem standing?_of_ne
    {before after : FileTree}
    (hRewritten : RewrittenAt path before after)
    {other : Path}
    {entry : Entry}
    (hOther :
      ∀ place,
        before.locate path = .ok place →
          before.locate other ≠ .ok place)
    (hStanding : before.standing? other = some entry) :
    after.standing? other = some entry := by
  rcases standing?_eq_some_iff.mp hStanding with
    ⟨place, hLocate, hEntry⟩
  have hPath : before.locate path ≠ .ok place :=
    fun hPath => hOther place hPath hLocate
  refine standing?_eq_some_iff.mpr ⟨place, ?_, ?_⟩
  · exact locate_of_keepsFolders
      hRewritten.keepsFolders hLocate
  · rw [hRewritten.2 place hPath, hEntry]

end RewrittenAt

/-
  What comes of writing: it may be refused; a pipe takes what
  is written and leaves the tree as it is; otherwise the file
  holds the content, or a beginning of it if the disk has no
  room for more.
-/
inductive Written
    (before : FileTree)
    (path : Path)
    (content : Content) :
    Except Fault Unit × FileTree → Prop where
  | refused {fault : Fault} :
    Written before path content (.error fault, before)
  | piped
    {place : Place}
    (hLocate : before.locate path = .ok place)
    (hPipe : before.entryAt? place = some .pipe) :
    Written before path content (.ok (), before)
  | whole
    {place : Place}
    (hLocate : before.locate path = .ok place)
    (hFolder : before.entryAt? place ≠ some .folder)
    (hPipe : before.entryAt? place ≠ some .pipe) :
    Written before path content
      (.ok (), before.put place (.file content))
  | cut
    {place : Place}
    {room : Nat}
    (hLocate : before.locate path = .ok place)
    (hFolder : before.entryAt? place ≠ some .folder)
    (hPipe : before.entryAt? place ≠ some .pipe)
    (hFlaw : before.flaws.lookup place = some (.full room))
    (hRoom : room ≤ content.bytes.length) :
    Written before path content
      (.error .noSpace,
        before.put place (.file (content.beginning room)))

/- Every write is one of those that are told apart. -/
theorem written_write
    (before : FileTree)
    (path : Path)
    (content : Content) :
    Written before path content (before.write path content) := by
  unfold write
  split
  · exact .refused
  · rename_i place hLocate
    split
    · exact .refused
    · exact .refused
    · rename_i hPipe _
      exact .piped hLocate hPipe
    · rename_i hFlaw hFolder hPipe
      split_ifs with hRoom
      · exact .whole hLocate hFolder hPipe
      · exact .cut hLocate hFolder hPipe hFlaw
          (Nat.le_of_not_lt hRoom)
    · rename_i hFolder hPipe
      exact .whole hLocate hFolder hPipe

/- A file that is put where no folder stands is all that differs. -/
theorem rewrittenAt_put
    {before : FileTree}
    {path : Path}
    {place : Place}
    (hLocate : before.locate path = .ok place)
    (hFolder : before.entryAt? place ≠ some .folder)
    (content : Content) :
    RewrittenAt path before (before.put place (.file content)) := by
  have hTop := isTop_of_entryAt?_ne hFolder
  constructor
  · intro other
    by_cases hOther : other = place
    · subst hOther
      simp [entryAt?_put_self before hTop, hFolder]
    · rw [entryAt?_put_of_ne before hOther]
  · intro other hOther
    refine entryAt?_put_of_ne before ?_ _
    rintro rfl
    exact hOther hLocate

/- Writing changes one file at most, whatever comes of it. -/
theorem rewrittenAt_write
    (before : FileTree)
    (path : Path)
    (content : Content) :
    RewrittenAt path before (before.write path content).2 := by
  have hWritten := written_write before path content
  generalize before.write path content = result at hWritten ⊢
  cases hWritten with
  | refused =>
      exact refl_of (RewrittenAt path) before
  | piped hLocate hPipe =>
      exact refl_of (RewrittenAt path) before
  | whole hLocate hFolder hPipe =>
      exact rewrittenAt_put hLocate hFolder content
  | cut hLocate hFolder hPipe hFlaw hRoom =>
      exact rewrittenAt_put hLocate hFolder _

/- A write changes what stands at its path at most. -/
theorem rewrittenAt_of_write
    {before after : FileTree}
    {path : Path}
    {content : Content}
    {outcome : Except Fault Unit}
    (hWrite : before.write path content = (outcome, after)) :
    RewrittenAt path before after := by
  have hRewritten := rewrittenAt_write before path content
  rwa [hWrite] at hRewritten

/- What was put where a path leads to stands there. -/
theorem standing?_put
    {before : FileTree}
    {path : Path}
    {place : Place}
    (hLocate : before.locate path = .ok place)
    (hFolder : before.entryAt? place ≠ some .folder)
    (content : Content) :
    (before.put place (.file content)).standing? path =
      some (.file content) :=
  standing?_eq_some_iff.mpr
    ⟨place,
      locate_of_keepsFolders
        (rewrittenAt_put hLocate hFolder content).keepsFolders
        hLocate,
      entryAt?_put_self before (isTop_of_entryAt?_ne hFolder) _⟩

/- A pipe takes what is written and leaves the tree as it is. -/
theorem eq_of_write_pipe
    {before after : FileTree}
    {path : Path}
    {content : Content}
    {outcome : Except Fault Unit}
    (hPipe : before.standing? path = some .pipe)
    (hWrite : before.write path content = (outcome, after)) :
    after = before := by
  have hWritten := written_write before path content
  rw [hWrite] at hWritten
  rcases standing?_eq_some_iff.mp hPipe with
    ⟨place, hLocate, hEntry⟩
  cases hWritten with
  | refused =>
      rfl
  | piped hOther hOtherPipe =>
      rfl
  | whole hOther hFolder hNone =>
      rw [hLocate] at hOther
      cases hOther
      exact absurd hEntry hNone
  | cut hOther hFolder hNone hFlaw hRoom =>
      rw [hLocate] at hOther
      cases hOther
      exact absurd hEntry hNone

/- What was written is there, if no pipe took it. -/
theorem standing?_of_write
    {before after : FileTree}
    {path : Path}
    {content : Content}
    (hPipe : before.standing? path ≠ some .pipe)
    (hWrite : before.write path content = (.ok (), after)) :
    after.standing? path = some (.file content) := by
  have hWritten := written_write before path content
  rw [hWrite] at hWritten
  cases hWritten with
  | piped hLocate hEntry =>
      exact absurd (standing?_eq_some_iff.mpr ⟨_, hLocate, hEntry⟩)
        hPipe
  | whole hLocate hFolder hNone =>
      exact standing?_put hLocate hFolder content

/- A file holds a beginning of a content, all of it at most. -/
def Torn
    (tree : FileTree)
    (path : Path)
    (content : Content) : Prop :=
  ∃ room,
    room ≤ content.bytes.length ∧
      tree.standing? path =
        some (.file (content.beginning room))

/- What a write that fails leaves: all as it was, or a torn file. -/
theorem torn_of_write
    {before after : FileTree}
    {path : Path}
    {content : Content}
    {fault : Fault}
    (hWrite : before.write path content = (.error fault, after)) :
    after = before ∨ after.Torn path content := by
  have hWritten := written_write before path content
  rw [hWrite] at hWritten
  cases hWritten with
  | refused =>
      exact .inl rfl
  | cut hLocate hFolder hPipe hFlaw hRoom =>
      exact .inr ⟨_, hRoom, standing?_put hLocate hFolder _⟩

/- The disk of a tree has no flaw. -/
def IsSound (tree : FileTree) : Prop :=
  tree.flaws = []

@[simp] theorem flaws_put
    (tree : FileTree)
    (place : Place)
    (entry : Entry) :
    (tree.put place entry).flaws = tree.flaws := rfl

/- Writing does not wear out the disk. -/
@[simp] theorem flaws_write
    (tree : FileTree)
    (path : Path)
    (content : Content) :
    (tree.write path content).2.flaws = tree.flaws := by
  have hWritten := written_write tree path content
  generalize tree.write path content = result at hWritten ⊢
  cases hWritten <;> rfl

/- A disk without flaws refuses a write as a whole. -/
theorem eq_of_write_error
    {before after : FileTree}
    (hSound : before.IsSound)
    {path : Path}
    {content : Content}
    {fault : Fault}
    (hWrite : before.write path content = (.error fault, after)) :
    after = before := by
  have hWritten := written_write before path content
  rw [hWrite] at hWritten
  cases hWritten with
  | refused =>
      rfl
  | cut hLocate hFolder hPipe hFlaw hRoom =>
      rw [hSound] at hFlaw
      cases hFlaw

/- What is a file can be written on a disk without flaws. -/
theorem exists_write_of_standing?
    {tree : FileTree}
    (hSound : tree.IsSound)
    {path : Path}
    {old : Content}
    (hStanding : tree.standing? path = some (.file old))
    (content : Content) :
    ∃ after,
      tree.write path content = (.ok (), after) ∧
        after.standing? path = some (.file content) := by
  rcases standing?_eq_some_iff.mp hStanding with
    ⟨place, hLocate, hEntry⟩
  have hWrite :
      tree.write path content =
        (.ok (), tree.put place (.file content)) := by
    rw [IsSound] at hSound
    simp [write, hLocate, hEntry, hSound]
  exact ⟨_, hWrite, standing?_of_write (by simp [hStanding]) hWrite⟩

------------------------------------------------------------
-- Making Folders
------------------------------------------------------------

/- Nothing is new but folders where nothing stood. -/
def Furnished (before after : FileTree) : Prop :=
  ∀ place,
    after.entryAt? place = before.entryAt? place ∨
      before.entryAt? place = none ∧
        after.entryAt? place = some .folder

namespace Furnished

/- What stood somewhere still stands there. -/
theorem entryAt?_eq_some
    {before after : FileTree}
    (hFurnished : Furnished before after)
    {place : Place}
    {entry : Entry}
    (hEntry : before.entryAt? place = some entry) :
    after.entryAt? place = some entry := by
  rcases hFurnished place with hSame | ⟨hNone, _⟩
  · rw [hSame, hEntry]
  · simp [hEntry] at hNone

theorem keepsFolders
    {before after : FileTree}
    (hFurnished : Furnished before after) :
    KeepsFolders before after :=
  fun _ hFolder => hFurnished.entryAt?_eq_some hFolder

/- Files are neither made nor changed. -/
theorem held?_eq
    {before after : FileTree}
    (hFurnished : Furnished before after)
    (place : Place) :
    after.held? place = before.held? place := by
  rcases hFurnished place with hSame | ⟨hNone, hFolder⟩
  · simp [held?, hSame]
  · simp [held?, hNone, hFolder]

/- What stood somewhere stands there among new folders. -/
theorem standing?_eq_some
    {before after : FileTree}
    (hFurnished : Furnished before after)
    {path : Path}
    {entry : Entry}
    (hStanding : before.standing? path = some entry) :
    after.standing? path = some entry := by
  rcases standing?_eq_some_iff.mp hStanding with
    ⟨place, hLocate, hEntry⟩
  exact standing?_eq_some_iff.mpr
    ⟨place,
      locate_of_keepsFolders hFurnished.keepsFolders hLocate,
      hFurnished.entryAt?_eq_some hEntry⟩

instance : IsPreorder FileTree Furnished where
  refl _ _ := Or.inl rfl
  trans before middle after hFirst hSecond place := by
    rcases hFirst place with hSame | ⟨hNone, hFolder⟩
    · rw [← hSame]
      exact hSecond place
    · exact Or.inr
        ⟨hNone, hSecond.entryAt?_eq_some hFolder⟩

end Furnished

/- What is made stands where nothing stood before. -/
theorem of_make
    {before after : FileTree}
    {path : Path}
    {entry : Entry}
    (hMake : before.make path entry = .ok after) :
    ∃ place,
      before.locate path = .ok place ∧
        before.entryAt? place = none ∧
        isTop place = false ∧
        after = before.put place entry := by
  unfold make at hMake
  cases hLocate : before.locate path with
  | error fault =>
      simp [hLocate, bind, Except.bind] at hMake
  | ok place =>
      simp only [hLocate, bind, Except.bind] at hMake
      split at hMake <;>
        simp only [throw, throwThe, MonadExceptOf.throw, pure,
          Except.pure, reduceCtorEq, Except.ok.injEq] at hMake
      rename_i hNone _
      have hFolder : before.entryAt? place ≠ some .folder := by
        simp [hNone]
      exact ⟨place, rfl, hNone, isTop_of_entryAt?_ne hFolder,
        hMake.symm⟩

/- A folder is made, or the tree is as it was. -/
theorem makeFolder_cases
    (tree : FileTree)
    (path : Path) :
    (tree.makeFolder path).2 = tree ∨
      tree.make path .folder = .ok (tree.makeFolder path).2 := by
  unfold makeFolder
  cases hMake : tree.make path .folder with
  | error fault =>
      exact .inl rfl
  | ok made =>
      exact .inr rfl

/- One folder more is furniture. -/
theorem furnished_makeFolder
    (tree : FileTree)
    (path : Path) :
    Furnished tree (tree.makeFolder path).2 := by
  rcases makeFolder_cases tree path with hSame | hMake
  · rw [hSame]
    exact refl_of Furnished tree
  · rcases of_make hMake with ⟨place, _, hEntry, hTop, hMade⟩
    rw [hMade]
    intro other
    by_cases hOther : other = place
    · subst hOther
      exact Or.inr ⟨hEntry, entryAt?_put_self tree hTop .folder⟩
    · exact Or.inl (entryAt?_put_of_ne tree hOther .folder)

/- It stands where the path leads to. -/
theorem entryAt?_makeFolder_of_ne
    (tree : FileTree)
    {path : Path}
    {place : Place}
    (hPlace : place ≠ goal path) :
    (tree.makeFolder path).2.entryAt? place =
      tree.entryAt? place := by
  rcases makeFolder_cases tree path with hSame | hMake
  · rw [hSame]
  · rcases of_make hMake with ⟨there, hLocate, _, _, hMade⟩
    rw [← goal_of_locate hLocate] at hPlace
    rw [hMade]
    exact entryAt?_put_of_ne tree hPlace .folder

/- New furniture stands on the way that a path takes. -/
structure FurnishedAlong
    (path : Path)
    (before after : FileTree) : Prop where
  furnished : Furnished before after
  onTheWay : ∀ place,
    after.entryAt? place = before.entryAt? place ∨
      ∃ count, place = goal (path.upTo count)

namespace FurnishedAlong

variable {path : Path}

instance : IsPreorder FileTree (FurnishedAlong path) where
  refl tree :=
    ⟨refl_of Furnished tree, fun _ => Or.inl rfl⟩
  trans before middle after hFirst hSecond := by
    refine ⟨trans_of Furnished hFirst.furnished hSecond.furnished,
      fun place => ?_⟩
    rcases hSecond.onTheWay place with hSame | hWay
    · rw [hSame]
      exact hFirst.onTheWay place
    · exact Or.inr hWay

end FurnishedAlong

/- A folder that is made lies along its path. -/
theorem furnishedAlong_makeFolder
    (tree : FileTree)
    (path : Path)
    (count : Nat) :
    FurnishedAlong path tree
      (tree.makeFolder (path.upTo count)).2 := by
  refine ⟨furnished_makeFolder tree _, fun place => ?_⟩
  by_cases hPlace : place = goal (path.upTo count)
  · exact Or.inr ⟨count, hPlace⟩
  · exact Or.inl (entryAt?_makeFolder_of_ne tree hPlace)

/- Folders that are made by the way are furniture too. -/
theorem furnishedAlong_makeFoldersUpTo
    (tree : FileTree)
    (path : Path)
    (count : Nat) :
    FurnishedAlong path tree
      (tree.makeFoldersUpTo path count).2 := by
  induction count generalizing tree with
  | zero =>
      exact furnishedAlong_makeFolder tree path 0
  | succ count ih =>
      have hHere := furnishedAlong_makeFolder tree path (count + 1)
      simp only [makeFoldersUpTo]
      split
      · rename_i made hMade
        rw [show tree.makeFolder (path.upTo (count + 1)) = _
          from hMade] at hHere
        have hAround := ih made
        split
        · rename_i around hMadeAround
          rw [hMadeAround] at hAround
          exact trans_of (FurnishedAlong path) hHere
            (trans_of (FurnishedAlong path) hAround
              (furnishedAlong_makeFolder around path (count + 1)))
        · exact trans_of (FurnishedAlong path) hHere hAround
      · exact hHere

/- So do all folders on the way. -/
theorem furnishedAlong_makeFolders
    (tree : FileTree)
    (path : Path) :
    FurnishedAlong path tree (tree.makeFolders path).2 :=
  furnishedAlong_makeFoldersUpTo tree path path.names.length

theorem furnished_makeFolders
    (tree : FileTree)
    (path : Path) :
    Furnished tree (tree.makeFolders path).2 :=
  (furnishedAlong_makeFolders tree path).furnished

end FileTree

end Replay
