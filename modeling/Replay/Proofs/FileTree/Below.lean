import Mathlib.Data.List.Infix
import Replay.Proofs.FileTree

/-
  This file proves where new entries can turn up below a
  folder, and what is found where nothing stands.

  Key definitions include:
    * `FileTree.Settled`
    * `Path.Fits`

  Main results:
    * `FileTree.goal_prefix_of_upTo`
    * `FileTree.FurnishedAlong.entryAt?_below`
    * `FileTree.hasEntry_of_vacant`
-/

------------------------------------------------------------
-- The Way to a Folder
------------------------------------------------------------

namespace Replay

namespace FileTree

/- A way without `..` leads down only. -/
theorem prefix_destination
    {names : List String}
    (hDots : ".." ∉ names)
    (here : Place) :
    here <+: destination here names := by
  induction names generalizing here with
  | nil =>
      exact List.prefix_refl here
  | cons name rest ih =>
      have hRest : ".." ∉ rest :=
        fun hMember => hDots (List.mem_cons_of_mem _ hMember)
      have hName : name ≠ ".." :=
        fun hSame => hDots (hSame ▸ List.mem_cons_self)
      simp only [destination, hName, if_false]
      split_ifs
      · exact ih hRest here
      · exact (List.prefix_append here [name]).trans
          (ih hRest (here ++ [name]))

/- The first names of such a path lead to a place on the way. -/
theorem goal_prefix_of_upTo
    {path : Path}
    (hDots : ".." ∉ path.names)
    (count : Nat) :
    goal (path.upTo count) <+: goal path := by
  have hParts :
      goal path =
        destination (goal (path.upTo count))
          (path.names.drop count) := by
    conv_lhs => rw [goal, ← List.take_append_drop count path.names]
    exact destination_append _ _ _
  rw [hParts]
  exact prefix_destination
    (fun hMember => hDots (List.mem_of_mem_drop hMember)) _

/- On the way to a folder there are folders only. -/
theorem entryAt?_of_follow_take
    {tree : FileTree}
    {here place : Place}
    {names : List String}
    (hFollow : tree.follow here names = .ok place)
    (hPlace : tree.entryAt? place = some .folder)
    (count : Nat) :
    tree.entryAt? (destination here (names.take count)) =
      some .folder := by
  induction names generalizing here count with
  | nil =>
      cases hFollow
      simpa [destination] using hPlace
  | cons name rest ih =>
      have hHere := entryAt?_of_follow_cons hFollow
      cases count with
      | zero =>
          exact hHere
      | succ count =>
          simp only [follow, hHere] at hFollow
          simp only [List.take_succ_cons, destination]
          split_ifs at hFollow ⊢ <;> exact ih hFollow count

/- On the way to a folder there are folders. -/
theorem entryAt?_goal_upTo
    {tree : FileTree}
    {path : Path}
    (hStanding : tree.standing? path = some .folder)
    (count : Nat) :
    tree.entryAt? (goal (path.upTo count)) = some .folder := by
  rcases standing?_eq_some_iff.mp hStanding with
    ⟨place, hLocate, hPlace⟩
  unfold locate at hLocate
  split_ifs at hLocate with hNul hLong hRoot
  all_goals
    simpa [goal, Path.upTo, hRoot] using
      entryAt?_of_follow_take hLocate hPlace count

------------------------------------------------------------
-- New Folders
------------------------------------------------------------

/-
  The folder is there, or the way to it does not lead through
  anything below it.
-/
def Settled
    (tree : FileTree)
    (path : Path) : Prop :=
  tree.standing? path = some .folder ∨
    ∀ count names,
      goal (path.upTo count) = goal path ++ names → names = []

/- A path that never climbs is settled. -/
theorem settled_of_not_mem
    (tree : FileTree)
    {path : Path}
    (hDots : ".." ∉ path.names) :
    tree.Settled path := by
  refine Or.inr fun count names hWay => ?_
  have hLength := (goal_prefix_of_upTo hDots count).length_le
  rw [hWay, List.length_append] at hLength
  exact List.length_eq_zero_iff.mp (by omega)

/- The first names of a path below another one. -/
theorem goal_upTo_below
    (base : Path)
    {tail : List String}
    (hTail : ∀ name ∈ tail, Path.IsName name)
    (count : Nat) :
    (∃ few, goal ((base.below tail).upTo count) =
        goal (base.upTo few)) ∨
      ∃ some, goal ((base.below tail).upTo count) =
        goal base ++ tail.take some := by
  rcases Nat.le_total count base.names.length with hFew | hMore
  · refine Or.inl ⟨count, ?_⟩
    simp only [Path.upTo, Path.below,
      List.take_append_of_le_length hFew]
  · refine Or.inr ⟨count - base.names.length, ?_⟩
    have hParts :
        (base.below tail).upTo count =
          base.below (tail.take (count - base.names.length)) := by
      simp only [Path.upTo, Path.below, List.take_append,
        List.take_of_length_le hMore]
    rw [hParts]
    exact goal_below
      (fun name hName => hTail name (List.mem_of_mem_take hName))
      base

/-
  Folders on the way to a place below a settled folder are
  new on that way only, as far as it lies below the folder.
-/
theorem FurnishedAlong.entryAt?_below
    {base : Path}
    {tail : List String}
    (hTail : ∀ name ∈ tail, Path.IsName name)
    {before after : FileTree}
    (hAlong : FurnishedAlong (base.below tail) before after)
    (hSettled : before.Settled base)
    {names : List String}
    (hNames : names ≠ [])
    (hAside : ¬names <+: tail) :
    after.entryAt? (goal base ++ names) =
      before.entryAt? (goal base ++ names) := by
  rcases hAlong.onTheWay (goal base ++ names) with
    hSame | ⟨count, hPlace⟩
  · exact hSame
  · rcases goal_upTo_below base hTail count with
      ⟨few, hFew⟩ | ⟨some, hSome⟩
    · rw [hFew] at hPlace
      rcases hSettled with hStanding | hWay
      · have hFolder := entryAt?_goal_upTo hStanding few
        rw [← hPlace] at hFolder
        rw [hFolder]
        exact hAlong.furnished.entryAt?_eq_some hFolder
      · exact absurd (hWay few names hPlace.symm) hNames
    · rw [hSome] at hPlace
      rw [List.append_cancel_left hPlace] at hAside
      exact absurd (List.take_prefix some tail) hAside

------------------------------------------------------------
-- Where Nothing Stands
------------------------------------------------------------

end FileTree

/- No name of the path is too long, nor is the path itself. -/
def Path.Fits (path : Path) : Prop :=
  (∀ name ∈ path.names,
    name.utf8ByteSize ≤ FileTree.nameLimit) ∧
  path.text.utf8ByteSize ≤ FileTree.pathLimit

instance Path.decidableFits (path : Path) : Decidable path.Fits := by
  unfold Path.Fits
  infer_instance

namespace FileTree

/- Why names lead nowhere. -/
theorem fault_of_follow
    {tree : FileTree}
    {here : Place}
    {names : List String}
    {fault : Fault}
    (hFollow : tree.follow here names = .error fault) :
    fault = .missing ∨ fault = .notFolder ∨
      fault = .nameTooLong ∧
        ∃ name ∈ names, nameLimit < name.utf8ByteSize := by
  induction names generalizing here with
  | nil =>
      cases hFollow
  | cons name rest ih =>
      have hLater
          {there : Place}
          (hRest : tree.follow there rest = .error fault) :
          fault = .missing ∨ fault = .notFolder ∨
            fault = .nameTooLong ∧
              ∃ other ∈ name :: rest,
                nameLimit < other.utf8ByteSize := by
        refine (ih hRest).imp_right (Or.imp_right ?_)
        rintro ⟨hFault, other, hMember, hLong⟩
        exact ⟨hFault, other, List.mem_cons_of_mem _ hMember, hLong⟩
      cases hHere : tree.entryAt? here with
      | none =>
          simp only [follow, hHere, Except.error.injEq] at hFollow
          exact Or.inl hFollow.symm
      | some entry =>
          cases entry with
          | folder =>
              simp only [follow, hHere] at hFollow
              split_ifs at hFollow with hStay hUp hLong
              · exact hLater hFollow
              · exact hLater hFollow
              · cases hFollow
                exact Or.inr (Or.inr
                  ⟨rfl, name, List.mem_cons_self, hLong⟩)
              · exact hLater hFollow
          | file content =>
              simp only [follow, hHere, Except.error.injEq]
                at hFollow
              exact Or.inr (Or.inl hFollow.symm)
          | pipe =>
              simp only [follow, hHere, Except.error.injEq]
                at hFollow
              exact Or.inr (Or.inl hFollow.symm)

/- Why a path leads nowhere. -/
theorem fault_of_locate
    {tree : FileTree}
    {path : Path}
    {fault : Fault}
    (hLocate : tree.locate path = .error fault) :
    fault = .missing ∨ fault = .notFolder ∨
      fault = .embeddedNul ∨
        fault = .nameTooLong ∧ ¬path.Fits := by
  unfold locate at hLocate
  split_ifs at hLocate with hNul hLong hRoot
  · cases hLocate
    exact Or.inr (Or.inr (Or.inl rfl))
  · cases hLocate
    refine Or.inr (Or.inr (Or.inr ⟨rfl, fun hFits => ?_⟩))
    exact Nat.not_lt.mpr hFits.2 hLong
  all_goals
    rcases fault_of_follow hLocate with
      hFault | hFault | ⟨hFault, name, hName, hTooLong⟩
    · exact Or.inl hFault
    · exact Or.inr (Or.inl hFault)
    · refine Or.inr (Or.inr (Or.inr ⟨hFault, fun hFits => ?_⟩))
      exact Nat.not_lt.mpr (hFits.1 name hName) hTooLong

/-
  Where nothing stands nothing is found, unless the path is
  refused as too long.
-/
theorem hasEntry_of_vacant
    {tree : FileTree}
    {path : Path}
    (hVacant : tree.entryAt? (goal path) = none) :
    tree.hasEntry path = .ok false ∨
      tree.hasEntry path = .error .nameTooLong ∧ ¬path.Fits := by
  cases hLocate : tree.locate path with
  | error fault =>
      have hFind : tree.find path = .error fault := by
        simp [find, hLocate, bind, Except.bind]
      rcases fault_of_locate hLocate with
        rfl | rfl | rfl | ⟨rfl, hLong⟩
      · exact Or.inl (by rw [hasEntry, hFind])
      · exact Or.inl (by rw [hasEntry, hFind])
      · exact Or.inl (by rw [hasEntry, hFind])
      · exact Or.inr ⟨by rw [hasEntry, hFind], hLong⟩
  | ok place =>
      rw [← goal_of_locate hLocate] at hVacant
      refine Or.inl ?_
      simp [hasEntry, find, hLocate, hVacant, bind, Except.bind,
        throw, throwThe, MonadExceptOf.throw]

/- Names that follow others are followed from where these lead. -/
theorem follow_append
    {tree : FileTree}
    {here place : Place}
    {names : List String}
    (hFollow : tree.follow here names = .ok place)
    (rest : List String) :
    tree.follow here (names ++ rest) = tree.follow place rest := by
  induction names generalizing here with
  | nil =>
      cases hFollow
      rfl
  | cons name names ih =>
      have hHere := entryAt?_of_follow_cons hFollow
      simp only [follow, hHere] at hFollow
      simp only [List.cons_append, follow, hHere]
      split_ifs at hFollow ⊢ <;> exact ih hFollow

/- In a folder a name that is too long is refused. -/
theorem hasEntry_of_long
    {tree : FileTree}
    {base : Path}
    (hFolder : tree.standing? base = some .folder)
    {name : String}
    (hName : Path.IsName name)
    (hLong : nameLimit < name.utf8ByteSize)
    {rest : List String}
    (hRest : ∀ other ∈ rest, Path.IsName other) :
    tree.hasEntry (base.below (name :: rest)) =
      .error .nameTooLong := by
  have hLocate :
      tree.locate (base.below (name :: rest)) =
        .error .nameTooLong := by
    rcases standing?_eq_some_iff.mp hFolder with
      ⟨place, hBase, hPlace⟩
    have hNames : ∀ other ∈ name :: rest, Path.IsName other :=
      List.forall_mem_cons.mpr ⟨hName, hRest⟩
    have hPlain :
        ((name :: rest).any fun other =>
          other.toList.contains '\x00') = false := by
      simp only [List.any_eq_false, List.contains_iff_mem]
      exact fun other hOther => (hNames other hOther).2.2.2.2
    rcases hName with ⟨hEmpty, hDot, hDots, _, _⟩
    rcases base with ⟨root, names⟩
    have hOnward
        {here : Place}
        (hFollow : tree.follow here names = .ok place) :
        tree.follow here (names ++ name :: rest) =
          .error .nameTooLong := by
      rw [follow_append hFollow]
      simp only [follow, hPlace, hEmpty, hDot, hDots, or_self,
        if_false, hLong, if_true]
    change tree.locate ⟨root, names ++ name :: rest⟩ = _
    unfold locate at hBase ⊢
    simp only [List.any_append, hPlain, Bool.or_false]
    split_ifs at hBase ⊢
    · rfl
    · rfl
    · exact hOnward hBase
    · exact hOnward hBase
  simp only [hasEntry, find, hLocate, bind, Except.bind]

end FileTree

end Replay
