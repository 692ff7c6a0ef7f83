import Mathlib.Data.List.DropRight
import Replay.Text.Blank
import Replay.Text.Newline

/-
  This file proves what holds of the pieces between the marks
  of a row, and of rows that lose what stands at their ends.

  Main results:
    * `mem_intercalate`
    * `eq_or_exists_of_splitOn`
    * `not_mem_of_mem_splitOn`
    * `mem_of_mem_splitOn`
    * `dropTrailing_eq_rdropWhile`
    * `dropTrailing_append`
    * `dropTrailing_cons`
    * `isPrefix_dropTrailing_iff`
    * `isInfix_trimBy_iff`
    * `unifyNewlines_of_not_mem`
-/

------------------------------------------------------------
-- Joining
------------------------------------------------------------

namespace Replay

namespace Text

section Pieces

variable {α : Type}

/- What a joined row holds is of the mark or of a piece. -/
theorem mem_intercalate
    {mark : List α}
    {pieces : List (List α)}
    {c : α}
    (hMember : c ∈ mark.intercalate pieces) :
    c ∈ mark ∨ ∃ piece ∈ pieces, c ∈ piece := by
  induction pieces with
  | nil =>
      cases hMember
  | cons piece pieces ih =>
      by_cases hMore : pieces = []
      · rw [hMore, List.intercalate_singleton] at hMember
        exact Or.inr ⟨piece, List.mem_cons_self, hMember⟩
      · rw [List.intercalate_cons_of_ne_nil hMore,
          List.append_assoc] at hMember
        rcases List.mem_append.mp hMember with hFirst | hRest
        · exact Or.inr ⟨piece, List.mem_cons_self, hFirst⟩
        · rcases List.mem_append.mp hRest with hMark | hLater
          · exact Or.inl hMark
          · refine (ih hLater).imp_right ?_
            rintro ⟨other, hOther, hIn⟩
            exact ⟨other, List.mem_cons_of_mem _ hOther, hIn⟩

/- What a piece holds, the joined row holds. -/
theorem mem_intercalate_of_mem
    (mark : List α)
    {pieces : List (List α)}
    {piece : List α}
    (hPiece : piece ∈ pieces)
    {c : α}
    (hMember : c ∈ piece) :
    c ∈ mark.intercalate pieces := by
  induction pieces with
  | nil =>
      exact absurd hPiece List.not_mem_nil
  | cons first rest ih =>
      by_cases hRest : rest = []
      · rw [hRest] at hPiece ⊢
        rw [List.intercalate_singleton]
        rwa [List.mem_singleton.mp hPiece] at hMember
      · rw [List.intercalate_cons_of_ne_nil hRest,
          List.append_assoc, List.mem_append, List.mem_append]
        rcases List.mem_cons.mp hPiece with rfl | hLater
        · exact Or.inl hMember
        · exact Or.inr (Or.inr (ih hLater))

/- A mark at the end stands before an empty piece. -/
theorem intercalate_append_nil
    (mark : List α)
    {pieces : List (List α)}
    (hPieces : pieces ≠ []) :
    mark.intercalate (pieces ++ [[]]) =
      mark.intercalate pieces ++ mark := by
  induction pieces with
  | nil =>
      exact absurd rfl hPieces
  | cons piece rest ih =>
      by_cases hRest : rest = []
      · rw [hRest]
        simp
      · rw [List.cons_append,
          List.intercalate_cons_of_ne_nil (by simp),
          List.intercalate_cons_of_ne_nil hRest, ih hRest]
        simp only [List.append_assoc]

------------------------------------------------------------
-- Splitting
------------------------------------------------------------

variable [BEq α] [LawfulBEq α] {mark : α}

/- The first piece begins the row and ends at a mark. -/
theorem eq_or_exists_of_splitOn
    {row first : List α}
    {rest : List (List α)}
    (hSplit : row.splitOn mark = first :: rest) :
    row = first ∨ ∃ tail, row = first ++ mark :: tail := by
  have hRow : [mark].intercalate (row.splitOn mark) = row :=
    List.intercalate_splitOn mark
  rw [hSplit] at hRow
  by_cases hRest : rest = []
  · rw [hRest, List.intercalate_singleton] at hRow
    exact Or.inl hRow.symm
  · rw [List.intercalate_cons_of_ne_nil hRest, List.append_assoc]
      at hRow
    exact Or.inr ⟨_, hRow.symm⟩

/- What a piece holds, the row holds. -/
theorem mem_of_mem_splitOn
    {row piece : List α}
    (hPiece : piece ∈ row.splitOn mark)
    {c : α}
    (hMember : c ∈ piece) :
    c ∈ row := by
  have hRow : [mark].intercalate (row.splitOn mark) = row :=
    List.intercalate_splitOn mark
  rw [← hRow]
  exact mem_intercalate_of_mem [mark] hPiece hMember

/- No piece holds the mark. -/
theorem not_mem_of_mem_splitOn
    {row piece : List α}
    (hPiece : piece ∈ row.splitOn mark) :
    mark ∉ piece := by
  induction row generalizing piece with
  | nil =>
      rw [List.splitOn_nil, List.mem_singleton] at hPiece
      simp [hPiece]
  | cons c rest ih =>
      rw [List.splitOn_cons_eq_if_modifyHead] at hPiece
      split at hPiece
      · rcases List.mem_cons.mp hPiece with rfl | hLater
        · exact List.not_mem_nil
        · exact ih hLater
      · rename_i hOther
        cases hSplit : rest.splitOn mark with
        | nil =>
            exact absurd hSplit (List.splitOn_ne_nil _ _)
        | cons first pieces =>
            rw [hSplit] at ih hPiece
            rw [List.modifyHead_cons] at hPiece
            rcases List.mem_cons.mp hPiece with rfl | hLater
            · rw [List.mem_cons, not_or]
              exact ⟨fun hSame => hOther (by simp [hSame]),
                ih List.mem_cons_self⟩
            · exact ih (List.mem_cons_of_mem _ hLater)

end Pieces

------------------------------------------------------------
-- Ends
------------------------------------------------------------

section Ends

variable {α : Type} {p : α → Bool}

/- Nothing is dropped from a row of which all stays. -/
theorem dropWhile_of_forall
    {row : List α}
    (hNone : ∀ c ∈ row, p c = false) :
    row.dropWhile p = row := by
  cases row with
  | nil =>
      rfl
  | cons c rest =>
      exact List.dropWhile_cons_of_neg
        (by simp [hNone c List.mem_cons_self])

theorem dropTrailing_eq_rdropWhile
    (p : α → Bool)
    (row : List α) :
    dropTrailing p row = row.rdropWhile p :=
  rfl

theorem mem_of_mem_dropTrailing
    {row : List α}
    {c : α}
    (hMember : c ∈ dropTrailing p row) :
    c ∈ row :=
  (List.rdropWhile_prefix p row).subset hMember

/- A character is dropped only if all after it are. -/
theorem dropTrailing_cons
    (c : α)
    (row : List α) :
    dropTrailing p (c :: row) =
      if dropTrailing p row = [] ∧ p c = true then []
      else c :: dropTrailing p row := by
  unfold dropTrailing
  rw [List.reverse_cons, List.dropWhile_append]
  cases hRest : row.reverse.dropWhile p with
  | nil =>
      cases hFirst : p c <;> simp [hFirst]
  | cons last before =>
      simp

/- Behind a character that stays, what is dropped is the same. -/
theorem dropTrailing_append
    (before : List α)
    {c : α}
    (hStays : p c = false)
    (row : List α) :
    dropTrailing p (before ++ c :: row) =
      before ++ c :: dropTrailing p row := by
  induction before with
  | nil =>
      rw [List.nil_append, dropTrailing_cons]
      simp [hStays]
  | cons first rest ih =>
      rw [List.cons_append, dropTrailing_cons, ih]
      simp

/- A start that stays is the start of what is left. -/
theorem isPrefix_dropTrailing_iff
    {start : List α}
    (hStays : ∀ c ∈ start, p c = false)
    (row : List α) :
    start <+: dropTrailing p row ↔ start <+: row := by
  induction row generalizing start with
  | nil =>
      rfl
  | cons c rest ih =>
      cases start with
      | nil =>
          simp
      | cons first more =>
          rw [List.forall_mem_cons] at hStays
          rw [dropTrailing_cons]
          split
          · rename_i hDropped
            constructor
            · intro hStart
              exact absurd (List.prefix_nil.mp hStart)
                (List.cons_ne_nil _ _)
            · intro hStart
              have hSame := (List.cons_prefix_cons.mp hStart).1
              rw [← hSame, hStays.1] at hDropped
              exact absurd hDropped.2 Bool.false_ne_true
          · rw [List.cons_prefix_cons, List.cons_prefix_cons,
              ih hStays.2]

/- What holds of all that is dropped need not be asked there. -/
theorem forall_mem_dropTrailing_iff
    {Holds : α → Prop}
    (hDropped : ∀ c, p c = true → Holds c)
    (row : List α) :
    (∀ c ∈ dropTrailing p row, Holds c) ↔
      ∀ c ∈ row, Holds c := by
  induction row with
  | nil =>
      rfl
  | cons c rest ih =>
      rw [dropTrailing_cons, List.forall_mem_cons]
      split
      · rename_i hBoth
        rw [hBoth.1] at ih
        constructor
        · intro hNone
          exact ⟨hDropped c hBoth.2, ih.mp hNone⟩
        · intro _ other hOther
          exact absurd hOther List.not_mem_nil
      · rw [List.forall_mem_cons, ih]

/- Characters that stay are not torn apart at the start. -/
theorem isInfix_dropWhile
    {part row : List α}
    (hStays : ∀ c ∈ part, p c = false)
    (hPart : part <:+: row) :
    part <:+: row.dropWhile p := by
  induction row with
  | nil =>
      exact hPart
  | cons c rest ih =>
      cases hFirst : p c with
      | false =>
          rwa [List.dropWhile_cons_of_neg (by simp [hFirst])]
      | true =>
          rw [List.dropWhile_cons_of_pos hFirst]
          rcases List.infix_cons_iff.mp hPart with hStart | hLater
          · cases part with
            | nil =>
                exact List.nil_infix
            | cons first more =>
                have hSame := (List.cons_prefix_cons.mp hStart).1
                rw [← hSame, hStays first List.mem_cons_self]
                  at hFirst
                cases hFirst
          · exact ih hLater

/- Nor are they at both ends, and nothing is new there. -/
theorem isInfix_trimBy_iff
    {part : List α}
    (hStays : ∀ c ∈ part, p c = false)
    (row : List α) :
    part <:+: trimBy p row ↔ part <:+: row := by
  unfold trimBy dropTrailing
  rw [← List.reverse_infix, List.reverse_reverse]
  constructor
  · intro hPart
    have hBack :
        part.reverse <:+: (row.dropWhile p).reverse :=
      hPart.trans (List.dropWhile_suffix p).isInfix
    exact (List.reverse_infix.mp hBack).trans
      (List.dropWhile_suffix p).isInfix
  · intro hPart
    apply isInfix_dropWhile
    · intro c hMember
      exact hStays c (List.mem_reverse.mp hMember)
    · exact List.reverse_infix.mpr (isInfix_dropWhile hStays hPart)

end Ends

------------------------------------------------------------
-- Line Ends
------------------------------------------------------------

/- A text without carriage returns is left as it is. -/
theorem unifyNewlines_of_not_mem
    {s : List Char}
    (hReturn : '\r' ∉ s) :
    unifyNewlines s = s := by
  induction s with
  | nil =>
      rfl
  | cons c rest ih =>
      rw [List.mem_cons, not_or] at hReturn
      have hFirst : c ≠ '\r' := Ne.symm hReturn.1
      rw [unifyNewlines, if_neg hFirst, ih hReturn.2]
      exact fun _ hCarriage _ => hFirst hCarriage

end Text

end Replay
