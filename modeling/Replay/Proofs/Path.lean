import Replay.Path
import Replay.Proofs.Text.Pieces

/-
  This file characterizes the texts that write one plain name
  of a path.

  Key definitions include:
    * `Path.IsName`
    * `Path.below`
    * `Path.upTo`

  Main results:
    * `Path.ofText_of_isName`
    * `Path.child_of_isName`
-/

------------------------------------------------------------
-- Plain Names
------------------------------------------------------------

namespace Replay

namespace Path

open Text

/- One name: not empty, no dots that lead, no stroke, no NUL. -/
def IsName (s : String) : Prop :=
  s ≠ "" ∧ s ≠ "." ∧ s ≠ ".." ∧
    '/' ∉ s.toList ∧ '\x00' ∉ s.toList

instance (s : String) : Decidable (IsName s) := by
  unfold IsName
  infer_instance

/- Without a stroke a path has no root. -/
theorem rootOf_of_not_mem
    {row : List Char}
    (hStroke : '/' ∉ row) :
    rootOf row = "" := by
  cases row with
  | nil =>
      rfl
  | cons c rest =>
      have hFirst : c ≠ '/' := by
        rintro rfl
        exact hStroke List.mem_cons_self
      simp [rootOf, hFirst]

/- A plain name is written as it is. -/
theorem ofText_of_isName
    {s : String}
    (hName : IsName s) :
    ofText s = ⟨"", [s]⟩ := by
  rcases hName with ⟨hEmpty, hDot, _, hStroke, _⟩
  simp [ofText, rootOf_of_not_mem hStroke, pieces,
    List.splitOn_eq_singleton hStroke, meaningful, hEmpty, hDot]

/- A path with some more names. -/
def below
    (base : Path)
    (names : List String) : Path :=
  ⟨base.root, base.names ++ names⟩

/- The first names of a path. -/
def upTo
    (path : Path)
    (count : Nat) : Path :=
  ⟨path.root, path.names.take count⟩

@[simp] theorem below_below
    (base : Path)
    (names rest : List String) :
    (base.below names).below rest = base.below (names ++ rest) := by
  simp only [below, List.append_assoc]

/- Above a file is the folder that it lies in. -/
theorem parent_below
    (base : Path)
    {names : List String}
    (hNames : names ≠ []) :
    (base.below names).parent = base.below names.dropLast := by
  simp only [parent, below,
    List.dropLast_append_of_ne_nil hNames]

/- A plain name leads one step down. -/
theorem child_of_isName
    (base : Path)
    {s : String}
    (hName : IsName s) :
    base.child s = base.below [s] := by
  simp [child, ofText_of_isName hName, join, below]

end Path

end Replay
