/-
  This file defines runs of named characters.

  Key definitions include:
    * `NameRun`
    * `NameRun.find?`
-/

------------------------------------------------------------
-- Runs
------------------------------------------------------------

namespace Replay

namespace Text

/-
  The names of consecutive characters: they have the same
  start, and go on with the items of the rows, which have
  bars between them.
-/
structure NameRun where
  first : Nat
  start : String
  rows : List String
  deriving Repr

/- What follows a start in a name that has it. -/
def dropStart? : List Char → List Char → Option (List Char)
  | [], name => some name
  | _, [] => none
  | c :: start, d :: name =>
    if c = d then dropStart? start name else none

/- The code point of the character with a name in a run. -/
def NameRun.find?
    (run : NameRun)
    (name : List Char) : Option Nat := do
  let rest ← dropStart? run.start.toList name
  let items := run.rows.flatMap fun row =>
    row.toList.splitOn '|'
  let index ← items.findIdx? (· == rest)
  return run.first + index

end Text

end Replay
