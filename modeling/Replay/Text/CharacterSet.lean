/-
  This file defines sets of characters that are given by the
  code points where membership changes.

  Key definitions include:
    * `CharacterSet`
    * `CharacterSet.rank`
    * `CharacterSet.contains`
    * `CaseRun`
    * `CaseRun.image?`
    * `CaseRun.source?`
    * `CaseRun.apply`

  Membership is counted, not searched for: a code point is a
  member exactly when an odd number of changes lie at or
  below it.
-/

------------------------------------------------------------
-- Character Sets
------------------------------------------------------------

namespace Replay

namespace Text

/-
  The code points where membership changes, in increasing
  order.  The first change enters the set, the second one
  leaves it, and so on.
-/
structure CharacterSet where
  changes : Array Nat

namespace CharacterSet

/-
  The number of changes at or below `code`, found by halving
  the window `[low, high)`.  The fuel bounds the halvings.
-/
def search
    (changes : Array Nat)
    (code : Nat) :
    Nat → Nat → Nat → Nat
  | 0, low, _ => low
  | fuel + 1, low, high =>
    if low < high then
      let middle := (low + high) / 2
      if changes.getD middle 0 ≤ code then
        search changes code fuel (middle + 1) high
      else
        search changes code fuel low middle
    else
      low

/- The number of changes at or below `code`. -/
def rank
    (set : CharacterSet)
    (code : Nat) : Nat :=
  search set.changes code (set.changes.size.log2 + 2) 0
    set.changes.size

/- Membership: an odd number of changes was passed. -/
def contains
    (set : CharacterSet)
    (c : Char) : Bool :=
  set.rank c.toNat % 2 == 1

end CharacterSet

------------------------------------------------------------
-- Case Runs
------------------------------------------------------------

/-
  A run of characters with one displacement: `first`,
  `first + step`, ... up to `last` are sent to `image`,
  `image + step`, ...
-/
structure CaseRun where
  first : Nat
  last : Nat
  step : Nat
  image : Nat

namespace CaseRun

/- The image of a code point that lies on the run. -/
def image?
    (run : CaseRun)
    (code : Nat) : Option Nat :=
  if run.first ≤ code ∧ code ≤ run.last ∧
      (code - run.first) % run.step = 0 then
    some (run.image + (code - run.first))
  else
    none

/- The code point on the run that has a given image. -/
def source?
    (run : CaseRun)
    (code : Nat) : Option Nat :=
  let place := code - run.image
  if run.image ≤ code ∧ place % run.step = 0 ∧
      run.first + place ≤ run.last then
    some (run.first + place)
  else
    none

/- Does the run hold a code point from `low` to `high`? -/
def meets
    (low high : Nat)
    (run : CaseRun) : Bool :=
  let least :=
    if low ≤ run.first then run.first
    else
      run.first +
        (low - run.first + run.step - 1) / run.step * run.step
  least ≤ run.last && least ≤ high

/- The image under the first run that holds a code point. -/
def apply
    (runs : List CaseRun)
    (code : Nat) : Nat :=
  (runs.findSome? (image? · code)).getD code

end CaseRun

end Text

end Replay
