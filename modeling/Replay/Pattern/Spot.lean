import Replay.Pattern.Membership

/-
  This file defines places in a text, and what a try to match
  starts from and leaves behind.

  Key definitions include:
    * `Place`
    * `Captures`
    * `Captures.undo`
    * `Captures.hasCrossing`
    * `Spot`
    * `Outcome`
    * `Next`

  Every way that is tried begins with a bookmark at the place
  where it is tried.  A try that fails leaves the bookmark
  where it was set last, and it may leave captures.
-/

------------------------------------------------------------
-- Places
------------------------------------------------------------

namespace Replay

namespace Pattern

/-
  A place in a text: the characters before it, nearest first,
  those after it, and the number of those before it.
-/
structure Place where
  before : Text
  after : Text
  position : Nat
  deriving DecidableEq, Repr

namespace Place

/- The first place of a text. -/
def first (text : Text) : Place :=
  ⟨[], text, 0⟩

/- The length of the whole text. -/
def size (place : Place) : Nat :=
  place.position + place.after.length

/- The place after the next character. -/
def step (place : Place) : Option Place :=
  match place.after with
  | [] => none
  | c :: rest =>
    some ⟨c :: place.before, rest, place.position + 1⟩

/- The place before a number of characters. -/
def back : Nat → Place → Option Place
  | 0, place => some place
  | count + 1, place =>
    match place.before with
    | [] => none
    | c :: rest =>
      back count ⟨rest, c :: place.after, place.position - 1⟩

/-
  The places after one character after another that satisfies
  `p`, up to a limit, in front of those found before: the
  farthest first.
-/
def fartherFrom
    (p : CodePoint → Bool) :
    Text → Text → Nat → Option Nat → List Place →
      List Place
  | [], _, _, _, found => found
  | c :: rest, before, position, limit, found =>
    if limit = some 0 then
      found
    else if p c then
      fartherFrom p rest (c :: before) (position + 1)
        (limit.map (· - 1))
        (⟨c :: before, rest, position + 1⟩ :: found)
    else
      found

/- This place and those after it, the farthest first. -/
def farthest
    (p : CodePoint → Bool)
    (limit : Option Nat)
    (place : Place) : List Place :=
  fartherFrom p place.after place.before place.position limit
    [place]

/- Does a character that satisfies `p` come next? -/
def faces
    (p : CodePoint → Bool)
    (place : Place) : Bool :=
  match place.after with
  | [] => false
  | c :: _ => p c

end Place

------------------------------------------------------------
-- Captures
------------------------------------------------------------

/-
  Where groups were opened and closed: two entries for each
  group in their order, up to the last one that was set.
-/
abbrev Captures :=
  List (Option Place)

namespace Captures

/- Set an entry; those before it stay, or are empty. -/
def enter
    (place : Place) :
    Nat → Captures → Captures
  | 0, [] => [some place]
  | 0, _ :: rest => some place :: rest
  | index + 1, [] => none :: enter place index []
  | index + 1, entry :: rest => entry :: enter place index rest

/- Open a group at a place. -/
def openAt
    (place : Place)
    (index : Nat)
    (captures : Captures) : Captures :=
  captures.enter place (2 * (index - 1))

/- Close a group at a place. -/
def closeAt
    (place : Place)
    (index : Nat)
    (captures : Captures) : Captures :=
  captures.enter place (2 * (index - 1) + 1)

/- What a group captured. -/
def text?
    (captures : Captures)
    (index : Nat) : Option Text :=
  match captures[2 * (index - 1)]?,
      captures[2 * (index - 1) + 1]? with
  | some (some start), some (some finish) =>
    if start.position ≤ finish.position then
      some (start.after.take (finish.position - start.position))
    else
      none
  | _, _ => none

/- Was a group closed before the place where it was opened? -/
def hasCrossing : Captures → Bool
  | some start :: some finish :: rest =>
    finish.position < start.position || hasCrossing rest
  | _ :: _ :: rest => hasCrossing rest
  | _ => false

/-
  The captures after a try that failed.  Inside the rounds of
  a repetition they are what they were before it; elsewhere
  only the entries after the last one of then are taken away.
-/
def undo
    (inRounds : Bool)
    (before now : Captures) : Captures :=
  if inRounds then before else now.take before.length

end Captures

------------------------------------------------------------
-- Tries
------------------------------------------------------------

/- Where a try goes on: the place, the bookmark, the captures. -/
structure Spot where
  here : Place
  bookmark : Place
  captures : Captures
  deriving DecidableEq, Repr

/-
  What comes of a try.  If it succeeds, the bookmark is where
  it ends.
-/
structure Outcome where
  found : Bool
  bookmark : Place
  captures : Captures
  deriving DecidableEq, Repr

namespace Outcome

/- A try that fails goes back to a place. -/
def orBackTo
    (place : Place)
    (outcome : Outcome) : Outcome :=
  if outcome.found then outcome
  else { outcome with bookmark := place }

end Outcome

namespace Spot

/- The spot at the start of a try. -/
def first (place : Place) : Spot :=
  ⟨place, place, []⟩

/- Set the bookmark. -/
def marked (spot : Spot) : Spot :=
  { spot with bookmark := spot.here }

/- Go on at another place. -/
def moved
    (spot : Spot)
    (place : Place) : Spot :=
  { spot with here := place }

/- Go on here, with what a try left behind. -/
def after
    (spot : Spot)
    (outcome : Outcome) : Spot :=
  ⟨spot.here, outcome.bookmark, outcome.captures⟩

/- Go on where a try left its bookmark. -/
def resumed (outcome : Outcome) : Spot :=
  ⟨outcome.bookmark, outcome.bookmark, outcome.captures⟩

/- Succeed here. -/
def hit (spot : Spot) : Outcome :=
  ⟨true, spot.here, spot.captures⟩

/- Fail here. -/
def miss (spot : Spot) : Outcome :=
  ⟨false, spot.bookmark, spot.captures⟩

end Spot

/- What is to follow a part. -/
abbrev Next := Spot → Outcome

end Pattern

end Replay
