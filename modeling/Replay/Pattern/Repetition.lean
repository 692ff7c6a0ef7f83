import Replay.Pattern.Beginning

/-
  This file defines repetitions.

  Key definitions include:
    * `greedyRounds`
    * `lazyRounds`
    * `possessiveRounds`
    * `repeatRounds`
    * `repeatUnit`

  A possessive repetition goes on from the bookmark that its
  last round left, even if that round failed.
-/

------------------------------------------------------------
-- Rounds
------------------------------------------------------------

namespace Replay

namespace Pattern

/- One round of a repetition, and what follows it. -/
abbrev Round := Spot → Next → Outcome

/- May one more round follow a number of rounds? -/
def mayRepeat
    (most : Option Nat)
    (count : Nat) : Bool :=
  match most with
  | none => true
  | some most => count < most

/-
  Rounds as many as possible.  Beyond the least number, a
  round starts only where the one before it did not.
-/
def greedyRounds
    (round : Round)
    (least : Nat)
    (most : Option Nat)
    (next : Next) :
    Nat → Nat → Option Nat → Spot → Outcome
  | 0, _, _, spot => spot.miss
  | fuel + 1, count, last, spot =>
    let spot := spot.marked
    if count < least then
      (round spot
        (greedyRounds round least most next fuel (count + 1)
          last)).orBackTo spot.here
    else if mayRepeat most count ∧
        last ≠ some spot.here.position then
      let outcome := round spot
        (greedyRounds round least most next fuel (count + 1)
          (some spot.here.position))
      if outcome.found then outcome
      else (next spot).orBackTo spot.here
    else
      (next spot).orBackTo spot.here

/- Rounds as few as possible. -/
def lazyRounds
    (inRounds : Bool)
    (round : Round)
    (least : Nat)
    (most : Option Nat)
    (next : Next) :
    Nat → Nat → Option Nat → Spot → Outcome
  | 0, _, _, spot => spot.miss
  | fuel + 1, count, last, spot =>
    let spot := spot.marked
    if count < least then
      (round spot
        (lazyRounds inRounds round least most next fuel
          (count + 1) last)).orBackTo spot.here
    else
      let outcome := next spot
      if outcome.found then
        outcome
      else
        let spot :=
          { spot with
            captures :=
              .undo inRounds spot.captures outcome.captures }
        if mayRepeat most count ∧
            last ≠ some spot.here.position then
          (round spot
            (lazyRounds inRounds round least most next fuel
              (count + 1) (some spot.here.position))).orBackTo
            spot.here
        else
          spot.miss

/- Rounds as many as possible, none of them given back. -/
def possessiveRounds
    (round : Round)
    (least : Nat)
    (most : Option Nat)
    (start : Place)
    (next : Next) :
    Nat → Nat → Option Nat → Spot → Outcome
  | 0, _, _, spot => spot.miss
  | fuel + 1, count, last, spot =>
    let spot := spot.marked
    if count < least then
      let outcome := round spot Spot.hit
      if outcome.found then
        possessiveRounds round least most start next fuel
          (count + 1) last (.resumed outcome)
      else
        outcome.orBackTo start
    else if mayRepeat most count ∧
        last ≠ some spot.here.position then
      let outcome := round spot Spot.hit
      if outcome.found then
        possessiveRounds round least most start next fuel
          (count + 1) (some spot.here.position)
          (.resumed outcome)
      else
        next (.resumed { outcome with captures := spot.captures })
    else
      next spot

/-
  More rounds than any repetition that ends has in a text: as
  many as it may have, or as there are pairs of places.
-/
def roundLimit
    (least : Nat)
    (most : Option Nat)
    (size : Nat) : Nat :=
  match most with
  | none => least + (size + 2) * (size + 2)
  | some most => least + most + 1

/- Repeat any part. -/
def repeatRounds
    (inRounds : Bool)
    (round : Round)
    (greed : Greed)
    (least : Nat)
    (most : Option Nat)
    (spot : Spot)
    (next : Next) : Outcome :=
  let fuel := roundLimit least most spot.here.size
  match greed with
  | .greedy =>
    greedyRounds round least most next fuel 0 none spot
  | .lazy =>
    lazyRounds inRounds round least most next fuel 0 none spot
  | .possessive =>
    possessiveRounds round least most spot.here next fuel 0 none
      spot

------------------------------------------------------------
-- Single Characters
------------------------------------------------------------

/- Try places one after another. -/
def tryPlaces
    (inRounds : Bool)
    (before : Captures)
    (next : Next) :
    List Place → Spot → Outcome
  | [], spot => spot.miss
  | place :: rest, spot =>
    let outcome := next (spot.moved place).marked
    if outcome.found then
      outcome
    else
      tryPlaces inRounds before next rest
        (spot.after
          { outcome with
            captures := .undo inRounds before outcome.captures })

/-
  Repeat a part that matches one character, before parts that
  begin with `ahead`.  Where a part is `tracked`, the bookmark
  goes along with its rounds.
-/
def repeatUnit
    (inRounds tracked : Bool)
    (ahead : Beginning)
    (p : CodePoint → Bool)
    (greed : Greed)
    (least : Nat)
    (most : Option Nat)
    (spot : Spot)
    (next : Next) : Outcome :=
  if spot.here.after.length < least then
    spot.miss
  else
    let places := spot.here.farthest p most
    let enough := places.take (places.length - least)
    let far := places.headD spot.here
    let spot :=
      { spot with bookmark := if tracked then far else spot.here }
    match greed with
    | .greedy =>
      tryPlaces inRounds spot.captures next
        (enough.filter fun place => ahead.admitsLiteral place)
        spot
    | .lazy =>
      if enough.isEmpty then
        spot.miss
      else
        let last :=
          if tracked && far.faces p then far.step.getD far
          else far
        (tryPlaces inRounds spot.captures next enough.reverse
          spot).orBackTo last
    | .possessive =>
      if enough.isEmpty then spot.miss
      else next (spot.moved far)

end Pattern

end Replay
