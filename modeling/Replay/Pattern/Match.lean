import Replay.Pattern.Repetition

/-
  This file defines where an expression matches a text.

  Key definitions include:
    * `Context`
    * `matchNode`
    * `matchSequence`
    * `Finding`
    * `search`

  A part is given a spot and what is to follow; it tries its
  ways one after another, each with what follows, until one
  of them reaches the end.
-/

------------------------------------------------------------
-- Positions
------------------------------------------------------------

namespace Replay

namespace Pattern

/- Is the character a word character under an alphabet? -/
def isWordAt
    (flags : Flags) : Text → Bool
  | [] => false
  | c :: _ => Category.word.holds flags c

/- Does an anchor hold at a place? -/
def Anchor.holds
    (flags : Flags)
    (place : Place) : Anchor → Bool
  | start =>
    place.before.isEmpty ||
      (flags.multiLine && place.before.head? == some (.char '\n'))
  | finish =>
    place.after.isEmpty || place.after == [.char '\n'] ||
      (flags.multiLine && place.after.head? == some (.char '\n'))
  | textStart => place.before.isEmpty
  | textFinish => place.after.isEmpty
  | boundary =>
    isWordAt flags place.before != isWordAt flags place.after
  | noBoundary =>
    !(place.before.isEmpty && place.after.isEmpty) &&
      isWordAt flags place.before == isWordAt flags place.after

------------------------------------------------------------
-- Characters
------------------------------------------------------------

/- Match one character. -/
def matchOne
    (p : CodePoint → Bool)
    (spot : Spot)
    (next : Next) : Outcome :=
  match spot.here.step with
  | none => spot.miss
  | some place =>
    if spot.here.faces p then next (spot.moved place)
    else spot.miss

/- The place after the characters of a text that was captured. -/
def passCaptured
    (flags : Flags) :
    Text → Place → Option Place
  | [], place => some place
  | c :: rest, place =>
    let same := place.faces fun d =>
      if flags.ignoreCase then
        foldCode flags c.code == foldCode flags d.code
      else
        c == d
    if same then place.step.bind (passCaptured flags rest)
    else none

mutual

/- A part that matches one character, and its switches. -/
def Node.unit?
    (flags : Flags) : Node → Option (Flags × Node)
  | .group none added removed body =>
    unitOfSequence? (flags.combine added removed) body
  | .literal code => some (flags, .literal code)
  | .notLiteral code => some (flags, .notLiteral code)
  | .anything => some (flags, .anything)
  | .oneOf negated items => some (flags, .oneOf negated items)
  | _ => none

/- The only part of a sequence, if it matches one character. -/
def unitOfSequence?
    (flags : Flags) : List Node → Option (Flags × Node)
  | [node] => Node.unit? flags node
  | _ => none

end

/- Does the bookmark go along with the rounds of a part? -/
def isTracked
    (flags : Flags) : Node → Bool
  | .literal code =>
    !isPlainLiteral flags code &&
      (sameLower flags (foldCode flags code)).length != 1
  | .notLiteral code =>
    !isPlainLiteral flags code &&
      (sameLower flags (foldCode flags code)).length != 1
  | .oneOf _ items => isFoldedSet flags items
  | _ => false

------------------------------------------------------------
-- Parts
------------------------------------------------------------

/-
  What surrounds a part: the widths of the groups, the
  switches, whether it is inside of the rounds of a greedy or
  lazy repetition, and what comes next in the expression.
-/
structure Context where
  groups : Nat → Width
  flags : Flags
  inRounds : Bool
  ahead : Beginning

namespace Context

/- The context of parts that end on their own. -/
def closed (context : Context) : Context :=
  { context with ahead := .other }

/- The context under the switches of a group. -/
def under
    (context : Context)
    (added removed : Flags) : Context :=
  { context with flags := context.flags.combine added removed }

/- The context of the rounds of a repetition. -/
def within
    (context : Context)
    (greed : Greed) : Context :=
  { context with
    ahead := .other
    inRounds := context.inRounds || greed != .possessive }

/- The context of a part before others. -/
def before
    (context : Context)
    (rest : List Node) : Context :=
  { context with
    ahead :=
      (beginningOfSequence context.flags rest).before
        context.ahead }

end Context

mutual

/- Match one part and what follows it. -/
def matchNode
    (context : Context)
    (node : Node)
    (spot : Spot)
    (next : Next) : Outcome :=
  match node with
  | .literal code =>
    matchOne (matchesUnit context.flags (.literal code)) spot next
  | .notLiteral code =>
    matchOne (matchesUnit context.flags (.notLiteral code)) spot
      next
  | .anything =>
    matchOne (matchesUnit context.flags .anything) spot next
  | .oneOf negated items =>
    matchOne (matchesUnit context.flags (.oneOf negated items))
      spot next
  | .anchor anchor =>
    if anchor.holds context.flags spot.here then next spot
    else spot.miss
  | .choice alternatives =>
    matchChoice context.closed alternatives spot.captures spot
      next
  | .repeated greed least most body =>
    match unitOfSequence? context.flags body with
    | some (flags, unit) =>
      repeatUnit context.inRounds (isTracked flags unit)
        context.ahead (matchesUnit flags unit) greed least most
        spot next
    | none =>
      repeatRounds context.inRounds
        (fun spot next =>
          matchSequence (context.within greed) body spot next)
        greed least most spot next
  | .group none added removed body =>
    matchSequence (context.under added removed) body spot next
  | .group (some index) added removed body =>
    matchSequence (context.under added removed).closed body
      { spot with
        captures := spot.captures.openAt spot.here index }
      (fun spot =>
        next
          { spot with
            captures := spot.captures.closeAt spot.here index })
  | .atomic body =>
    let outcome :=
      matchSequence context.closed body spot.marked Spot.hit
    if outcome.found then next (.resumed outcome)
    else outcome.orBackTo spot.here
  | .look behind negative body =>
    let width :=
      if behind then
        (Node.widthOfSequence context.groups body).least
      else
        0
    match spot.here.back width, negative with
    | none, false => spot.miss
    | none, true => next spot
    | some start, false =>
      let outcome :=
        matchSequence context.closed body
          (spot.moved start).marked Spot.hit
      if outcome.found then next (spot.after outcome)
      else outcome
    | some start, true =>
      let outcome :=
        matchSequence context.closed body
          (spot.moved start).marked Spot.hit
      if outcome.found then
        { outcome with found := false }
      else
        next (spot.after
          { outcome with
            captures :=
              .undo context.inRounds spot.captures
                outcome.captures })
  | .reference index =>
    match (spot.captures.text? index).bind fun text =>
        passCaptured context.flags text spot.here with
    | none => spot.miss
    | some place => next (spot.moved place)
  | .conditional index yes none =>
    if (spot.captures.text? index).isSome then
      matchSequence context yes spot next
    else
      next spot
  | .conditional index yes (some no) =>
    if (spot.captures.text? index).isSome then
      let context :=
        if no.isEmpty then context else context.closed
      matchSequence context yes spot next
    else
      matchSequence context no spot next

/- Match one part after another and what follows them. -/
def matchSequence
    (context : Context)
    (parts : List Node)
    (spot : Spot)
    (next : Next) : Outcome :=
  match parts with
  | [] => next spot
  | node :: rest =>
    matchNode (context.before rest) node spot
      (fun spot => matchSequence context rest spot next)

/-
  Match the first alternative that what follows agrees to.
  One whose beginning rules it out is not tried.
-/
def matchChoice
    (context : Context)
    (alternatives : List (List Node))
    (before : Captures)
    (spot : Spot)
    (next : Next) : Outcome :=
  match alternatives with
  | [] => spot.miss
  | body :: rest =>
    if (beginningOfSequence context.flags body).admits spot.here
    then
      let outcome := matchSequence context body spot.marked next
      if outcome.found then
        outcome
      else
        matchChoice context rest before
          (spot.after
            { outcome with
              captures :=
                .undo context.inRounds before outcome.captures })
          next
    else
      matchChoice context rest before spot next

end

------------------------------------------------------------
-- Search
------------------------------------------------------------

/-
  What a search finds: no match, a match, or one in which a
  group was closed before the place where it was opened.
-/
inductive Finding where
  | absent
  | present
  | crossed
  deriving DecidableEq, Repr

/- What comes of a try, as the result of a search. -/
def Outcome.finding (outcome : Outcome) : Finding :=
  if !outcome.found then .absent
  else if outcome.captures.hasCrossing then .crossed
  else .present

/- Match a sequence of parts at a place. -/
def searchAt
    (groups : Nat → Width)
    (flags : Flags)
    (parts : List Node)
    (place : Place) : Finding :=
  let least := (Node.widthOfSequence groups parts).least
  if mayBegin least flags parts place then
    (matchSequence ⟨groups, flags, false, .other⟩ parts
      (.first place) Spot.hit).finding
  else
    .absent

/- Match a sequence at this place or at the first later one. -/
def searchFrom
    (groups : Nat → Width)
    (flags : Flags)
    (parts : List Node) :
    Text → Text → Nat → Finding
  | before, [], position =>
    searchAt groups flags parts ⟨before, [], position⟩
  | before, c :: rest, position =>
    match searchAt groups flags parts
        ⟨before, c :: rest, position⟩ with
    | .absent =>
      searchFrom groups flags parts (c :: before) rest
        (position + 1)
    | found => found

/-
  Match a sequence at its first place in a text.  A text that
  has not enough characters is not searched.
-/
def search
    (groups : Nat → Width)
    (flags : Flags)
    (parts : List Node)
    (text : Text) : Finding :=
  let least := (Node.widthOfSequence groups parts).least
  if text.length < least then .absent
  else searchFrom groups flags parts [] text 0

end Pattern

end Replay
