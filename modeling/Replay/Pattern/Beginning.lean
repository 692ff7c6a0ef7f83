import Replay.Pattern.Spot

/-
  This file defines what expressions begin with, as far as it
  tells that they cannot match at a place.

  Key definitions include:
    * `Beginning`
    * `Beginning.admits`
    * `Node.beginning`
    * `mayBegin`

  Where a first character rules out a way, the way is not
  tried at all.
-/

------------------------------------------------------------
-- Beginnings
------------------------------------------------------------

namespace Replay

namespace Pattern

/-
  What some parts begin with: no part at all, a character or
  one of a set, both as they are, or anything else.
-/
inductive Beginning where
  | nothing
  | literal (code : Nat)
  | oneOf (flags : Flags) (negated : Bool) (items : List SetItem)
  | other
  deriving Repr

namespace Beginning

/- May the parts match at a place? -/
def admits
    (place : Place) : Beginning → Bool
  | literal code => place.faces fun c => c.code == code
  | oneOf flags negated items =>
    place.faces fun c => items.any (SetItem.holds flags c) != negated
  | _ => true

/- May the parts match at a place, as far as a literal tells? -/
def admitsLiteral
    (place : Place) : Beginning → Bool
  | literal code => place.faces fun c => c.code == code
  | _ => true

/- What parts begin with that come before others. -/
def before : Beginning → Beginning → Beginning
  | nothing, next => next
  | found, _ => found

end Beginning

------------------------------------------------------------
-- Beginnings of Parts
------------------------------------------------------------

/- Is a literal matched by itself alone? -/
def isPlainLiteral
    (flags : Flags)
    (code : Nat) : Bool :=
  !(flags.ignoreCase && isCasedCode flags code)

/- Is a set matched without regard to case? -/
def isFoldedSet
    (flags : Flags)
    (items : List SetItem) : Bool :=
  flags.ignoreCase && items.any (SetItem.isCased flags)

mutual

/- What a part begins with. -/
def Node.beginning (flags : Flags) : Node → Beginning
  | .literal code =>
    if isPlainLiteral flags code then .literal code else .other
  | .oneOf negated items =>
    if isFoldedSet flags items then .other
    else .oneOf flags negated items
  | .group none added removed body =>
    beginningOfSequence (flags.combine added removed) body
  | _ => .other

/- What a sequence of parts begins with. -/
def beginningOfSequence (flags : Flags) :
    List Node → Beginning
  | [] => .nothing
  | node :: rest =>
    (Node.beginning flags node).before
      (beginningOfSequence flags rest)

end

------------------------------------------------------------
-- Plain Prefixes
------------------------------------------------------------

mutual

/-
  Do the parts begin with a literal that is matched by itself
  alone?  The second answer says whether they hold nothing
  but such literals.
-/
def beginsPlainly (flags : Flags) : Node → Bool × Bool
  | .literal code =>
    (isPlainLiteral flags code, isPlainLiteral flags code)
  | .group _ added removed body =>
    sequenceBeginsPlainly (flags.combine added removed) body
  | _ => (false, false)

/- The same for a sequence of parts. -/
def sequenceBeginsPlainly (flags : Flags) :
    List Node → Bool × Bool
  | [] => (false, true)
  | node :: rest =>
    let (begins, whole) := beginsPlainly flags node
    if whole then
      let (later, all) := sequenceBeginsPlainly flags rest
      (begins || later, all)
    else
      (begins, false)

end

------------------------------------------------------------
-- First Characters
------------------------------------------------------------

/- The first parts of alternatives, if all are plain literals. -/
def firstLiterals?
    (flags : Flags) :
    List (List Node) → Option (List SetItem)
  | [] => some []
  | (.literal code :: _) :: rest =>
    if isPlainLiteral flags code then
      (firstLiterals? flags rest).map (.single code :: ·)
    else
      none
  | _ => none

/- Is an item the same without regard to case? -/
def SetItem.isCaseless
    (flags : Flags) : SetItem → Bool
  | single code => isPlainLiteral flags code
  | range low high =>
    !flags.ignoreCase ||
      (high ≤ basicLimit && !hasCasedCode flags low high)
  | category _ _ => true

mutual

/- The set of characters that a part begins with. -/
def firstSet?
    (flags : Flags) : Node → Option (Bool × List SetItem)
  | .group _ added removed body =>
    firstSetOfSequence? (flags.combine added removed) body
  | .literal code =>
    if isPlainLiteral flags code then
      some (false, [.single code])
    else
      none
  | .choice alternatives =>
    (firstLiterals? flags alternatives).map (false, ·)
  | .oneOf negated items =>
    if items.all (SetItem.isCaseless flags) then
      some (negated, items)
    else
      none
  | _ => none

/- The set of characters that a sequence begins with. -/
def firstSetOfSequence?
    (flags : Flags) :
    List Node → Option (Bool × List SetItem)
  | [] => none
  | node :: _ => firstSet? flags node

end

------------------------------------------------------------
-- Places to Try
------------------------------------------------------------

/-
  May an expression of some width match at a place?  The set
  of characters that it begins with is read under the
  switches of the whole expression.  One without such a set
  is tried up to one place beyond the last that has enough
  characters after it.
-/
def mayBegin
    (least : Nat)
    (flags : Flags)
    (parts : List Node)
    (place : Place) : Bool :=
  if least = 0 ∨ (sequenceBeginsPlainly flags parts).1 then
    true
  else
    match firstSetOfSequence? flags parts with
    | none => least ≤ place.after.length + 1
    | some (negated, items) =>
      place.faces fun c =>
        items.any (SetItem.holds flags c) != negated

end Pattern

end Replay
