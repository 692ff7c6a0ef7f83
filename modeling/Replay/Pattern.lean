import Replay.Pattern.Match
import Replay.Pattern.Reader

/-
  This file defines regular expressions that are checked and
  can be searched for.

  Key definitions include:
    * `Release`
    * `Engine`
    * `Pattern.Compiled`
    * `Pattern.compile`
    * `Pattern.Compiled.searchIn`
    * `Pattern.Compiled.occursIn`
-/

------------------------------------------------------------
-- Checks
------------------------------------------------------------

namespace Replay

namespace Pattern

/-
  Releases of the engine differ in how they count widths.
  Early ones tell none apart that are too large for 32 bits,
  and find their own code invalid where it looks too far
  behind.  Late ones count on, and refuse such expressions.
-/
inductive Release where
  | early
  | late
  deriving DecidableEq, Repr

namespace Release

/- A width as a release counts it. -/
def counted : Release → Width → Width
  | early, w => ⟨min w.least 4294967294, min w.most 4294967295⟩
  | late, w => w

/- From which distance on code that looks behind is invalid. -/
def reach? : Release → Option Nat
  | early => some 2147483648
  | late => none

end Release

/- The engine that compiles expressions. -/
class Engine where
  release : Release

/- The engine where no other one is given. -/
instance (priority := low) : Engine :=
  ⟨.early⟩

variable [Engine]

/- The farthest that an expression looks behind. -/
def behindLimit : Nat := 4294967295

mutual

/- The first part of a part that cannot be searched for. -/
def fault?
    (groups : Nat → Width)
    (template : Bool) : Node → Option Cause
  | .repeated greed _ _ body =>
    if template then some (.templateRepeat greed)
    else sequenceFault? groups template body
  | .choice alternatives =>
    choiceFault? groups template alternatives
  | .group _ _ _ body => sequenceFault? groups template body
  | .atomic body => sequenceFault? groups template body
  | .look behind _ body =>
    let width :=
      Engine.release.counted (Node.widthOfSequence groups body)
    if behind && behindLimit < width.least then
      some .lookbehindTooFar
    else if behind && width.least != width.most then
      some .lookbehindWidth
    else
      sequenceFault? groups template body
  | .conditional _ yes none => sequenceFault? groups template yes
  | .conditional _ yes (some no) =>
    (sequenceFault? groups template yes).or
      (sequenceFault? groups template no)
  | _ => none

/- The first such part of a sequence. -/
def sequenceFault?
    (groups : Nat → Width)
    (template : Bool) : List Node → Option Cause
  | [] => none
  | node :: rest =>
    (fault? groups template node).or
      (sequenceFault? groups template rest)

/- The first such part of some alternatives. -/
def choiceFault?
    (groups : Nat → Width)
    (template : Bool) : List (List Node) → Option Cause
  | [] => none
  | body :: rest =>
    (sequenceFault? groups template body).or
      (choiceFault? groups template rest)

end

mutual

/- How far a part looks behind. -/
def farthestBehind
    (groups : Nat → Width) : Node → Nat
  | .repeated _ _ _ body => sequenceFarthestBehind groups body
  | .choice alternatives =>
    choiceFarthestBehind groups alternatives
  | .group _ _ _ body => sequenceFarthestBehind groups body
  | .atomic body => sequenceFarthestBehind groups body
  | .look behind _ body =>
    let width := Node.widthOfSequence groups body
    max (if behind then width.least else 0)
      (sequenceFarthestBehind groups body)
  | .conditional _ yes none => sequenceFarthestBehind groups yes
  | .conditional _ yes (some no) =>
    max (sequenceFarthestBehind groups yes)
      (sequenceFarthestBehind groups no)
  | _ => 0

/- How far a part of a sequence looks behind at most. -/
def sequenceFarthestBehind
    (groups : Nat → Width) : List Node → Nat
  | [] => 0
  | node :: rest =>
    max (farthestBehind groups node)
      (sequenceFarthestBehind groups rest)

/- How far one of some alternatives looks behind at most. -/
def choiceFarthestBehind
    (groups : Nat → Width) : List (List Node) → Nat
  | [] => 0
  | body :: rest =>
    max (sequenceFarthestBehind groups body)
      (choiceFarthestBehind groups rest)

end

/- Is code with some parts invalid in a release? -/
def Release.isBeyond
    (release : Release)
    (groups : Nat → Width)
    (parts : List Node) : Bool :=
  release.reach?.any fun limit =>
    limit ≤ sequenceFarthestBehind groups parts

------------------------------------------------------------
-- Compiled Expressions
------------------------------------------------------------

/- An expression that can be searched for. -/
structure Compiled where
  source : Text
  expression : Expression

/- Check an expression. -/
def compile (source : Text) : Except Refusal Compiled := do
  let expression ← readExpression source
  let groups := Reading.widthOf expression.widths
  match sequenceFault? groups expression.flags.template
      expression.parts with
  | some cause => throw (.malformed cause none)
  | none =>
    if Engine.release.isBeyond groups expression.parts then
      throw .behindTooFar
    return ⟨source, expression⟩

/- What a search for the expression finds in a text. -/
def Compiled.searchIn
    (pattern : Compiled)
    (text : Text) : Finding :=
  let expression := pattern.expression
  search (Reading.widthOf expression.widths) expression.flags
    expression.parts text

/- Does the expression match anywhere in a text? -/
def Compiled.occursIn
    (pattern : Compiled)
    (text : Text) : Bool :=
  pattern.searchIn text == .present

end Pattern

end Replay
