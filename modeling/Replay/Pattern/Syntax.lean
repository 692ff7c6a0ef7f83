import Replay.Number.Reader
import Replay.Text.Quoted

/-
  This file defines the syntax trees of regular expressions
  and the reasons why an expression is refused.

  Key definitions include:
    * `Flags`
    * `Category`
    * `SetItem`
    * `Anchor`
    * `Node`
    * `Node.width`
    * `Refusal`
    * `Refusal.message`
-/

------------------------------------------------------------
-- Flags
------------------------------------------------------------

namespace Replay

namespace Pattern

open Number Text

/- The switches that an expression turns on and off. -/
structure Flags where
  ignoreCase : Bool := false
  multiLine : Bool := false
  dotAll : Bool := false
  verbose : Bool := false
  ascii : Bool := false
  unicode : Bool := false
  template : Bool := false
  deriving DecidableEq, Repr

namespace Flags

/- The switches that are on in one of two sets. -/
def union (a b : Flags) : Flags where
  ignoreCase := a.ignoreCase || b.ignoreCase
  multiLine := a.multiLine || b.multiLine
  dotAll := a.dotAll || b.dotAll
  verbose := a.verbose || b.verbose
  ascii := a.ascii || b.ascii
  unicode := a.unicode || b.unicode
  template := a.template || b.template

/- The switches of the first set that are not in the second. -/
def without (a b : Flags) : Flags where
  ignoreCase := a.ignoreCase && !b.ignoreCase
  multiLine := a.multiLine && !b.multiLine
  dotAll := a.dotAll && !b.dotAll
  verbose := a.verbose && !b.verbose
  ascii := a.ascii && !b.ascii
  unicode := a.unicode && !b.unicode
  template := a.template && !b.template

/- The switches that are on in both of two sets. -/
def meet (a b : Flags) : Flags :=
  a.without (a.without b)

/- Is no switch on? -/
def isEmpty (a : Flags) : Bool :=
  a == {}

/- The two switches that choose an alphabet. -/
def alphabet : Flags :=
  { ascii := true, unicode := true }

/-
  The switches inside a group: a chosen alphabet replaces
  the one outside.
-/
def combine (outside added removed : Flags) : Flags :=
  let kept :=
    if (added.meet alphabet).isEmpty then outside
    else outside.without alphabet
  (kept.union added).without removed

/- The switch of a letter. -/
def ofLetter? : Char → Option Flags
  | 'i' => some { ignoreCase := true }
  | 'm' => some { multiLine := true }
  | 's' => some { dotAll := true }
  | 'x' => some { verbose := true }
  | 'a' => some { ascii := true }
  | 'u' => some { unicode := true }
  | 't' => some { template := true }
  | _ => none

end Flags

------------------------------------------------------------
-- Syntax Trees
------------------------------------------------------------

/- The classes of characters that an escape names. -/
inductive Category where
  | digit
  | space
  | word
  deriving DecidableEq, Repr

/- One item of a set of characters, by code points. -/
inductive SetItem where
  | single (code : Nat)
  | range (low high : Nat)
  | category (negated : Bool) (category : Category)
  deriving DecidableEq, Repr

/- The positions that an expression can ask for. -/
inductive Anchor where
  | start
  | finish
  | textStart
  | textFinish
  | boundary
  | noBoundary
  deriving DecidableEq, Repr

/- How a repetition chooses the number of its rounds. -/
inductive Greed where
  | greedy
  | lazy
  | possessive
  deriving DecidableEq, Repr

/-
  A part of an expression.  The parts of a sequence stand in
  a list.  A repetition without a greatest number of rounds
  has none; a group without an index captures nothing.
-/
inductive Node where
  | literal (code : Nat)
  | notLiteral (code : Nat)
  | anything
  | oneOf (negated : Bool) (items : List SetItem)
  | anchor (anchor : Anchor)
  | choice (alternatives : List (List Node))
  | repeated (greed : Greed) (least : Nat) (most : Option Nat)
      (body : List Node)
  | group (index : Option Nat) (added removed : Flags)
      (body : List Node)
  | atomic (body : List Node)
  | look (behind negative : Bool) (body : List Node)
  | reference (index : Nat)
  | conditional (index : Nat) (yes : List Node)
      (no : Option (List Node))
  deriving Repr

namespace Node

/-
  Parts that count as equal where alternatives are compared.
  Parts that hold other parts never do.
-/
def sameAs : Node → Node → Bool
  | literal a, literal b => a == b
  | notLiteral a, notLiteral b => a == b
  | anything, anything => true
  | oneOf m xs, oneOf n ys => m == n && xs == ys
  | anchor a, anchor b => a == b
  | reference a, reference b => a == b
  | _, _ => false

end Node

------------------------------------------------------------
-- Widths
------------------------------------------------------------

/- No width is counted beyond this one. -/
def widthLimit : Nat := 18446744073709551616

/- The least and the greatest number of characters matched. -/
structure Width where
  least : Nat
  most : Nat
  deriving DecidableEq, Repr

namespace Width

/- The width of one part after another. -/
def add (a b : Width) : Width :=
  ⟨a.least + b.least, a.most + b.most⟩

/- The width of one part or another. -/
def either (a b : Width) : Width :=
  ⟨min a.least b.least, max a.most b.most⟩

/- A width within the limits. -/
def capped (a : Width) : Width :=
  ⟨min a.least widthLimit, min a.most widthLimit⟩

/- The width of a number of rounds. -/
def rounds
    (a : Width)
    (least : Nat)
    (most : Option Nat) : Width :=
  match most with
  | none =>
    ⟨a.least * least, if a.most = 0 then 0 else widthLimit⟩
  | some most => ⟨a.least * least, a.most * most⟩

end Width

namespace Node

mutual

/-
  The width of a part, given the widths of the groups that
  are closed before it.
-/
def width (groups : Nat → Width) : Node → Width
  | literal _ => ⟨1, 1⟩
  | notLiteral _ => ⟨1, 1⟩
  | anything => ⟨1, 1⟩
  | oneOf _ _ => ⟨1, 1⟩
  | anchor _ => ⟨0, 0⟩
  | choice alternatives =>
    widthOfChoice groups alternatives
  | repeated _ least most body =>
    (widthOfSequence groups body).rounds least most
  | group _ _ _ body => widthOfSequence groups body
  | atomic body => widthOfSequence groups body
  | look _ _ _ => ⟨0, 0⟩
  | reference index => groups index
  | conditional _ yes none =>
    Width.either (widthOfSequence groups yes) ⟨0, 0⟩
  | conditional _ yes (some no) =>
    Width.either (widthOfSequence groups yes)
      (widthOfSequence groups no)

/- The width of a sequence of parts. -/
def widthOfSequence
    (groups : Nat → Width) : List Node → Width
  | [] => ⟨0, 0⟩
  | node :: rest =>
    (Width.add (width groups node)
      (widthOfSequence groups rest)).capped

/- The width of one of some alternatives. -/
def widthOfChoice
    (groups : Nat → Width) : List (List Node) → Width
  | [] => ⟨widthLimit, 0⟩
  | body :: rest =>
    Width.either (widthOfSequence groups body)
      (widthOfChoice groups rest)

end

end Node

------------------------------------------------------------
-- Refusals
------------------------------------------------------------

/- Why an expression is not well formed. -/
inductive Cause where
  | trailingBackslash
  | incompleteEscape (escape : String)
  | badEscape (escape : String)
  | octalTooLarge (escape : String)
  | missingBrace
  | undefinedCharacter (name : String)
  | missingName (kind : String)
  | unterminatedName (mark : String)
  | badGroupName (name : Text)
  | unknownGroup (name : Text)
  | redefinedGroup (name : Text) (index before : Nat)
  | openGroup
  | lookbehindGroup
  | badGroupNumber
  | invalidReference (index : Nat)
  | unterminatedSet
  | badRange (first last : Text)
  | nothingToRepeat
  | multipleRepeat
  | repeatOrder
  | endOfPattern
  | unknownExtension (text : Text)
  | unterminatedComment
  | unterminatedGroup
  | tooManyBranches
  | flagsNotAtStart
  | localeFlag
  | alphabetFlags
  | missingFlagEnd
  | unknownFlag
  | missingFlag
  | missingColon
  | globalFlagOn
  | alphabetFlagOff
  | globalFlagOff
  | flagOnAndOff
  | unbalancedParenthesis
  | lookbehindTooFar
  | lookbehindWidth
  | templateRepeat (greed : Greed)
  deriving DecidableEq, Repr

/- The wording of a cause. -/
def Cause.message : Cause → String
  | trailingBackslash => "bad escape (end of pattern)"
  | incompleteEscape escape => "incomplete escape " ++ escape
  | badEscape escape => "bad escape " ++ escape
  | octalTooLarge escape =>
    "octal escape value " ++ escape ++
      " outside of range 0-0o377"
  | missingBrace => "missing \x7b"
  | undefinedCharacter name =>
    "undefined character name " ++ quote name
  | missingName kind => "missing " ++ kind
  | unterminatedName mark =>
    "missing " ++ mark ++ ", unterminated name"
  | badGroupName name =>
    "bad character in group name " ++ quote name
  | unknownGroup name => "unknown group name " ++ quote name
  | redefinedGroup name index before =>
    "redefinition of group name " ++ quote name ++
      " as group " ++ natText index ++
      "; was group " ++ natText before
  | openGroup => "cannot refer to an open group"
  | lookbehindGroup =>
    "cannot refer to group defined in the same " ++
      "lookbehind subpattern"
  | badGroupNumber => "bad group number"
  | invalidReference index =>
    "invalid group reference " ++ natText index
  | unterminatedSet => "unterminated character set"
  | badRange first last =>
    "bad character range " ++ first.replaced ++ "-" ++
      last.replaced
  | nothingToRepeat => "nothing to repeat"
  | multipleRepeat => "multiple repeat"
  | repeatOrder => "min repeat greater than max repeat"
  | endOfPattern => "unexpected end of pattern"
  | unknownExtension text => "unknown extension ?" ++ text.replaced
  | unterminatedComment => "missing ), unterminated comment"
  | unterminatedGroup => "missing ), unterminated subpattern"
  | tooManyBranches =>
    "conditional backref with more than two branches"
  | flagsNotAtStart =>
    "global flags not at the start of the expression"
  | localeFlag =>
    "bad inline flags: cannot use 'L' flag with a str pattern"
  | alphabetFlags =>
    "bad inline flags: flags 'a', 'u' and 'L' are incompatible"
  | missingFlagEnd => "missing -, : or )"
  | unknownFlag => "unknown flag"
  | missingFlag => "missing flag"
  | missingColon => "missing :"
  | globalFlagOn =>
    "bad inline flags: cannot turn on global flag"
  | alphabetFlagOff =>
    "bad inline flags: cannot turn off flags 'a', 'u' and 'L'"
  | globalFlagOff =>
    "bad inline flags: cannot turn off global flag"
  | flagOnAndOff => "bad inline flags: flag turned on and off"
  | unbalancedParenthesis => "unbalanced parenthesis"
  | lookbehindTooFar => "looks too much behind"
  | lookbehindWidth =>
    "look-behind requires fixed-width pattern"
  | templateRepeat .greedy =>
    "internal: unsupported template operator MAX_REPEAT"
  | templateRepeat .lazy =>
    "internal: unsupported template operator MIN_REPEAT"
  | templateRepeat .possessive =>
    "internal: unsupported template operator POSSESSIVE_REPEAT"

/-
  Why an expression is refused: it is not well formed, at a
  position or as a whole; it counts rounds or numbers a
  character beyond all limits; it looks behind too far; or it
  chooses two alphabets at once.
-/
inductive Refusal where
  | malformed (cause : Cause) (position : Option Nat)
  | tooManyDigits (count : Nat)
  | roundsTooLarge
  | codeTooLarge
  | behindTooFar
  | twoAlphabets
  deriving DecidableEq, Repr

/-
  The wording of a malformed expression.  Lines are counted
  only where the expression has more than one.
-/
def Cause.messageAt
    (cause : Cause)
    (source : Text)
    (position : Option Nat) : String :=
  match position with
  | none => cause.message
  | some position =>
    let before := source.take position
    let line := before.count (.char '\n') + 1
    let column :=
      (before.reverse.takeWhile (· ≠ .char '\n')).length + 1
    cause.message ++ " at position " ++ natText position ++
      (if source.contains (.char '\n') then
        " (line " ++ natText line ++
          ", column " ++ natText column ++ ")"
      else
        "")

end Pattern

end Replay
