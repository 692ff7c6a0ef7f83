import Replay.Number.Arithmetic
import Replay.Number.Radix
import Replay.Text.Base64
import Replay.Text.LowerCase
import Replay.Yaml.Moment
import Replay.Yaml.Tag

/-
  This file defines the values of scalars by their tags.

  Key definitions include:
    * `readYamlInteger`
    * `readYamlNumber`
    * `scalarValue`

  Numbers may be written with a `_` between digits, and in
  base sixty, with a colon between digits of that base.
-/

------------------------------------------------------------
-- Base Sixty
------------------------------------------------------------

namespace Replay

namespace Yaml

open Number Text

/- A text without its `_`. -/
def dropGrouping (text : Text) : Text :=
  text.filter (· != .char '_')

/- A text split into its sign, minus or not, and the rest. -/
def splitSign : Text → Bool × Text
  | .char '-' :: rest => (true, rest)
  | .char '+' :: rest => (false, rest)
  | rest => (false, rest)

/- The parts of a text between its colons. -/
def splitColons (text : Text) : List Text :=
  text.splitOn (.char ':')

/- The value of digits in base sixty, the first one highest. -/
def sixtiesValue (digits : List Int) : Int :=
  digits.foldl (fun value digit => 60 * value + digit) 0

/-
  The value of digits in base sixty, the last one highest:
  each is rounded when it is scaled and when it is added.
-/
def addSixties
    (value : Binary64)
    (base : Nat) : List Binary64 → Except Refusal Binary64
  | [] => .ok value
  | digit :: digits =>
    match Binary64.ofInt? base with
    | none => .error (.noValue .hugeNumber)
    | some scale =>
      addSixties (value.add (digit.multiply scale)) (60 * base)
        digits

------------------------------------------------------------
-- Integers
------------------------------------------------------------

/- The value of a decimal integer. -/
def decimalValue (text : Text) : Except Refusal Int :=
  (readInteger text).mapError fun fault =>
    .noValue (.integer fault)

/- The value of an integer with a base. -/
def radixValue
    (radix : Radix)
    (text : Text) : Except Refusal Int :=
  (readRadix radix text).mapError fun fault =>
    .noValue (.integer fault)

/-
  The value of an integer without its sign: binary after `0b`,
  hexadecimal after `0x`, octal after `0`, in base sixty with
  colons, or decimal.
-/
def magnitude (text : Text) : Except Refusal Int :=
  match text with
  | [] => .error (.noValue .emptyNumber)
  | [.char '0'] => .ok 0
  | .char '0' :: .char 'b' :: rest => radixValue .binary rest
  | .char '0' :: .char 'x' :: rest => radixValue .hexadecimal rest
  | .char '0' :: _ => radixValue .octal text
  | _ =>
    if text.contains (.char ':') then
      sixtiesValue <$> (splitColons text).mapM decimalValue
    else
      decimalValue text

/- The value of an integer. -/
def readYamlInteger (text : Text) : Except Refusal Int := do
  let text := dropGrouping text
  if text.isEmpty then throw (.noValue .emptyNumber)
  let (negative, body) := splitSign text
  let n ← magnitude body
  return if negative then -n else n

------------------------------------------------------------
-- Floating Point Numbers
------------------------------------------------------------

/- The value of a decimal number. -/
def numberValue (text : Text) : Except Refusal Binary64 :=
  match readNumber? text with
  | some x => .ok x
  | none => .error (.noValue (.number text))

/- The value of a number without its sign. -/
def numberMagnitude (text : Text) : Except Refusal Binary64 := do
  if text = ".inf" then
    return Binary64.infinity false
  else if text = ".nan" then
    return .nan
  else if text.contains (.char ':') then
    let digits ← (splitColons text).mapM numberValue
    addSixties .zero 1 digits.reverse
  else
    numberValue text

/- The value of a number. -/
def readYamlNumber (text : Text) : Except Refusal Binary64 := do
  let text := lowerCase (dropGrouping text)
  if text.isEmpty then throw (.noValue .emptyNumber)
  let (negative, body) := splitSign text
  let x ← numberMagnitude body
  return if negative then x.negate else x

------------------------------------------------------------
-- Other Values
------------------------------------------------------------

/- The value of a word for a truth value, in any case. -/
def readBoolean (text : Text) : Except Refusal Bool :=
  let word := lowerCase text
  if word = "yes" ∨ word = "true" ∨ word = "on" then .ok true
  else if word = "no" ∨ word = "false" ∨ word = "off" then .ok false
  else .error (.noValue (.boolean word))

/- The bytes of a text in Base64. -/
def readYamlBytes (text : Text) : Except Refusal (List UInt8) :=
  match text.mapM CodePoint.char? with
  | none => .error .malformed
  | some chars =>
    if chars.all fun c => c.toNat < 128 then
      match Base64.decode chars with
      | some bytes => .ok bytes
      | none => .error .malformed
    else
      .error .malformed

/- The value of a date or a time. -/
def readYamlMoment (text : Text) : Except Refusal Scalar :=
  match (text.mapM CodePoint.char?).bind Moment.read? with
  | none => .error (.noValue .noMoment)
  | some moment =>
    match moment.fault? with
    | some fault => .error (.noValue (.moment fault))
    | none => .ok moment.toScalar

/- The value of a scalar with a tag. -/
def scalarValue
    (tag : Tag)
    (text : Text) : Except Refusal Scalar :=
  match tag with
  | .null => .ok .null
  | .boolean => .boolean <$> readBoolean text
  | .integer => .integer <$> readYamlInteger text
  | .number => .number <$> readYamlNumber text
  | .bytes => .bytes <$> readYamlBytes text
  | .moment => readYamlMoment text
  | .text => .ok (.text text)
  | _ => .error .malformed

end Yaml

end Replay
