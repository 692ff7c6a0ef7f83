import Replay.Number.Shortest
import Replay.Text.Blank
import Replay.Text.Digit
import Replay.Text.Quoted

/-
  This file defines the reading of numbers from text.

  Key definitions include:
    * `digitLimit`
    * `IntegerFault`
    * `readInteger`
    * `writeInteger`
    * `readDecimal?`
    * `readNumber?`
    * `readPlainInteger`
    * `readPlainNumber?`

  Two readers exist for each kind of number.  The general one
  takes the digits and the blanks of all scripts.  The plain
  one takes the digits from 0 to 9 alone.
-/

------------------------------------------------------------
-- Digits
------------------------------------------------------------

namespace Replay

namespace Number

open Text

/- The value of a row of digits from 0 to 9. -/
def digitsValue (digits : List Char) : Nat :=
  digits.foldl (fun value c => 10 * value + (c.toNat - 48)) 0

/- Is the row one or more digits with single `_` between? -/
def isGrouped : List Char → Bool
  | [] => false
  | [c] => c.isDigit
  | c :: '_' :: rest => c.isDigit && isGrouped rest
  | c :: rest => c.isDigit && isGrouped rest

/- A row of digits without the `_` between them. -/
def ungroup (s : List Char) : List Char :=
  s.filter (· != '_')

/- A row of digits with nothing but digits in it. -/
def isDigits (s : List Char) : Bool :=
  !s.isEmpty && s.all Char.isDigit

/- A text split into its sign, minus or not, and the rest. -/
def splitSign : List Char → Bool × List Char
  | '-' :: rest => (true, rest)
  | '+' :: rest => (false, rest)
  | rest => (false, rest)

/- An integer from its sign and its magnitude. -/
def signedInt
    (negative : Bool)
    (n : Nat) : Int :=
  if negative then -(n : Int) else n

------------------------------------------------------------
-- Plain Characters
------------------------------------------------------------

/- The blanks that may stand around a number. -/
def isNumberSpace (c : Char) : Bool :=
  c == ' ' || (9 ≤ c.toNat && c.toNat ≤ 13)

/-
  A code point of any script as a plain character: a blank
  as a space, a digit as one from 0 to 9, and any other one
  as a character that no number holds.
-/
def plainCharacter : CodePoint → Char
  | .half _ => '?'
  | .char c =>
    if c.toNat < 127 then c
    else if isBlank c then ' '
    else
      match digitValue? c with
      | some value => Char.ofNat (48 + value)
      | none => '?'

------------------------------------------------------------
-- Integers
------------------------------------------------------------

/- The most digits that are converted to or from an integer. -/
def digitLimit : Nat := 4300

/- Why a text or an integer was not converted. -/
inductive IntegerFault where
  | notInteger (base : Nat) (text : Text)
  | tooManyDigits (count : Nat)
  | tooLarge
  deriving DecidableEq, Repr

/- The wording of a fault; a long text is cut short. -/
def IntegerFault.message : IntegerFault → String
  | notInteger base text =>
    "invalid literal for int() with base " ++ natText base ++
      ": " ++ String.ofList ((quote text).toList.take 200)
  | tooManyDigits count =>
    "Exceeds the limit (4300 digits) for integer string " ++
      "conversion: value has " ++ natText count ++
      " digits; use sys.set_int_max_str_digits() to " ++
      "increase the limit"
  | tooLarge =>
    "Exceeds the limit (4300 digits) for integer string " ++
      "conversion; use sys.set_int_max_str_digits() to " ++
      "increase the limit"

/-
  Read an integer with a sign, blanks around it and single
  `_` between its digits.
-/
def readInteger (text : Text) : Except IntegerFault Int :=
  let plain := text.map plainCharacter
  let (negative, body) := splitSign (plain.dropWhile isNumberSpace)
  let row := body.takeWhile fun c => c.isDigit || c == '_'
  let rest := body.drop row.length
  let digits := ungroup row
  if !isGrouped row then
    .error (.notInteger 10 text)
  else if digitLimit < digits.length then
    .error (.tooManyDigits digits.length)
  else if !rest.all isNumberSpace then
    .error (.notInteger 10 text)
  else
    .ok (signedInt negative (digitsValue digits))

/- Write an integer, if it is not too long. -/
def writeInteger (n : Int) : Except IntegerFault String :=
  if digitLimit < (digitChars n.natAbs).length then
    .error .tooLarge
  else
    .ok (intText n)

/- Why a text is not a plain integer. -/
inductive PlainIntegerFault where
  | notInteger
  | tooLong
  deriving DecidableEq, Repr

/-
  Read an integer whose digits may be followed by a point and
  zeros.
-/
def readPlainInteger
    (text : String) : Except PlainIntegerFault Int :=
  let body := trimBy isWhiteSpace text.toList
  if digitLimit < (String.ofList body).utf8ByteSize then
    .error .tooLong
  else
    let (negative, rest) := splitSign body
    let whole := rest.takeWhile (· != '.')
    let zeros := (rest.drop whole.length).drop 1
    if isGrouped whole && zeros.all (· == '0') then
      .ok (signedInt negative (digitsValue (ungroup whole)))
    else
      .error .notInteger

------------------------------------------------------------
-- Floating Point Numbers
------------------------------------------------------------

/-
  The number nearest to a signed decimal.  Decimals far above
  or below all numbers are decided by their size alone.
-/
def ofDecimal
    (negative : Bool)
    (digits : List Char)
    (exponent : Int) : Binary64 :=
  let significant := digits.dropWhile (· == '0')
  let size := exponent + significant.length
  if significant.isEmpty ∨ size < -400 then
    Binary64.ofCode negative 0
  else if 400 < size then
    Binary64.infinity negative
  else
    Binary64.ofFraction negative
      (Fraction.ofDecimal (digitsValue significant) exponent)

/- The exponent after the digits: `e`, a sign and digits. -/
def readExponent? : List Char → Option Int
  | [] => some 0
  | mark :: rest =>
    if mark = 'e' ∨ mark = 'E' then
      let (negative, digits) := splitSign rest
      if isDigits digits then
        some (signedInt negative (digitsValue digits))
      else
        none
    else
      none

/- Digits, a point and an exponent, without a sign. -/
def readDecimal?
    (negative : Bool)
    (body : List Char) : Option Binary64 :=
  let whole := body.takeWhile Char.isDigit
  let afterWhole := body.drop whole.length
  let part :=
    match afterWhole with
    | '.' :: rest => rest.takeWhile Char.isDigit
    | _ => []
  let afterPart :=
    match afterWhole with
    | '.' :: rest => rest.drop part.length
    | rest => rest
  if whole.isEmpty && part.isEmpty then
    none
  else
    (readExponent? afterPart).map fun exponent =>
      ofDecimal negative (whole ++ part)
        (exponent - part.length)

/- A number with a sign, or one of the words for the others. -/
def readSigned? (body : List Char) : Option Binary64 :=
  let (negative, rest) := splitSign body
  let word := rest.map Char.toLower
  if word = ['i', 'n', 'f'] ∨ word = "infinity".toList then
    some (Binary64.infinity negative)
  else if word = ['n', 'a', 'n'] then
    some .nan
  else
    readDecimal? negative rest

/- Does every `_` stand between two digits? -/
def underscoresGroup : Char → List Char → Bool
  | before, [] => before != '_'
  | before, c :: rest =>
    (if c = '_' then before.isDigit
      else before != '_' || c.isDigit) &&
    underscoresGroup c rest

/- Read a number with the digits and blanks of all scripts. -/
def readNumber? (text : Text) : Option Binary64 :=
  let body :=
    trimBy isNumberSpace (text.map plainCharacter)
  if body.contains '_' then
    if underscoresGroup ' ' body then
      readSigned? (ungroup body)
    else
      none
  else
    readSigned? body

/- Drop single `_` that stand within a text, if that is all. -/
def dropUnderscores? (s : List Char) : Option (List Char) :=
  let rec doubled : List Char → Bool
    | '_' :: '_' :: _ => true
    | _ :: rest => doubled rest
    | [] => false
  if s.head? = some '_' ∨ s.getLast? = some '_' ∨ doubled s then
    none
  else
    some (ungroup s)

/- Read a number whose digits are those from 0 to 9. -/
def readPlainNumber? (text : String) : Option Binary64 :=
  let body := trimBy isWhiteSpace text.toList
  match readSigned? body with
  | some x => some x
  | none => (dropUnderscores? body).bind readSigned?

end Number

end Replay
