import Replay.Text.CodePoint
import Replay.Text.Printable

/-
  This file defines quotations: a text between two quote
  marks, with escapes for what cannot be shown.

  Key definitions include:
    * `hexDigits`
    * `escape`
    * `quote`
    * `quoteBytes`

  A text is quoted with apostrophes, unless it holds an
  apostrophe and no quotation mark.
-/

------------------------------------------------------------
-- Hexadecimal Digits
------------------------------------------------------------

namespace Replay

namespace Text

/- The lowercase hexadecimal digit of a number below 16. -/
def hexDigit (n : Nat) : Char :=
  if n < 10 then Char.ofNat (48 + n) else Char.ofNat (87 + n)

/- The last `width` hexadecimal digits of a number. -/
def hexDigits : Nat → Nat → List Char
  | 0, _ => []
  | width + 1, n => hexDigits width (n / 16) ++ [hexDigit (n % 16)]

/- The value of one hexadecimal digit of either case. -/
def hexValue? (c : Char) : Option Nat :=
  let n := c.toNat
  if 48 ≤ n ∧ n ≤ 57 then some (n - 48)
  else if 97 ≤ n ∧ n ≤ 102 then some (n - 87)
  else if 65 ≤ n ∧ n ≤ 70 then some (n - 55)
  else none

------------------------------------------------------------
-- Quotations
------------------------------------------------------------

/- The shortest numbered escape that can hold a code point. -/
def numberedEscape (code : Nat) : List Char :=
  if code < 0x100 then '\\' :: 'x' :: hexDigits 2 code
  else if code < 0x10000 then '\\' :: 'u' :: hexDigits 4 code
  else '\\' :: 'U' :: hexDigits 8 code

/- How a character is written between two quote marks. -/
def escapeCharacter
    (mark c : Char) : List Char :=
  if c = mark ∨ c = '\\' then ['\\', c]
  else if c = '\n' then ['\\', 'n']
  else if c = '\r' then ['\\', 'r']
  else if c = '\t' then ['\\', 't']
  else if isPrintable c then [c]
  else numberedEscape c.toNat

/- How a code point is written between two quote marks. -/
def escape
    (mark : Char) : CodePoint → List Char
  | .char c => escapeCharacter mark c
  | .half place => numberedEscape (CodePoint.half place).code

/- The quote mark of a text. -/
def quoteMark (s : Text) : Char :=
  if s.contains (.char '\'') && !s.contains (.char '"') then '"'
  else '\''

/- A text between its quote marks. -/
def quote (s : Text) : String :=
  let mark := quoteMark s
  String.ofList (mark :: (s.flatMap (escape mark) ++ [mark]))

/- How a byte is written between two quote marks. -/
def escapeByte
    (mark : Char)
    (b : UInt8) : List Char :=
  let c := Char.ofNat b.toNat
  if b.toNat < 0x7F then
    if 0x20 ≤ b.toNat ∨ c = '\n' ∨ c = '\r' ∨ c = '\t' then
      escapeCharacter mark c
    else
      '\\' :: 'x' :: hexDigits 2 b.toNat
  else
    '\\' :: 'x' :: hexDigits 2 b.toNat

/- A row of bytes between quote marks, with a `b` before. -/
def quoteBytes (bytes : List UInt8) : String :=
  let mark := quoteMark (bytes.map fun b => .char (Char.ofNat b.toNat))
  String.ofList
    ('b' :: mark :: (bytes.flatMap (escapeByte mark) ++ [mark]))

end Text

end Replay
