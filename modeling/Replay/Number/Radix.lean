import Replay.Number.Reader

/-
  This file defines the reading of integers whose base is a
  power of two.

  Key definitions include:
    * `Radix`
    * `readRadix`

  Such integers may have any number of digits.
-/

------------------------------------------------------------
-- Bases
------------------------------------------------------------

namespace Replay

namespace Number

open Text

/- A base. -/
inductive Radix where
  | binary
  | octal
  | hexadecimal
  deriving DecidableEq, Repr

namespace Radix

/- The number of digits. -/
def base : Radix → Nat
  | binary => 2
  | octal => 8
  | hexadecimal => 16

/- The letter of the mark that an integer may begin with. -/
def letter : Radix → Char
  | binary => 'b'
  | octal => 'o'
  | hexadecimal => 'x'

/- A digit of the base. -/
def isDigit
    (radix : Radix)
    (c : Char) : Bool :=
  match hexValue? c with
  | some value => value < radix.base
  | none => false

/- The value of a row of digits. -/
def value
    (radix : Radix)
    (digits : List Char) : Nat :=
  digits.foldl
    (fun value c => radix.base * value + (hexValue? c).getD 0) 0

/- What follows the mark of the base, and one `_` after it. -/
def dropMark
    (radix : Radix) : List Char → List Char
  | '0' :: mark :: rest =>
    if mark.toLower = radix.letter then
      if rest.head? = some '_' then rest.drop 1 else rest
    else
      '0' :: mark :: rest
  | body => body

/- Is the row one or more digits with single `_` between? -/
def isGrouped
    (radix : Radix) : List Char → Bool
  | [] => false
  | [c] => radix.isDigit c
  | c :: '_' :: rest => radix.isDigit c && radix.isGrouped rest
  | c :: rest => radix.isDigit c && radix.isGrouped rest

end Radix

------------------------------------------------------------
-- Integers
------------------------------------------------------------

/-
  Read an integer with a sign, the mark of its base, blanks
  around it and single `_` between its digits.
-/
def readRadix
    (radix : Radix)
    (text : Text) : Except IntegerFault Int :=
  let plain := text.map plainCharacter
  let (negative, signed) := splitSign (plain.dropWhile isNumberSpace)
  let body := radix.dropMark signed
  let row := body.takeWhile fun c => radix.isDigit c || c == '_'
  let rest := body.drop row.length
  if radix.isGrouped row && rest.all isNumberSpace then
    .ok (signedInt negative (radix.value (ungroup row)))
  else
    .error (.notInteger radix.base text)

end Number

end Replay
