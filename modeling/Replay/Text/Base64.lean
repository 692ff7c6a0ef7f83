/-
  This file defines the decoding of Base64: rows of four
  characters, with six bits each, for three bytes.

  Key definitions include:
    * `Base64.value?`
    * `Base64.decode`

  Characters without a value are passed over.  Where a row is
  cut short, marks of padding must fill it up; they end the
  text.
-/

------------------------------------------------------------
-- Values
------------------------------------------------------------

namespace Replay

namespace Text

namespace Base64

/- The value of a character. -/
def value? (c : Char) : Option Nat :=
  let n := c.toNat
  if 65 ≤ n ∧ n ≤ 90 then some (n - 65)
  else if 97 ≤ n ∧ n ≤ 122 then some (n - 71)
  else if 48 ≤ n ∧ n ≤ 57 then some (n + 4)
  else if c = '+' then some 62
  else if c = '/' then some 63
  else none

------------------------------------------------------------
-- Decoding
------------------------------------------------------------

/-
  The bytes of a text in the middle of a row: how many
  characters came before in the row, the bits of the last one
  that are left, and how many marks of padding came since.
-/
def decodeFrom
    (place bits pads : Nat) :
    List Char → Option (List UInt8)
  | [] => if place = 0 then some [] else none
  | c :: rest =>
    if c = '=' then
      if place < 2 then decodeFrom place bits pads rest
      else if 4 ≤ place + pads + 1 then some []
      else decodeFrom place bits (pads + 1) rest
    else
      match value? c, place with
      | none, _ => decodeFrom place bits pads rest
      | some v, 0 => decodeFrom 1 v 0 rest
      | some v, 1 =>
        (decodeFrom 2 (v % 16) 0 rest).map
          (UInt8.ofNat (bits * 4 + v / 16) :: ·)
      | some v, 2 =>
        (decodeFrom 3 (v % 4) 0 rest).map
          (UInt8.ofNat (bits * 16 + v / 4) :: ·)
      | some v, _ =>
        (decodeFrom 0 0 0 rest).map
          (UInt8.ofNat (bits * 64 + v) :: ·)

/- The bytes of a text. -/
def decode (text : List Char) : Option (List UInt8) :=
  decodeFrom 0 0 0 text

end Base64

end Text

end Replay
