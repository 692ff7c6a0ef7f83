import Replay.Text.CharacterName.Run

/-
  This file defines the names that are made of the code
  points of their characters.

  Key definitions include:
    * `unifiedNamed?`
    * `codedNamed?`
-/

------------------------------------------------------------
-- Codes
------------------------------------------------------------

namespace Replay

namespace Text

/- The value of a digit of a code; its letters are capital. -/
def codeDigit? (c : Char) : Option Nat :=
  if '0' ≤ c ∧ c ≤ '9' then some (c.toNat - 48)
  else if 'A' ≤ c ∧ c ≤ 'F' then some (c.toNat - 55)
  else none

/- The value of the digits of a code. -/
def codeValue? (digits : List Char) : Option Nat :=
  (digits.mapM codeDigit?).map fun values =>
    values.foldl (fun value digit => value * 16 + digit) 0

/- Is a code point in one of some ranges? -/
def inRanges
    (ranges : List (Nat × Nat))
    (code : Nat) : Bool :=
  ranges.any fun (low, high) => low ≤ code && code ≤ high

------------------------------------------------------------
-- Unified Ideographs
------------------------------------------------------------

/- The start of the names of unified ideographs. -/
def unifiedStart : String :=
  "CJK UNIFIED IDEOGRAPH-"

/- The unified ideographs. -/
def unifiedRanges : List (Nat × Nat) :=
  [(0x3400, 0x4DBF), (0x4E00, 0x9FFF), (0x20000, 0x2A6DF),
    (0x2A700, 0x2B738), (0x2B740, 0x2B81D),
    (0x2B820, 0x2CEA1), (0x2CEB0, 0x2EBE0),
    (0x30000, 0x3134A)]

/-
  The unified ideograph with a code of four or five digits,
  which may have a zero at its start.
-/
def unifiedNamed? (digits : List Char) : Option Nat := do
  let code ← codeValue? digits
  if (digits.length = 4 ∨ digits.length = 5) ∧
      inRanges unifiedRanges code then
    some code
  else
    none

------------------------------------------------------------
-- Other Characters
------------------------------------------------------------

/- Other characters with codes in their names. -/
def codedRanges : List (String × List (Nat × Nat)) :=
  [("CJK COMPATIBILITY IDEOGRAPH-",
      [(0xF900, 0xFA6D), (0xFA70, 0xFAD9),
        (0x2F800, 0x2FA1D)]),
    ("KHITAN SMALL SCRIPT CHARACTER-",
      [(0x18B00, 0x18CD5)]),
    ("NUSHU CHARACTER-", [(0x1B170, 0x1B2FB)])]

/- The digits of a code point, without a zero at their start. -/
def isCodeOf
    (digits : List Char)
    (code : Nat) : Bool :=
  digits.head? != some '0' && codeValue? digits == some code

/- The character with a name that has a code. -/
def codedNamed? (name : List Char) : Option Nat :=
  codedRanges.findSome? fun (start, ranges) => do
    let digits ← dropStart? start.toList name
    let code ← codeValue? digits
    if isCodeOf digits code ∧ inRanges ranges code then some code
    else none

end Text

end Replay
