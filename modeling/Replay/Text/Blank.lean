/-
  This file defines white space and its removal from the two
  ends of a text.

  Key definitions include:
    * `isWhiteSpace`
    * `isBlank`
    * `trim`
-/

------------------------------------------------------------
-- Character Classes
------------------------------------------------------------

namespace Replay

namespace Text

/- The characters with the White_Space property. -/
def isWhiteSpace (c : Char) : Bool :=
  let n := c.toNat
  (9 ≤ n && n ≤ 13) || n == 0x20 || n == 0x85 || n == 0xA0 ||
    n == 0x1680 || (0x2000 ≤ n && n ≤ 0x200A) || n == 0x2028 ||
    n == 0x2029 || n == 0x202F || n == 0x205F || n == 0x3000

/-
  White space, and the four separators of information from
  U+001C to U+001F.
-/
def isBlank (c : Char) : Bool :=
  isWhiteSpace c || (0x1C ≤ c.toNat && c.toNat ≤ 0x1F)

------------------------------------------------------------
-- Trimming
------------------------------------------------------------

section Trimming

variable {α : Type}

/- Drop the last items that satisfy `p`. -/
def dropTrailing
    (p : α → Bool)
    (s : List α) : List α :=
  (s.reverse.dropWhile p).reverse

/- Drop the first and the last items that satisfy `p`. -/
def trimBy
    (p : α → Bool)
    (s : List α) : List α :=
  dropTrailing p (s.dropWhile p)

end Trimming

/- The text without blanks at its two ends. -/
def trim (s : String) : String :=
  String.ofList (trimBy isBlank s.toList)

end Text

end Replay
