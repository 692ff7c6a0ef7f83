/-
  This file defines texts: rows of code points, where half of
  a surrogate pair may stand alone.

  Key definitions include:
    * `CodePoint`
    * `CodePoint.ofCode`
    * `Text`
    * `Text.ofString`
    * `Text.toString?`
    * `Text.replaced`

  A string is a text of whole characters.  Escapes can name a
  half of a pair, which no encoding of Unicode can hold.
-/

------------------------------------------------------------
-- Code Points
------------------------------------------------------------

namespace Replay

/-
  A code point: a character, or half of a surrogate pair by
  its place from U+D800 on.
-/
inductive CodePoint where
  | char (c : Char)
  | half (place : Fin 2048)
  deriving DecidableEq, Repr

namespace CodePoint

/- The number of a code point. -/
def code : CodePoint → Nat
  | char c => c.toNat
  | half place => 0xD800 + place.val

/- The code point of a number. -/
def ofCode (n : Nat) : CodePoint :=
  if h : 0xD800 ≤ n ∧ n < 0xE000 then
    half ⟨n - 0xD800, by omega⟩
  else
    char (Char.ofNat n)

/- The character, if it is a whole one. -/
def char? : CodePoint → Option Char
  | char c => some c
  | half _ => none

/- Is it a character of a class?  A half is in no class. -/
def isIn
    (p : Char → Bool) : CodePoint → Bool
  | char c => p c
  | half _ => false

/- What stands for it in a string: three marks for a half. -/
def replaced : CodePoint → List Char
  | char c => [c]
  | half _ => ['\uFFFD', '\uFFFD', '\uFFFD']

end CodePoint

------------------------------------------------------------
-- Texts
------------------------------------------------------------

/- A row of code points. -/
abbrev Text :=
  List CodePoint

namespace Text

/- The text of a string. -/
def ofString (s : String) : Text :=
  s.toList.map .char

instance : Coe String Text :=
  ⟨ofString⟩

/- The string of a text without halves. -/
def toString? (s : Text) : Option String :=
  (s.mapM CodePoint.char?).map String.ofList

/- The string where marks stand for the halves of a text. -/
def replaced (s : Text) : String :=
  String.ofList (s.flatMap CodePoint.replaced)

end Text

end Replay
