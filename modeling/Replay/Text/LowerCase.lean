import Replay.Text.CodePoint
import Replay.Text.LetterCase

/-
  This file defines the lower case of texts.

  Key definitions include:
    * `lowerChars`
    * `lowerCase`
-/

------------------------------------------------------------
-- Lower Case
------------------------------------------------------------

namespace Replay

namespace Text

/-
  The lower case of a character.  That of a capital `I` with
  a dot is a small one with a dot above it.
-/
def lowerChars (c : Char) : List Char :=
  if c = '\u0130' then ['i', '\u0307']
  else [Char.ofNat (lowerCode c.toNat)]

/- The lower case of a text. -/
def lowerCase (s : Text) : Text :=
  s.flatMap fun
    | .char c => (lowerChars c).map .char
    | .half place => [.half place]

end Text

end Replay
