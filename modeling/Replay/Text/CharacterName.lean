import Replay.Text.CharacterName.African
import Replay.Text.CharacterName.Alias
import Replay.Text.CharacterName.Ancient
import Replay.Text.CharacterName.Arrow
import Replay.Text.CharacterName.Brahmic
import Replay.Text.CharacterName.Cuneiform
import Replay.Text.CharacterName.Desert
import Replay.Text.CharacterName.EastAsian
import Replay.Text.CharacterName.Emoticon
import Replay.Text.CharacterName.European
import Replay.Text.CharacterName.Form
import Replay.Text.CharacterName.Gesture
import Replay.Text.CharacterName.Hangul
import Replay.Text.CharacterName.Hieroglyph
import Replay.Text.CharacterName.Ideograph
import Replay.Text.CharacterName.Insular
import Replay.Text.CharacterName.Mathematical
import Replay.Text.CharacterName.MiddleEastern
import Replay.Text.CharacterName.Minor
import Replay.Text.CharacterName.Modern
import Replay.Text.CharacterName.Notation
import Replay.Text.CharacterName.Phonetic
import Replay.Text.CharacterName.Picture
import Replay.Text.CharacterName.Punctuation
import Replay.Text.CharacterName.Shorthand
import Replay.Text.CharacterName.SouthAsian
import Replay.Text.CharacterName.SoutheastAsian
import Replay.Text.CharacterName.Syllable
import Replay.Text.CharacterName.Technical

/-
  This file defines the characters by their names.

  Key definitions include:
    * `characterNamed?`

  Names may be written in any case, but for those of unified
  ideographs and of the syllables of Hangul.
-/

------------------------------------------------------------
-- Names
------------------------------------------------------------

namespace Replay

namespace Text

/- The tables of names. -/
def nameTables : List (List NameRun) :=
  [europeanNames, middleEasternNames, southAsianNames,
    southeastAsianNames, africanNames, insularNames,
    phoneticNames, punctuationNames, technicalNames,
    arrowNames, eastAsianNames, syllableNames,
    modernNames, formNames, ancientNames, desertNames,
    brahmicNames, cuneiformNames, hieroglyphNames,
    minorNames, shorthandNames, notationNames,
    mathematicalNames, gestureNames, pictureNames,
    emoticonNames, selectorAliases]

/- The character with a name in capital letters. -/
def tabledNamed? (name : List Char) : Option Nat :=
  ((aliases.lookup (String.ofList name)).or
    (codedNamed? name)).or
    (nameTables.findSome? fun table =>
      table.findSome? (·.find? name))

/- The code point of the character with a name. -/
def characterNamed? (name : String) : Option Nat :=
  let name := name.toList
  match dropStart? hangulStart.toList name,
      dropStart? unifiedStart.toList name with
  | some sounds, _ => hangulNamed? sounds
  | none, some digits => unifiedNamed? digits
  | none, none => tabledNamed? (name.map Char.toUpper)

end Text

end Replay
