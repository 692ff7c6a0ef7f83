import Replay.Text.CharacterName.Run

/-
  This file defines the names of the syllables of Hangul,
  which are made of the names of their sounds.

  Key definitions include:
    * `hangulNamed?`
-/

------------------------------------------------------------
-- Sounds
------------------------------------------------------------

namespace Replay

namespace Text

/- The start of the names of syllables. -/
def hangulStart : String :=
  "HANGUL SYLLABLE "

/- The sounds that a syllable begins with. -/
def hangulOnsets : List String :=
  ["G", "GG", "N", "D", "DD", "R", "M", "B", "BB", "S", "SS",
    "", "J", "JJ", "C", "K", "T", "P", "H"]

/- The vowels of a syllable. -/
def hangulVowels : List String :=
  ["A", "AE", "YA", "YAE", "EO", "E", "YEO", "YE", "O", "WA",
    "WAE", "OE", "YO", "U", "WEO", "WE", "WI", "YU", "EU",
    "YI", "I"]

/- The sounds that a syllable ends with. -/
def hangulCodas : List String :=
  ["", "G", "GG", "GS", "N", "NJ", "NH", "D", "L", "LG", "LM",
    "LB", "LS", "LT", "LP", "LH", "M", "B", "BS", "S", "SS",
    "NG", "J", "C", "K", "T", "P", "H"]

------------------------------------------------------------
-- Syllables
------------------------------------------------------------

/-
  The longest of some sounds that a name begins with, by its
  place among them, and what follows it.
-/
def longestSound?
    (name : List Char) :
    List String → Nat → Option (Nat × List Char)
  | [], _ => none
  | sound :: sounds, index =>
    let later := longestSound? name sounds (index + 1)
    match dropStart? sound.toList name, later with
    | none, later => later
    | some rest, none => some (index, rest)
    | some rest, some (other, rest') =>
      if rest'.length < rest.length then some (other, rest')
      else some (index, rest)

/- The syllable with the sounds of a name. -/
def hangulNamed? (name : List Char) : Option Nat := do
  let (onset, rest) ← longestSound? name hangulOnsets 0
  let (vowel, rest) ← longestSound? rest hangulVowels 0
  let (coda, rest) ← longestSound? rest hangulCodas 0
  if rest.isEmpty then
    some (0xAC00 + (onset * 21 + vowel) * 28 + coda)
  else
    none

end Text

end Replay
