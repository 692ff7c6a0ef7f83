import Replay.Pattern.Syntax
import Replay.Text.Alphanumeric
import Replay.Text.LetterCase

/-
  This file defines which single characters the parts of an
  expression match.

  Key definitions include:
    * `Category.holds`
    * `foldCode`
    * `matchesLiteral`
    * `matchesSet`
    * `matchesUnit`

  Without regard to case, the lower case of a character is
  compared.  Lower case characters with one upper case count
  as the same, except under the small alphabet.
-/

------------------------------------------------------------
-- Categories
------------------------------------------------------------

namespace Replay

namespace Pattern

open Text

/- The characters of a class under an alphabet. -/
def Category.holds
    (flags : Flags)
    (category : Category)
    (c : CodePoint) : Bool :=
  c.isIn fun c =>
    match category with
    | digit => if flags.unicode then isDigit c else c.isDigit
    | space =>
      if flags.unicode then isBlank c
      else c == ' ' || (9 ≤ c.toNat && c.toNat ≤ 13)
    | word =>
      if flags.unicode then isWordCharacter c
      else c == '_' || c.isAlphanum

------------------------------------------------------------
-- Case
------------------------------------------------------------

/- A letter from A to Z, by its code point. -/
def isCapital (code : Nat) : Bool :=
  65 ≤ code && code ≤ 90

/- The lower case of a code point under an alphabet. -/
def foldCode
    (flags : Flags)
    (code : Nat) : Nat :=
  if flags.unicode then lowerCode code
  else if isCapital code then code + 32
  else code

/- Is a code point cased under an alphabet? -/
def isCasedCode
    (flags : Flags)
    (code : Nat) : Bool :=
  if flags.unicode then isCased code
  else isCapital code || (97 ≤ code && code ≤ 122)

/- Is a code point from `low` to `high` cased? -/
def hasCasedCode
    (flags : Flags)
    (low high : Nat) : Bool :=
  if flags.unicode then hasCasedIn low high
  else (low ≤ 90 && 65 ≤ high) || (low ≤ 122 && 97 ≤ high)

/- A lower case code point with those that count as the same. -/
def sameLower
    (flags : Flags)
    (code : Nat) : List Nat :=
  code :: (if flags.unicode then siblings code else [])

/- Is `code` the lower case of one from `low` to `high`? -/
def hasFoldedIn
    (flags : Flags)
    (low high code : Nat) : Bool :=
  if flags.unicode then
    hasLowerIn low high code
  else
    (low ≤ code && code ≤ high && !isCapital code) ||
      (97 ≤ code && code ≤ 122 && low ≤ code - 32 &&
        code - 32 ≤ high)

------------------------------------------------------------
-- Literals
------------------------------------------------------------

/- Does a literal match a character? -/
def matchesLiteral
    (flags : Flags)
    (code : Nat)
    (c : CodePoint) : Bool :=
  if flags.ignoreCase && isCasedCode flags code then
    (sameLower flags (foldCode flags code)).contains
      (foldCode flags c.code)
  else
    c.code == code

------------------------------------------------------------
-- Sets
------------------------------------------------------------

/- The code points that are folded within a set. -/
def basicLimit : Nat := 0xFFFF

/- Does an item hold a character as it is? -/
def SetItem.holds
    (flags : Flags)
    (c : CodePoint) : SetItem → Bool
  | single code => c.code == code
  | range low high => low ≤ c.code && c.code ≤ high
  | category negated kind =>
    kind.holds flags c != negated

/- Does an item make the whole set regard the case? -/
def SetItem.isCased (flags : Flags) : SetItem → Bool
  | single code =>
    basicLimit < foldCode flags code || isCasedCode flags code
  | range low high =>
    basicLimit < high || hasCasedCode flags low high
  | category _ _ => false

/-
  Does an item hold the lower case of a character?  Code
  points beyond the limit are compared as they are, and those
  of a range also by their upper case.
-/
def SetItem.holdsFolded
    (flags : Flags)
    (code : Nat) : SetItem → Bool
  | single item =>
    let lower := foldCode flags item
    if basicLimit < lower then code == item
    else (sameLower flags lower).contains code
  | range low high =>
    ((sameLower flags code).any
      (hasFoldedIn flags low (min high basicLimit))) ||
    (basicLimit < high &&
      ((low ≤ code && code ≤ high) ||
        (low ≤ upperCode code && upperCode code ≤ high)))
  | category negated kind =>
    kind.holds flags (CodePoint.ofCode code) != negated

/- Does a set match a character? -/
def matchesSet
    (flags : Flags)
    (negated : Bool)
    (items : List SetItem)
    (c : CodePoint) : Bool :=
  if flags.ignoreCase && items.any (SetItem.isCased flags) then
    items.any (SetItem.holdsFolded flags (foldCode flags c.code))
      != negated
  else
    items.any (SetItem.holds flags c) != negated

------------------------------------------------------------
-- Units
------------------------------------------------------------

/- Does a part that matches one character match this one? -/
def matchesUnit
    (flags : Flags)
    (node : Node)
    (c : CodePoint) : Bool :=
  match node with
  | .literal code => matchesLiteral flags code c
  | .notLiteral code => !matchesLiteral flags code c
  | .anything => flags.dotAll || c != .char '\n'
  | .oneOf negated items => matchesSet flags negated items c
  | _ => false

end Pattern

end Replay
