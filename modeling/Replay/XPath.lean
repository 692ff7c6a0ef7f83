import Replay.Text.CodePoint

/-
  This file defines the XPath expressions that find the
  fields of a form.

  Key definitions include:
    * `XPath.literal`
    * `XPath.isNamed`
    * `XPath.anyField`
    * `XPath.submitControl`
-/

------------------------------------------------------------
-- Literals
------------------------------------------------------------

namespace Replay

namespace XPath

open Text

/- A text between two marks. -/
def between
    (mark : Char)
    (s : Text) : Text :=
  .char mark :: (s ++ [.char mark])

/-
  The expression of a text.  A literal has no escapes: a text
  that holds both marks is put together from its parts.
-/
def literal (s : Text) : Text :=
  if !s.contains (.char '\'') then between '\'' s
  else if !s.contains (.char '"') then between '"' s
  else
    "concat(" ++
      (ofString ", \"'\", ").intercalate
        ((s.splitOn (.char '\'')).map (between '\'')) ++
      ")"

------------------------------------------------------------
-- Fields
------------------------------------------------------------

/- The condition that an element has a name. -/
def isNamed (name : Text) : Text :=
  "@name=" ++ literal name

/- Any element of a name. -/
def anyField (name : Text) : Text :=
  "xpath=.//*[" ++ isNamed name ++ "]"

/- An input of a name. -/
def inputField (name : Text) : Text :=
  "xpath=.//input[" ++ isNamed name ++ "]"

/- An input of a name and a value. -/
def inputOfValue (name value : Text) : Text :=
  "xpath=.//input[" ++ isNamed name ++ " and @value=" ++
    literal value ++ "]"

/- A selection of a name. -/
def selectField (name : Text) : Text :=
  "xpath=.//select[" ++ isNamed name ++ "]"

/- The form of a page. -/
def form : Text :=
  "//form"

/- What sends a form. -/
def submitControl : Text :=
  "xpath=.//button[@type='submit' or @action='submit'] | " ++
    ".//input[@type='submit']"

end XPath

end Replay
