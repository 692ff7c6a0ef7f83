import Replay.Document

/-
  This file defines the writing of JSON text: two more blanks
  of indentation for each level, ASCII characters only.

  Key definitions include:
    * `Json.Value`
    * `Json.writeString`
    * `Json.write`
-/

------------------------------------------------------------
-- Values
------------------------------------------------------------

namespace Replay

namespace Json

open Number Text

/- The values that are written. -/
inductive Value where
  | null
  | boolean (value : Bool)
  | integer (value : Int)
  | number (value : Binary64)
  | text (value : Text)
  | list (items : List Value)
  | object (fields : List (String × Value))
  deriving Repr

------------------------------------------------------------
-- Strings
------------------------------------------------------------

/- A UTF-16 unit as an escape. -/
def escapeUnit (unit : Nat) : List Char :=
  '\\' :: 'u' :: hexDigits 4 unit

/-
  A character outside of ASCII, or a control: one escape for
  each of its UTF-16 units.
-/
def escapeCode (code : Nat) : List Char :=
  if code < 0x10000 then
    escapeUnit code
  else
    escapeUnit (0xD800 + (code - 0x10000) / 1024) ++
      escapeUnit (0xDC00 + (code - 0x10000) % 1024)

/- A character of a string as it is written. -/
def writeChar (c : Char) : List Char :=
  if c = '"' then ['\\', '"']
  else if c = '\\' then ['\\', '\\']
  else if c = '\n' then ['\\', 'n']
  else if c = '\r' then ['\\', 'r']
  else if c = '\t' then ['\\', 't']
  else if c = '\x0c' then ['\\', 'f']
  else if c = '\x08' then ['\\', 'b']
  else if 0x20 ≤ c.toNat ∧ c.toNat < 0x7F then [c]
  else escapeCode c.toNat

/- A code point of a string as it is written. -/
def writePoint : CodePoint → List Char
  | .char c => writeChar c
  | .half place => escapeUnit (CodePoint.half place).code

/- A string between its quotation marks. -/
def writeString (s : Text) : List Char :=
  '"' :: (s.flatMap writePoint ++ ['"'])

------------------------------------------------------------
-- Layout
------------------------------------------------------------

/- A new line with the indentation of a level. -/
def newLine (level : Nat) : List Char :=
  '\n' :: List.replicate (2 * level) ' '

/- The text of a number; three words stand for the others. -/
def writeNumber : Binary64 → String
  | .nan => "NaN"
  | .signed negative code =>
    if code.val < infinityCode then
      (Binary64.signed negative code).text
    else if negative then
      "-Infinity"
    else
      "Infinity"

/- The pieces between two brackets, each on its own line. -/
def enclose
    (first last : Char)
    (level : Nat)
    (pieces : List (List Char)) : List Char :=
  if pieces.isEmpty then
    [first, last]
  else
    first :: (newLine (level + 1) ++
      (',' :: newLine (level + 1)).intercalate pieces ++
      newLine level ++ [last])

mutual

/- A value on a line of a level; its parts stand one below. -/
def writeValue (level : Nat) : Value → List Char
  | .null => ['n', 'u', 'l', 'l']
  | .boolean true => ['t', 'r', 'u', 'e']
  | .boolean false => ['f', 'a', 'l', 's', 'e']
  | .integer n => (intText n).toList
  | .number x => (writeNumber x).toList
  | .text s => writeString s
  | .list items =>
    enclose '[' ']' level (writeItems (level + 1) items)
  | .object fields =>
    enclose '\x7b' '\x7d' level (writeFields (level + 1) fields)

/- Each item of a list. -/
def writeItems
    (level : Nat) : List Value → List (List Char)
  | [] => []
  | item :: rest =>
    writeValue level item :: writeItems level rest

/- Each field of an object. -/
def writeFields
    (level : Nat) : List (String × Value) → List (List Char)
  | [] => []
  | (name, value) :: rest =>
    (writeString name ++ ':' :: ' ' :: writeValue level value) ::
      writeFields level rest

end

/- The text of a value. -/
def write (value : Value) : String :=
  String.ofList (writeValue 0 value)

end Json

end Replay
