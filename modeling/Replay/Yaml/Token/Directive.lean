import Replay.Yaml.Token
import Replay.Yaml.Token.Property

/-
  This file defines the reading of directives: lines before a
  document that tell how it is to be read.

  Key definitions include:
    * `readDirective`
-/

------------------------------------------------------------
-- Directives
------------------------------------------------------------

namespace Replay

namespace Yaml

open Number

/- One of the two numbers of a version. -/
def readVersionPart
    (c : Cursor) : Except Refusal (Nat × Cursor) :=
  let (digits, c) := c.takeWhile Char.isDigit
  if digits.isEmpty then
    .error .malformed
  else if digitLimit < digits.length then
    .error (.noValue (.integer (.tooManyDigits digits.length)))
  else
    .ok (digitsValue digits, c)

/- A version: two numbers with a point between them. -/
def readVersion
    (c : Cursor) : Except Refusal (Token × Cursor) := do
  let (major, c) ← readVersionPart c.skipSpaces
  if c.peek ≠ '.' then throw .malformed
  let (_, c) ← readVersionPart c.next
  if isSpaceOrEnd c.peek then return (.version major, c)
  else throw .malformed

/- A handle of tags, and what it stands for. -/
def readTagHandle
    (c : Cursor) : Except Refusal (Token × Cursor) := do
  let (name, c) ← readHandle c.skipSpaces
  if c.peek ≠ ' ' then throw .malformed
  let (stem, c) ← readUri c.skipSpaces
  if isSpaceOrEnd c.peek then return (.handle name stem, c)
  else throw .malformed

/- What follows the name of a directive. -/
def readDirectiveValue
    (name : List Char)
    (c : Cursor) : Except Refusal (Token × Cursor) :=
  if name = "YAML".toList then readVersion c
  else if name = "TAG".toList then readTagHandle c
  else .ok (.remark, c.skipWhile fun ch => !isLineEnd ch)

/- A directive, to the end of its line. -/
def readDirective
    (c : Cursor) : Except Refusal (Token × Cursor) := do
  let (name, c) := c.next.takeWhile isNameCharacter
  if name.isEmpty || !isSpaceOrEnd c.peek then throw .malformed
  let (token, c) ← readDirectiveValue name c
  match c.finishLine? with
  | some c => return (token, c)
  | none => throw .malformed

end Yaml

end Replay
