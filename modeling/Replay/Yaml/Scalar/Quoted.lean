import Replay.Yaml.Cursor
import Replay.Yaml.Refusal

/-
  This file defines the reading of quoted scalars.

  Key definitions include:
    * `readEscape`
    * `readQuoted`

  Between quotation marks there are escapes; between
  apostrophes there is one: two apostrophes stand for one.
-/

------------------------------------------------------------
-- Line Breaks
------------------------------------------------------------

namespace Replay

namespace Yaml

open Text

/-
  Line breaks with blanks around them.  No document may end
  or begin there.  The fuel bounds their number.
-/
def readFlowBreaks :
    Nat → Cursor → Except Refusal (List Char × Cursor)
  | 0, _ => .error .malformed
  | fuel + 1, c =>
    if c.atBoundary then .error .malformed
    else
      let c := c.skipWhile fun ch => ch == ' ' || ch == '\t'
      match c.lineBreak with
      | ([], c) => .ok ([], c)
      | (mark, c) => do
        let (marks, c) ← readFlowBreaks fuel c
        return (mark ++ marks, c)

/- Blanks, or line breaks in their place: one is a space. -/
def readFlowBlanks
    (c : Cursor) : Except Refusal (List Char × Cursor) := do
  let (blanks, c) := c.takeWhile fun ch => ch == ' ' || ch == '\t'
  if c.peek = ending then
    throw .malformed
  else
    match c.lineBreak with
    | ([], c) => return (blanks, c)
    | (mark, c) =>
      let (marks, c) ← readFlowBreaks (c.rest.length + 1) c
      let first :=
        if mark != ['\n'] then mark
        else if marks.isEmpty then [' ']
        else []
      return (first ++ marks, c)

------------------------------------------------------------
-- Escapes
------------------------------------------------------------

/- The character of an escape with one letter. -/
def letterEscape? : Char → Option Char
  | '0' => some '\x00'
  | 'a' => some '\x07'
  | 'b' => some '\x08'
  | 't' => some '\t'
  | '\t' => some '\t'
  | 'n' => some '\n'
  | 'v' => some '\x0b'
  | 'f' => some '\x0c'
  | 'r' => some '\r'
  | 'e' => some '\x1b'
  | ' ' => some ' '
  | '"' => some '"'
  | '\\' => some '\\'
  | '/' => some '/'
  | 'N' => some '\x85'
  | '_' => some '\xa0'
  | 'L' => some '\u2028'
  | 'P' => some '\u2029'
  | _ => none

/- How many digits follow a letter of an escape. -/
def digitCount? : Char → Option Nat
  | 'x' => some 2
  | 'u' => some 4
  | 'U' => some 8
  | _ => none

/- The code point of a number. -/
def codePoint (code : Nat) : Except Refusal CodePoint :=
  if code < 0x110000 then .ok (.ofCode code)
  else if code < 0x80000000 then .error (.noValue .noCharacter)
  else .error (.noValue .hugeCharacter)

/- The value of a row of hexadecimal digits. -/
def hexRow? (digits : List Char) : Option Nat :=
  digits.foldlM
    (fun value digit => do return value * 16 + (← hexValue? digit))
    0

/- What an escape stands for, after its backslash. -/
def readEscape
    (c : Cursor) : Except Refusal (Text × Cursor) := do
  match letterEscape? c.peek with
  | some ch => return ([.char ch], c.next)
  | none =>
    match digitCount? c.peek with
    | some count =>
      let c := c.next
      let digits := c.rest.take count
      match hexRow? digits with
      | none => throw .malformed
      | some code =>
        if digits.length < count then
          throw .malformed
        else
          return ([← codePoint code], c.skip count)
    | none =>
      match c.lineBreak with
      | ([], _) => throw .malformed
      | (_, c) =>
        let (marks, c) ← readFlowBreaks (c.rest.length + 1) c
        return (marks.map .char, c)

------------------------------------------------------------
-- Scalars
------------------------------------------------------------

/- A character that may stand for more than itself. -/
def isSpecial (c : Char) : Bool :=
  c == '\'' || c == '"' || c == '\\' || isGap c

/-
  What stands up to blanks or the closing mark.  The fuel
  bounds the number of special characters.
-/
def readSolid
    (double : Bool) :
    Nat → Cursor → Except Refusal (Text × Cursor)
  | 0, _ => .error .malformed
  | fuel + 1, c => do
    let (run, c) := c.takeWhile fun ch => !isSpecial ch
    let run := run.map CodePoint.char
    let ch := c.peek
    if !double && ch == '\'' && c.peekAt 1 == '\'' then
      let (more, c) ← readSolid double fuel (c.skip 2)
      return (run ++ .char '\'' :: more, c)
    else if (double && ch == '\'') ||
        (!double && (ch == '"' || ch == '\\')) then
      let (more, c) ← readSolid double fuel c.next
      return (run ++ .char ch :: more, c)
    else if double && ch == '\\' then
      let (units, c) ← readEscape c.next
      let (more, c) ← readSolid double fuel c
      return (run ++ units ++ more, c)
    else
      return (run, c)

/-
  What stands up to the closing mark, and the place after it.
  The fuel bounds the number of blanks.
-/
def readToMark
    (mark : Char) :
    Nat → Cursor → Except Refusal (Text × Cursor)
  | 0, _ => .error .malformed
  | fuel + 1, c => do
    let (solid, c) ←
      readSolid (mark == '"') (c.rest.length + 1) c
    if c.peek = mark then
      return (solid, c.next)
    else
      let (blanks, c) ← readFlowBlanks c
      let (more, c) ← readToMark mark fuel c
      return (solid ++ blanks.map CodePoint.char ++ more, c)

/- A quoted scalar from its opening mark on. -/
def readQuoted
    (c : Cursor) : Except Refusal (Text × Cursor) :=
  readToMark c.peek (c.rest.length + 1) c.next

end Yaml

end Replay
