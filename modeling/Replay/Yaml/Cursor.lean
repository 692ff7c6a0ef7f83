/-
  This file defines cursors: places in a YAML text, and the
  classes of characters that tell where things end.

  Key definitions include:
    * `Cursor`
    * `Cursor.skip`
    * `Cursor.lineBreak`
    * `Cursor.finishLine?`
    * `isBreak`
    * `isGap`

  No text holds the character NUL: it stands for the end.
-/

------------------------------------------------------------
-- Classes of Characters
------------------------------------------------------------

namespace Replay

namespace Yaml

/- What stands at the end of a text. -/
def ending : Char := '\x00'

/- A character that ends a line. -/
def isBreak (c : Char) : Bool :=
  c == '\n' || c == '\x85' || c == '\u2028' || c == '\u2029'

/- The end of a line or of the text. -/
def isLineEnd (c : Char) : Bool :=
  c == ending || isBreak c

/- A space, or the end of a line. -/
def isSpaceOrEnd (c : Char) : Bool :=
  c == ' ' || isLineEnd c

/- A space, a tab, or the end of a line. -/
def isGap (c : Char) : Bool :=
  c == '\t' || isSpaceOrEnd c

/- A character of a name. -/
def isNameCharacter (c : Char) : Bool :=
  c.isDigit || c.isUpper || c.isLower || c == '-' || c == '_'

/- A character that a text may hold. -/
def isAllowed (c : Char) : Bool :=
  let n := c.toNat
  n == 9 || n == 10 || n == 13 || n == 0x85 ||
    (0x20 ≤ n && n ≤ 0x7E) || (0xA0 ≤ n && n ≤ 0xD7FF) ||
    (0xE000 ≤ n && n ≤ 0xFFFD) || 0x10000 ≤ n

------------------------------------------------------------
-- Cursors
------------------------------------------------------------

/-
  What is left of a text, and where it begins: how many
  characters come before it, in the text and in its line.
-/
structure Cursor where
  rest : List Char
  index : Nat
  line : Nat
  column : Nat
  deriving Repr

namespace Cursor

/- The start of a text. -/
def start (text : List Char) : Cursor :=
  ⟨text, 0, 0, 0⟩

/- The character that comes next. -/
def peek (c : Cursor) : Char :=
  c.rest.headD ending

/- A character that comes later. -/
def peekAt
    (c : Cursor)
    (n : Nat) : Char :=
  (c.rest.drop n).headD ending

/- One character further.  Byte order marks have no width. -/
def next (c : Cursor) : Cursor :=
  match c.rest with
  | [] => c
  | ch :: rest =>
    if isBreak ch then ⟨rest, c.index + 1, c.line + 1, 0⟩
    else
      ⟨rest, c.index + 1, c.line,
        if ch = '\uFEFF' then c.column else c.column + 1⟩

/- Some characters further. -/
def skip (c : Cursor) : Nat → Cursor
  | 0 => c
  | n + 1 => c.next.skip n

/- The characters that satisfy `p`, and the place after them. -/
def takeWhile
    (c : Cursor)
    (p : Char → Bool) : List Char × Cursor :=
  let taken := c.rest.takeWhile p
  (taken, c.skip taken.length)

/- The place after the characters that satisfy `p`. -/
def skipWhile
    (c : Cursor)
    (p : Char → Bool) : Cursor :=
  (c.takeWhile p).2

/- The place after spaces. -/
def skipSpaces (c : Cursor) : Cursor :=
  c.skipWhile (· == ' ')

/- The place after spaces, up to a column. -/
def indentTo
    (c : Cursor)
    (column : Nat) : Cursor :=
  let spaces := (c.rest.takeWhile (· == ' ')).length
  c.skip (Nat.min spaces (column - c.column))

/- The place after a comment, if there is one. -/
def skipComment (c : Cursor) : Cursor :=
  if c.peek = '#' then c.skipWhile fun ch => !isLineEnd ch else c

/-
  The line break that comes next, as it counts in a scalar,
  and the place after it; nothing if there is none.
-/
def lineBreak (c : Cursor) : List Char × Cursor :=
  let ch := c.peek
  if ch = '\n' ∨ ch = '\x85' then (['\n'], c.next)
  else if isBreak ch then ([ch], c.next)
  else ([], c)

/-
  The start of the next line, if nothing but a comment is left
  of this one.
-/
def finishLine? (c : Cursor) : Option Cursor :=
  let c := c.skipSpaces.skipComment
  if isLineEnd c.peek then some c.lineBreak.2 else none

/- Does a mark of a document come next? -/
def atMark
    (c : Cursor)
    (mark : Char) : Bool :=
  c.rest.take 3 == [mark, mark, mark] && isGap (c.peekAt 3)

/- Does a document end or begin here? -/
def atBoundary (c : Cursor) : Bool :=
  c.atMark '-' || c.atMark '.'

end Cursor

end Yaml

end Replay
