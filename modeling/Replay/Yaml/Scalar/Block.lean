import Replay.Yaml.Cursor
import Replay.Yaml.Refusal

/-
  This file defines the reading of block scalars: indented
  lines after a `|` or a `>`.

  Key definitions include:
    * `Header`
    * `readHeader`
    * `readBlock`
-/

------------------------------------------------------------
-- Headers
------------------------------------------------------------

namespace Replay

namespace Yaml

/-
  Whether the last line breaks are all kept or all dropped,
  if either, and how far the lines are indented, if that is
  told.
-/
structure Header where
  keeps : Option Bool
  increment : Option Nat
  deriving DecidableEq, Repr

/- A sign that tells what becomes of line breaks. -/
def readChomping (c : Cursor) : Option Bool × Cursor :=
  if c.peek = '+' then (some true, c.next)
  else if c.peek = '-' then (some false, c.next)
  else (none, c)

/- A digit that tells the indentation. -/
def readIncrement
    (c : Cursor) : Except Refusal (Option Nat × Cursor) :=
  if c.peek = '0' then .error .malformed
  else if c.peek.isDigit then
    .ok (some (c.peek.toNat - 48), c.next)
  else
    .ok (none, c)

/- A sign and a digit, in any order; both may be left out. -/
def readSigns
    (c : Cursor) : Except Refusal (Header × Cursor) := do
  match readChomping c with
  | (some keeps, c) =>
    let (increment, c) ← readIncrement c
    return (⟨some keeps, increment⟩, c)
  | (none, c) =>
    match ← readIncrement c with
    | (none, c) => return (⟨none, none⟩, c)
    | (increment, c) =>
      let (keeps, c) := readChomping c
      return (⟨keeps, increment⟩, c)

/- The line that a block scalar begins with. -/
def readHeader
    (c : Cursor) : Except Refusal (Header × Cursor) := do
  let (header, c) ← readSigns c
  if isSpaceOrEnd c.peek then
    match c.finishLine? with
    | some c => return (header, c)
    | none => throw .malformed
  else
    throw .malformed

------------------------------------------------------------
-- Lines
------------------------------------------------------------

/-
  Lines without text, and the greatest column that spaces
  lead to.  The fuel bounds the number of characters.
-/
def readIndentation
    (widest : Nat) :
    Nat → Cursor → List Char × Nat × Cursor
  | 0, c => ([], widest, c)
  | fuel + 1, c =>
    if c.peek = ' ' then
      let c := c.next
      readIndentation (Nat.max widest c.column) fuel c
    else
      match c.lineBreak with
      | ([], c) => ([], widest, c)
      | (mark, c) =>
        let (marks, widest, c) := readIndentation widest fuel c
        (mark ++ marks, widest, c)

/-
  Lines without text up to a column.  The fuel bounds the
  number of lines.
-/
def readBreaks
    (column : Nat) :
    Nat → Cursor → List Char × Cursor
  | 0, c => ([], c)
  | fuel + 1, c =>
    match (c.indentTo column).lineBreak with
    | ([], c) => ([], c)
    | (mark, c) =>
      let (marks, c) := readBreaks column fuel c
      (mark ++ marks, c)

/- Does a line of text begin here? -/
def atLine
    (column : Nat)
    (c : Cursor) : Bool :=
  c.column == column && c.peek != ending

/- Does the text of a line begin with a blank? -/
def atBlank (c : Cursor) : Bool :=
  c.peek == ' ' || c.peek == '\t'

/- What a line break between two lines of text becomes. -/
def joinLines
    (folded plain : Bool)
    (mark marks : List Char) : List Char :=
  if folded && plain && mark == ['\n'] then
    if marks.isEmpty then [' '] else []
  else
    mark

/-
  Lines of text at a column, after line breaks that came
  before: their text, the last line break, those after it,
  and the place behind.  The fuel bounds the number of lines.
-/
def readLines
    (folded : Bool)
    (column : Nat) :
    Nat → List Char → Cursor →
      List Char × List Char × List Char × Cursor
  | 0, before, c => ([], [], before, c)
  | fuel + 1, before, c =>
    if atLine column c then
      let leading := atBlank c
      let (text, c) := c.takeWhile fun ch => !isLineEnd ch
      let (mark, c) := c.lineBreak
      let (marks, c) := readBreaks column (fuel + 1) c
      if atLine column c then
        let joint :=
          joinLines folded (!leading && !atBlank c) mark marks
        let (more, last, after, c) :=
          readLines folded column fuel marks c
        (before ++ text ++ joint ++ more, last, after, c)
      else
        (before ++ text, mark, marks, c)
    else
      ([], [], before, c)

/-
  A block scalar after its first character, within lines of a
  given indentation.
-/
def readBlock
    (folded : Bool)
    (indent : Int)
    (c : Cursor) : Except Refusal (List Char × Cursor) := do
  let (header, c) ← readHeader c.next
  let least := if indent < 1 then 1 else (indent + 1).toNat
  let fuel := c.rest.length + 1
  let (before, column, c) :=
    match header.increment with
    | none =>
      let (before, widest, c) := readIndentation 0 fuel c
      (before, Nat.max least widest, c)
    | some increment =>
      let column := least + increment - 1
      let (before, c) := readBreaks column fuel c
      (before, column, c)
  let (text, last, after, c) :=
    readLines folded column fuel before c
  let ends :=
    match header.keeps with
    | none => last
    | some true => last ++ after
    | some false => []
  return (text ++ ends, c)

end Yaml

end Replay
