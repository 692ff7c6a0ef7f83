import Replay.Yaml.Cursor

/-
  This file defines the reading of plain scalars.

  Key definitions include:
    * `startsPlain`
    * `plainRun`
    * `readPlain`

  A plain scalar goes on over lines that are indented.
-/

------------------------------------------------------------
-- Starts and Ends
------------------------------------------------------------

namespace Replay

namespace Yaml

/- The characters that no plain scalar begins with. -/
def indicators : List Char :=
  "-?:,[]\x7b\x7d#&*!|>'\"%@`".toList

/- May a plain scalar begin here? -/
def startsPlain
    (flow : Bool)
    (c : Cursor) : Bool :=
  let ch := c.peek
  (!isGap ch && !indicators.contains ch) ||
    (!isGap (c.peekAt 1) &&
      (ch == '-' || (!flow && (ch == '?' || ch == ':'))))

/- A character that ends a plain scalar between brackets. -/
def isFlowEnd (c : Char) : Bool :=
  c == ',' || c == '[' || c == ']' || c == '\x7b' || c == '\x7d'

/- Does a plain scalar end before a character? -/
def endsPlain
    (flow : Bool)
    (ch next : Char) : Bool :=
  isGap ch ||
    (ch == ':' && (isGap next || (flow && isFlowEnd next))) ||
    (flow && (ch == '?' || isFlowEnd ch))

/- The start of a text that a plain scalar goes on in. -/
def plainRun (flow : Bool) : List Char → List Char
  | [] => []
  | ch :: rest =>
    if endsPlain flow ch (rest.headD ending) then []
    else ch :: plainRun flow rest

------------------------------------------------------------
-- Gaps
------------------------------------------------------------

/-
  Line breaks within a plain scalar, with spaces around them;
  none if a document ends there.  The fuel bounds the number
  of characters.
-/
def readPlainBreaks :
    Nat → Cursor → Option (List Char) × Cursor
  | 0, c => (some [], c)
  | fuel + 1, c =>
    if c.peek = ' ' then readPlainBreaks fuel c.next
    else
      match c.lineBreak with
      | ([], c) => (some [], c)
      | (mark, c) =>
        if c.atBoundary then (none, c)
        else
          let (marks, c) := readPlainBreaks fuel c
          (marks.map (mark ++ ·), c)

/-
  What separates two parts of a plain scalar, none if it ends
  there; whether it is a line break; and the place after it.
-/
def readPlainGap
    (c : Cursor) : Option (List Char) × Bool × Cursor :=
  let (spaces, c) := c.takeWhile (· == ' ')
  match c.lineBreak with
  | ([], c) =>
    (if spaces.isEmpty then none else some spaces, false, c)
  | (mark, c) =>
    if c.atBoundary then (none, true, c)
    else
      match readPlainBreaks (c.rest.length + 1) c with
      | (none, c) => (none, true, c)
      | (some marks, c) =>
        let first :=
          if mark != ['\n'] then mark
          else if marks.isEmpty then [' ']
          else []
        (some (first ++ marks), true, c)

------------------------------------------------------------
-- Scalars
------------------------------------------------------------

/-
  The parts of a plain scalar after a gap, whether the last
  gap is a line break, and the place after all.  The fuel
  bounds the number of parts.
-/
def readPlainParts
    (flow : Bool)
    (indent : Int) :
    Nat → List Char → Bool → Cursor →
      List Char × Bool × Cursor
  | 0, _, broken, c => ([], broken, c)
  | fuel + 1, gap, broken, c =>
    let run := if c.peek = '#' then [] else plainRun flow c.rest
    if run.isEmpty then ([], broken, c)
    else
      match readPlainGap (c.skip run.length) with
      | (none, broken, c) => (gap ++ run, broken, c)
      | (some next, broken, c) =>
        if c.peek = '#' || (!flow && (c.column : Int) < indent) then
          (gap ++ run, broken, c)
        else
          let (more, broken, c) :=
            readPlainParts flow indent fuel next broken c
          (gap ++ run ++ more, broken, c)

/-
  A plain scalar, whether a line break was read after it, and
  the place where that was done.
-/
def readPlain
    (flow : Bool)
    (indent : Int)
    (c : Cursor) : List Char × Bool × Cursor :=
  readPlainParts flow (indent + 1) (c.rest.length + 1) [] false c

end Yaml

end Replay
