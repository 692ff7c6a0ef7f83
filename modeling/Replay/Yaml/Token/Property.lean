import Replay.Text.Quoted
import Replay.Text.Utf8
import Replay.Yaml.Cursor
import Replay.Yaml.Refusal

/-
  This file defines the reading of what stands before a node:
  the names of anchors, and tags.

  Key definitions include:
    * `readName`
    * `readHandle`
    * `readUri`
    * `readTag`
-/

------------------------------------------------------------
-- Names
------------------------------------------------------------

namespace Replay

namespace Yaml

open Text

/- May a name be followed by a character? -/
def endsName (c : Char) : Bool :=
  isGap c || "?:,]\x7d%@`".toList.contains c

/- The name of an anchor, after the mark before it. -/
def readName (c : Cursor) : Except Refusal (String × Cursor) :=
  let (name, c) := c.takeWhile isNameCharacter
  if name.isEmpty || !endsName c.peek then .error .malformed
  else .ok (String.ofList name, c)

/- A handle: a name between exclamation marks, or one mark. -/
def readHandle (c : Cursor) : Except Refusal (String × Cursor) :=
  if c.peek ≠ '!' then .error .malformed
  else if c.peekAt 1 = ' ' then .ok ("!", c.next)
  else
    let (name, c) := c.next.takeWhile isNameCharacter
    if c.peek = '!' then
      .ok (String.ofList ('!' :: (name ++ ['!'])), c.next)
    else
      .error .malformed

------------------------------------------------------------
-- Resource Identifiers
------------------------------------------------------------

/- A character that stands for itself in an identifier. -/
def isUriCharacter (c : Char) : Bool :=
  c.isDigit || c.isUpper || c.isLower ||
    "-;/?:@&=+$,_.!~*'()[]".toList.contains c

/- A row of escaped bytes.  The fuel bounds their number. -/
def readBytes :
    Nat → Cursor → Except Refusal (List UInt8 × Cursor)
  | 0, c => .ok ([], c)
  | fuel + 1, c =>
    if c.peek = '%' then
      match hexValue? (c.peekAt 1), hexValue? (c.peekAt 2) with
      | some high, some low => do
        let (bytes, c) ← readBytes fuel (c.skip 3)
        return (UInt8.ofNat (16 * high + low) :: bytes, c)
      | _, _ => .error .malformed
    else
      .ok ([], c)

/- The parts of an identifier.  The fuel bounds their number. -/
def readUriParts :
    Nat → Cursor → Except Refusal (List Char × Cursor)
  | 0, c => .ok ([], c)
  | fuel + 1, c => do
    let (run, c) := c.takeWhile isUriCharacter
    if c.peek = '%' then
      let (bytes, c) ← readBytes c.rest.length c
      match Utf8.decode ⟨bytes.toArray⟩ with
      | .error _ => throw .malformed
      | .ok text =>
        let (more, c) ← readUriParts fuel c
        return (run ++ text.toList ++ more, c)
    else
      return (run, c)

/- An identifier, which is not empty. -/
def readUri (c : Cursor) : Except Refusal (String × Cursor) := do
  let (uri, c) ← readUriParts (c.rest.length + 1) c
  if uri.isEmpty then throw .malformed
  return (String.ofList uri, c)

------------------------------------------------------------
-- Tags
------------------------------------------------------------

/-
  The parts of a tag: in full between angles, the mark alone,
  after a handle, or after the mark, which is a handle too.
-/
def readTagParts
    (c : Cursor) :
    Except Refusal (Option String × String × Cursor) := do
  let body := c.next.rest.takeWhile fun ch => !isSpaceOrEnd ch
  if c.peekAt 1 = '<' then
    let (uri, c) ← readUri (c.skip 2)
    if c.peek ≠ '>' then throw .malformed
    return (none, uri, c.next)
  else if isGap (c.peekAt 1) then
    return (none, "!", c.next)
  else if body.contains '!' then
    let (handle, c) ← readHandle c
    let (suffix, c) ← readUri c
    return (some handle, suffix, c)
  else
    let (suffix, c) ← readUri c.next
    return (some "!", suffix, c)

/- A tag, which a space or the end of a line follows. -/
def readTag
    (c : Cursor) :
    Except Refusal (Option String × String × Cursor) := do
  let (handle, suffix, c) ← readTagParts c
  if isSpaceOrEnd c.peek then return (handle, suffix, c)
  else throw .malformed

end Yaml

end Replay
