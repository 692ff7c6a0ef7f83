import Replay.Text.Quoted

/-
  This file defines the reading of bytes as UTF-8 text, with
  the place and the cause of the first fault.

  Key definitions include:
    * `Utf8.Fault`
    * `Utf8.Failure`
    * `Utf8.Failure.message`
    * `Utf8.Failure.inPieces`
    * `Utf8.decode`
    * `Utf8.refusal`
    * `Utf8.encode`
-/

------------------------------------------------------------
-- Faults
------------------------------------------------------------

namespace Replay

namespace Text

namespace Utf8

/- Why bytes are not UTF-8. -/
inductive Fault where
  | startByte
  | continuationByte
  | truncated
  deriving DecidableEq, Repr

/- The first fault: the faulty bytes and where they begin. -/
structure Failure where
  position : Nat
  bytes : List UInt8
  fault : Fault
  deriving DecidableEq, Repr

/- The wording of a cause. -/
def Fault.message : Fault → String
  | startByte => "invalid start byte"
  | continuationByte => "invalid continuation byte"
  | truncated => "unexpected end of data"

/- One byte is shown itself, several by their positions. -/
def Failure.message (failure : Failure) : String :=
  let subject :=
    match failure.bytes with
    | [b] =>
      "byte 0x" ++ String.ofList (hexDigits 2 b.toNat) ++
        " in position " ++ toString failure.position
    | bytes =>
      "bytes in position " ++ toString failure.position ++ "-" ++
        toString (failure.position + bytes.length - 1)
  "'utf-8' codec can't decode " ++ subject ++ ": " ++
    failure.fault.message

/-
  The fault as it is found when the bytes come in pieces: a
  character that is cut short is the start of the last piece.
-/
def Failure.inPieces (failure : Failure) : Failure :=
  match failure.fault with
  | .truncated => { failure with position := 0 }
  | _ => failure

------------------------------------------------------------
-- The First Fault
------------------------------------------------------------

/-
  What a first byte asks for: the range of the byte after it
  and the number of bytes after it.  Nothing for a byte that
  starts no character.
-/
def demand? (b : UInt8) : Option (Nat × Nat × Nat) :=
  let n := b.toNat
  if n < 0x80 then some (0x80, 0xBF, 0)
  else if n < 0xC2 then none
  else if n < 0xE0 then some (0x80, 0xBF, 1)
  else if n = 0xE0 then some (0xA0, 0xBF, 2)
  else if n = 0xED then some (0x80, 0x9F, 2)
  else if n < 0xF0 then some (0x80, 0xBF, 2)
  else if n = 0xF0 then some (0x90, 0xBF, 3)
  else if n < 0xF4 then some (0x80, 0xBF, 3)
  else if n = 0xF4 then some (0x80, 0x8F, 3)
  else none

/-
  How many of the next `count` bytes continue a character,
  the first of them within `[low, high]`.
-/
def continued
    (low high : Nat) :
    Nat → List UInt8 → Nat
  | 0, _ => 0
  | _, [] => 0
  | count + 1, b :: rest =>
    if low ≤ b.toNat ∧ b.toNat ≤ high then
      continued 0x80 0xBF count rest + 1
    else
      0

/- The first fault at or after `position`, if there is one. -/
def firstFailure?
    (position : Nat)
    (bytes : List UInt8) : Option Failure :=
  match bytes with
  | [] => none
  | b :: rest =>
    match demand? b with
    | none => some ⟨position, [b], .startByte⟩
    | some (low, high, count) =>
      let found := continued low high count rest
      if found = count then
        firstFailure? (position + 1 + count) (rest.drop count)
      else if found = rest.length then
        some ⟨position, bytes, .truncated⟩
      else
        some ⟨position, bytes.take (found + 1), .continuationByte⟩
termination_by bytes.length
decreasing_by simp only [List.length_drop, List.length_cons]; omega

------------------------------------------------------------
-- Decoding and Encoding
------------------------------------------------------------

/- The text that the bytes stand for, or the first fault. -/
def decode (bytes : ByteArray) : Except Failure String :=
  match String.fromUTF8? bytes with
  | some s => .ok s
  | none =>
    .error ((firstFailure? 0 bytes.data.toList).getD
      ⟨0, bytes.data.toList, .startByte⟩)

/-
  Why a text with halves of surrogate pairs has no bytes: the
  first of them, or the row of them that begins there.
-/
def refusal (s : Text) : String :=
  let position := (s.takeWhile fun c => c.char?.isSome).length
  let row := (s.drop position).takeWhile fun c => c.char?.isNone
  let subject :=
    match row with
    | [c] =>
      "character '" ++ String.ofList (numberedEscape c.code) ++
        "' in position " ++ toString position
    | row =>
      "characters in position " ++ toString position ++ "-" ++
        toString (position + row.length - 1)
  "'utf-8' codec can't encode " ++ subject ++
    ": surrogates not allowed"

/- The bytes of a string. -/
def encode (s : String) : ByteArray :=
  s.toUTF8

end Utf8

end Text

end Replay
