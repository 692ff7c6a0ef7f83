import Replay.Document
import Replay.Number.Reader

/-
  This file defines the reading of JSON text.

  Key definitions include:
    * `Json.Cause`
    * `Json.Fault`
    * `Json.Fault.message`
    * `Json.read`

  Besides JSON itself the reader takes `NaN`, `Infinity` and
  `-Infinity`.  Each step returns the characters that are
  left; a fault is placed by counting them.
-/

------------------------------------------------------------
-- Faults
------------------------------------------------------------

namespace Replay

namespace Json

open Number Text

/- What was expected or refused. -/
inductive Cause where
  | byteOrderMark
  | value
  | propertyName
  | colon
  | comma
  | escape
  | unicodeEscape
  | controlCharacter
  | unterminated
  | extraData
  deriving DecidableEq, Repr

/- The wording of a cause. -/
def Cause.message : Cause → String
  | byteOrderMark =>
    "Unexpected UTF-8 BOM (decode using utf-8-sig)"
  | value => "Expecting value"
  | propertyName =>
    "Expecting property name enclosed in double quotes"
  | colon => "Expecting ':' delimiter"
  | comma => "Expecting ',' delimiter"
  | escape => "Invalid \\escape"
  | unicodeEscape => "Invalid \\uXXXX escape"
  | controlCharacter => "Invalid control character at"
  | unterminated => "Unterminated string starting at"
  | extraData => "Extra data"

/-
  Why a text was not read: a cause with the number of
  characters left where it arose, or an integer with more
  digits than are converted.
-/
inductive Refusal where
  | malformed (cause : Cause) (left : Nat)
  | tooManyDigits (count : Nat)
  deriving DecidableEq, Repr

/- A cause with its place: line, column and position. -/
structure Fault where
  cause : Cause
  line : Nat
  column : Nat
  position : Nat
  deriving DecidableEq, Repr

namespace Fault

/- The place of a cause that arose at a position of a text. -/
def atPosition
    (cause : Cause)
    (text : List Char)
    (position : Nat) : Fault :=
  let before := text.take position
  ⟨cause, before.count '\n' + 1,
    (before.reverse.takeWhile (· ≠ '\n')).length + 1, position⟩

/- The cause, followed by its place. -/
def message (fault : Fault) : String :=
  fault.cause.message ++ ": line " ++ natText fault.line ++
    " column " ++ natText fault.column ++
    " (char " ++ natText fault.position ++ ")"

end Fault

------------------------------------------------------------
-- White Space
------------------------------------------------------------

/- The characters that may stand between two tokens. -/
def isSpace (c : Char) : Bool :=
  c == ' ' || c == '\t' || c == '\n' || c == '\r'

/- What is left after white space. -/
def skipSpace (s : List Char) : List Char :=
  s.dropWhile isSpace

------------------------------------------------------------
-- Strings
------------------------------------------------------------

/- The character of an escape with one letter. -/
def simpleEscape? : Char → Option Char
  | '"' => some '"'
  | '\\' => some '\\'
  | '/' => some '/'
  | 'b' => some '\x08'
  | 'f' => some '\x0c'
  | 'n' => some '\n'
  | 'r' => some '\r'
  | 't' => some '\t'
  | _ => none

/- The value of four hexadecimal digits, and what is left. -/
def hex4? : List Char → Option (Nat × List Char)
  | a :: b :: c :: d :: rest => do
    let a ← hexValue? a
    let b ← hexValue? b
    let c ← hexValue? c
    let d ← hexValue? d
    some (a * 4096 + b * 256 + c * 16 + d, rest)
  | _ => none

/-
  The second half of a pair after a first half: its code and
  what is left, or the number of characters left where its
  digits are wrong.
-/
def lowHalf? (s : List Char) :
    Except Nat (Option (Nat × List Char)) :=
  match s with
  | '\\' :: 'u' :: rest =>
    if rest.length < 5 then
      .ok none
    else
      match hex4? rest with
      | none => .error (rest.length + 1)
      | some (low, rest) =>
        if 0xDC00 ≤ low ∧ low < 0xE000 then
          .ok (some (low, rest))
        else
          .ok none
  | _ => .ok none

/- The code point of a surrogate pair. -/
def joinPair (high low : Nat) : Nat :=
  0x10000 + (high - 0xD800) * 1024 + (low - 0xDC00)

/-
  The code points of a string after its opening quotation
  mark, and what is left.  `start` is the number of characters
  left at that mark.  The fuel bounds the number of code
  points.
-/
def readUnits
    (start : Nat) :
    Nat → List Char → Except Refusal (Text × List Char)
  | 0, _ => .error (.malformed .unterminated start)
  | _, [] => .error (.malformed .unterminated start)
  | fuel + 1, c :: rest =>
    if c = '"' then
      .ok ([], rest)
    else if c = '\\' then
      match rest with
      | [] => .error (.malformed .unterminated start)
      | 'u' :: digits =>
        if digits.length < 5 then
          .error (.malformed .unicodeEscape (digits.length + 1))
        else
          match hex4? digits with
          | none =>
            .error (.malformed .unicodeEscape (digits.length + 1))
          | some (code, rest) => do
            let pair ←
              if 0xD800 ≤ code ∧ code < 0xDC00 then
                match lowHalf? rest with
                | .ok pair => .ok pair
                | .error left =>
                  .error (.malformed .unicodeEscape left)
              else
                .ok none
            match pair with
            | some (low, rest) =>
              let (units, rest) ← readUnits start fuel rest
              .ok (CodePoint.ofCode (joinPair code low) :: units, rest)
            | none =>
              let (units, rest) ← readUnits start fuel rest
              .ok (CodePoint.ofCode code :: units, rest)
      | e :: rest =>
        match simpleEscape? e with
        | none => .error (.malformed .escape (rest.length + 2))
        | some c => do
          let (units, rest) ← readUnits start fuel rest
          .ok (.char c :: units, rest)
    else if c.toNat < 0x20 then
      .error (.malformed .controlCharacter (rest.length + 1))
    else do
      let (units, rest) ← readUnits start fuel rest
      .ok (.char c :: units, rest)

/- The string after an opening quotation mark. -/
def readString
    (s : List Char) : Except Refusal (Scalar × List Char) := do
  let (units, rest) ← readUnits (s.length + 1) (s.length + 1) s
  .ok (.text units, rest)

------------------------------------------------------------
-- Numbers
------------------------------------------------------------

/- The digits of an integer part: one zero, or no zero first. -/
def wholeDigits : List Char → List Char
  | '0' :: _ => ['0']
  | s => s.takeWhile Char.isDigit

/- A point with digits after it. -/
def pointDigits : List Char → List Char
  | '.' :: rest => rest.takeWhile Char.isDigit
  | _ => []

/- The length of an exponent with digits, zero without. -/
def exponentLength : List Char → Nat
  | mark :: rest =>
    if mark = 'e' ∨ mark = 'E' then
      let digits := (splitSign rest).2.takeWhile Char.isDigit
      if digits.isEmpty then 0
      else 1 + (rest.length - (splitSign rest).2.length) +
        digits.length
    else
      0
  | [] => 0

/- A number, and what is left.  `s` is the text before it. -/
def readNumber
    (s : List Char) : Except Refusal (Scalar × List Char) :=
  let (negative, body) : Bool × List Char :=
    match s with
    | '-' :: rest => (true, rest)
    | _ => (false, s)
  let whole := wholeDigits body
  if whole.isEmpty then
    .error (.malformed .value s.length)
  else
    let afterWhole := body.drop whole.length
    let part := pointDigits afterWhole
    let afterPart :=
      if part.isEmpty then afterWhole
      else afterWhole.drop (part.length + 1)
    let power := exponentLength afterPart
    let rest := afterPart.drop power
    if part.isEmpty ∧ power = 0 then
      if digitLimit < whole.length then
        .error (.tooManyDigits whole.length)
      else
        .ok (.integer (signedInt negative (digitsValue whole)), rest)
    else
      let exponent :=
        (readExponent? (afterPart.take power)).getD 0
      .ok (.number (ofDecimal negative (whole ++ part)
        (exponent - part.length)), rest)

/- What is left after a word, if the text begins with it. -/
def afterWord? : List Char → List Char → Option (List Char)
  | [], rest => some rest
  | _, [] => none
  | c :: word, d :: rest =>
    if c = d then afterWord? word rest else none

/- The words that stand for a value. -/
def words : List (String × Scalar) :=
  [("null", .null), ("true", .boolean true),
    ("false", .boolean false), ("NaN", .number .nan),
    ("Infinity", .number (.infinity false)),
    ("-Infinity", .number (.infinity true))]

/- The value of the word at the start of a text. -/
def readWord? (s : List Char) : Option (Scalar × List Char) :=
  words.findSome? fun (word, value) =>
    (afterWord? word.toList s).map fun rest => (value, rest)

------------------------------------------------------------
-- Values
------------------------------------------------------------

mutual

/-
  A value, and what is left.  The fuel bounds the nesting:
  a bracket takes two of it.
-/
def readValue :
    Nat → List Char → Except Refusal (Document × List Char)
  | 0, s => .error (.malformed .value s.length)
  | fuel + 1, s =>
    match s with
    | '"' :: rest => do
      let (value, rest) ← readString rest
      .ok (.scalar value, rest)
    | '[' :: rest =>
      match skipSpace rest with
      | ']' :: rest => .ok (.sequence [], rest)
      | rest => do
        let (items, rest) ← readItems fuel rest
        .ok (.sequence items, rest)
    | '\x7b' :: rest =>
      match skipSpace rest with
      | '\x7d' :: rest => .ok (.mapping [], rest)
      | rest => do
        let (entries, rest) ← readEntries fuel [] rest
        .ok (.mapping entries, rest)
    | _ =>
      match readWord? s with
      | some (value, rest) => .ok (.scalar value, rest)
      | none => do
        let (value, rest) ← readNumber s
        .ok (.scalar value, rest)

/- The items up to the closing bracket, and what is left. -/
def readItems :
    Nat → List Char → Except Refusal (List Document × List Char)
  | 0, s => .error (.malformed .value s.length)
  | fuel + 1, s => do
    let (item, rest) ← readValue fuel s
    match skipSpace rest with
    | ']' :: rest => .ok ([item], rest)
    | ',' :: rest =>
      let (items, rest) ← readItems fuel (skipSpace rest)
      .ok (item :: items, rest)
    | rest => .error (.malformed .comma rest.length)

/-
  The entries up to the closing brace, entered after those
  read before, and what is left.
-/
def readEntries :
    Nat → List (Scalar × Document) → List Char →
      Except Refusal (List (Scalar × Document) × List Char)
  | 0, _, s => .error (.malformed .propertyName s.length)
  | fuel + 1, entries, s =>
    match s with
    | '"' :: rest => do
      let (key, rest) ← readString rest
      match skipSpace rest with
      | ':' :: rest =>
        let (value, rest) ← readValue fuel (skipSpace rest)
        let entries := Document.put entries key value
        match skipSpace rest with
        | '\x7d' :: rest => .ok (entries, rest)
        | ',' :: rest => readEntries fuel entries (skipSpace rest)
        | rest => .error (.malformed .comma rest.length)
      | rest => .error (.malformed .colon rest.length)
    | rest => .error (.malformed .propertyName rest.length)

end

/- One value with white space around it and nothing else. -/
def readText (s : List Char) : Except Refusal Document :=
  match s with
  | '\uFEFF' :: _ => .error (.malformed .byteOrderMark s.length)
  | _ => do
    let (value, rest) ← readValue (2 * s.length + 1) (skipSpace s)
    match skipSpace rest with
    | [] => .ok value
    | rest => .error (.malformed .extraData rest.length)

/- Why a JSON text was refused. -/
inductive Failure where
  | malformed (fault : Fault)
  | tooManyDigits (count : Nat)
  deriving DecidableEq, Repr

/- The document that a JSON text holds. -/
def read (text : String) : Except Failure Document :=
  let chars := text.toList
  match readText chars with
  | .ok value => .ok value
  | .error (.tooManyDigits count) => .error (.tooManyDigits count)
  | .error (.malformed cause left) =>
    .error (.malformed
      (.atPosition cause chars (chars.length - left)))

end Json

end Replay
