import Replay.Number.Shortest
import Replay.Text.Quoted

/-
  This file defines documents: the values that configuration
  files, step records and cookie lists are written in.

  Key definitions include:
    * `Scalar`
    * `Scalar.sameKey`
    * `Document`
    * `Document.put`
    * `Document.field?`
    * `Document.string?`
    * `Document.isEmpty`
    * `Document.shown`

  Mappings keep the order of their entries.  A key that
  occurs again keeps its first place and takes the last
  value.
-/

------------------------------------------------------------
-- Scalars
------------------------------------------------------------

namespace Replay

open Number Text

/-
  A value without parts.  A date or a time is a `moment`,
  kept as the text it shows and the way it is quoted.
-/
inductive Scalar where
  | null
  | boolean (value : Bool)
  | integer (value : Int)
  | number (value : Binary64)
  | text (value : Text)
  | bytes (value : List UInt8)
  | moment (shown quoted : String)
  deriving DecidableEq, Repr

namespace Scalar

/- The numeric value of a key that counts as a number. -/
def numeric? : Scalar → Option (Bool × Fraction)
  | boolean b => some (false, ⟨if b then 1 else 0, 1⟩)
  | integer n => some (n < 0, ⟨n.natAbs, 1⟩)
  | number (.signed negative code) =>
    if code.val < infinityCode then
      some (negative && code.val != 0,
        Binary64.codeValue code.val)
    else
      none
  | _ => none

/-
  Do two keys count as one?  Numbers of all kinds are
  compared by value, everything else as it is.
-/
def sameKey (a b : Scalar) : Bool :=
  match numeric? a, numeric? b with
  | some (s, x), some (t, y) => s == t && x.le y && y.le x
  | _, _ => a == b

/- The value as it is written inside another one. -/
def quoted : Scalar → String
  | null => "None"
  | boolean true => "True"
  | boolean false => "False"
  | integer n => intText n
  | number x => x.text
  | text s => quote s
  | bytes data => quoteBytes data
  | moment _ quoted => quoted

/- The value as it is shown by itself. -/
def shown : Scalar → Text
  | text s => s
  | moment shown _ => shown
  | other => other.quoted

/- The value as one part of a location. -/
def place : Scalar → String
  | text s => s.replaced
  | boolean b => if b then "1" else "0"
  | other => other.quoted

end Scalar

------------------------------------------------------------
-- Documents
------------------------------------------------------------

/-
  A value with its parts.  A `pair` is one entry of an
  ordered mapping that is written as a list.
-/
inductive Document where
  | scalar (value : Scalar)
  | sequence (items : List Document)
  | mapping (entries : List (Scalar × Document))
  | pair (key value : Document)
  | members (items : List Scalar)
  deriving Repr

namespace Document

/- Enter a value under a key. -/
def put
    {α : Type}
    (entries : List (Scalar × α))
    (key : Scalar)
    (value : α) : List (Scalar × α) :=
  match entries with
  | [] => [(key, value)]
  | (k, v) :: rest =>
    if k.sameKey key then (k, value) :: rest
    else (k, v) :: put rest key value

/- The value under a key that is a text. -/
def find?
    {α : Type}
    (entries : List (Scalar × α))
    (name : String) : Option α :=
  (entries.find? fun entry => entry.1 == .text name).map (·.2)

/- The value of a field of a mapping. -/
def field?
    (d : Document)
    (name : String) : Option Document :=
  match d with
  | mapping entries => find? entries name
  | _ => none

/- The string that the value is, if it is one. -/
def string? : Document → Option String
  | scalar (.text s) => s.toString?
  | _ => none

/- Is the value null, false, zero, or without any part? -/
def isEmpty : Document → Bool
  | scalar .null => true
  | scalar (.boolean b) => !b
  | scalar (.integer n) => n == 0
  | scalar (.number x) => x.isZero
  | scalar (.text s) => s.isEmpty
  | scalar (.bytes data) => data.isEmpty
  | scalar (.moment _ _) => false
  | sequence items => items.isEmpty
  | mapping entries => entries.isEmpty
  | pair _ _ => false
  | members items => items.isEmpty

mutual

/- The value as it is written inside another one. -/
def quoted : Document → String
  | scalar value => value.quoted
  | sequence items =>
    "[" ++ String.intercalate ", " (quotedItems items) ++ "]"
  | mapping entries =>
    "\x7b" ++ String.intercalate ", " (quotedEntries entries) ++
      "\x7d"
  | pair key value => "(" ++ key.quoted ++ ", " ++ value.quoted ++ ")"
  | members [] => "set()"
  | members items =>
    "\x7b" ++ String.intercalate ", " (items.map Scalar.quoted) ++
      "\x7d"

/- The items of a sequence, each as it is written there. -/
def quotedItems : List Document → List String
  | [] => []
  | item :: rest => item.quoted :: quotedItems rest

/- The entries of a mapping, each as it is written there. -/
def quotedEntries : List (Scalar × Document) → List String
  | [] => []
  | (key, value) :: rest =>
    (key.quoted ++ ": " ++ value.quoted) :: quotedEntries rest

end

/- The value as it is shown by itself. -/
def shown : Document → Text
  | scalar value => value.shown
  | other => other.quoted

end Document

end Replay
