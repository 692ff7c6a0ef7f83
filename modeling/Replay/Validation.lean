import Replay.Document
import Replay.Number.Reader
import Replay.Text.Utf8

/-
  This file defines the checking of documents against what is
  expected of them, field by field.

  Key definitions include:
    * `Mismatch`
    * `Fault`
    * `describeFaults`
    * `Rejection`
    * `Checked`
    * `Checked.asText`
    * `Checked.asInteger`
    * `Checked.asBoolean`
    * `Checked.asNumber`
    * `Checked.listOf`
    * `Checked.textKeys`
    * `Checked.required`
    * `Checked.closed`

  A check finds every fault, not the first one alone.  A
  value of a near kind is converted: a text of digits is an
  integer, and bytes that are UTF-8 are a text.
-/

------------------------------------------------------------
-- Faults
------------------------------------------------------------

namespace Replay

open Number Text

/- What is wrong with one value. -/
inductive Mismatch where
  | missing
  | unexpected
  | keyNotText
  | notRecord
  | noTag (field : String)
  | unknownTag (shown field : String) (expected : List String)
  | notText
  | undecodableText
  | notInteger
  | notIntegerText
  | integerTooLong
  | notFinite
  | fractional
  | notBoolean
  | notBooleanText
  | notNumber
  | notNumberText
  | notList
  | notMapping
  | notModel (model : String)
  | notOneOf (choices : List String)
  | refused (reason : String)
  deriving DecidableEq, Repr

/- Choices as they are listed: the last one after an `or`. -/
def listChoices : List String → String
  | [] => ""
  | [choice] => "'" ++ choice ++ "'"
  | [first, last] => "'" ++ first ++ "' or '" ++ last ++ "'"
  | first :: rest => "'" ++ first ++ "', " ++ listChoices rest

/- The wording of what is wrong. -/
def Mismatch.message : Mismatch → String
  | missing => "Field required"
  | unexpected => "Extra inputs are not permitted"
  | keyNotText => "Keys should be strings"
  | notRecord =>
    "Input should be a valid dictionary or object to " ++
      "extract fields from"
  | noTag field =>
    "Unable to extract tag using discriminator '" ++ field ++ "'"
  | unknownTag shown field expected =>
    "Input tag '" ++ shown ++ "' found using '" ++ field ++
      "' does not match any of the expected tags: " ++
      String.intercalate ", "
        (expected.map fun tag => "'" ++ tag ++ "'")
  | notText => "Input should be a valid string"
  | undecodableText =>
    "Input should be a valid string, unable to parse raw " ++
      "data as a unicode string"
  | notInteger => "Input should be a valid integer"
  | notIntegerText =>
    "Input should be a valid integer, unable to parse " ++
      "string as an integer"
  | integerTooLong =>
    "Unable to parse input string as an integer, exceeded " ++
      "maximum size"
  | notFinite => "Input should be a finite number"
  | fractional =>
    "Input should be a valid integer, got a number with a " ++
      "fractional part"
  | notBoolean => "Input should be a valid boolean"
  | notBooleanText =>
    "Input should be a valid boolean, unable to interpret input"
  | notNumber => "Input should be a valid number"
  | notNumberText =>
    "Input should be a valid number, unable to parse string " ++
      "as a number"
  | notList => "Input should be a valid list"
  | notMapping => "Input should be a valid dictionary"
  | notModel model =>
    "Input should be a valid dictionary or instance of " ++ model
  | notOneOf choices => "Input should be " ++ listChoices choices
  | refused reason => "Value error, " ++ reason

/- What is wrong, and where: the way from the outside in. -/
structure Fault where
  path : List String
  mismatch : Mismatch
  deriving DecidableEq, Repr

/- A fault after its place, if it has one. -/
def Fault.message (fault : Fault) : String :=
  if fault.path.isEmpty then fault.mismatch.message
  else
    String.intercalate "." fault.path ++ ": " ++
      fault.mismatch.message

/- All faults in their order. -/
def describeFaults (faults : List Fault) : String :=
  String.intercalate "; " (faults.map Fault.message)

/- Why the checks of a document end before their end. -/
inductive Overrun where
  | rounds
  | code
  | behind
  deriving DecidableEq, Repr

/- The wording of an overrun. -/
def Overrun.message : Overrun → String
  | rounds => "the repetition number is too large"
  | code => "Python int too large to convert to C int"
  | behind => "invalid SRE code"

/-
  Why a document is not accepted: faults, or an expression
  that counts rounds, numbers a character or looks behind
  beyond all limits.
-/
inductive Rejection where
  | faults (faults : List Fault)
  | overrun (cause : Overrun)
  deriving DecidableEq, Repr

/- The wording of a rejection. -/
def Rejection.message : Rejection → String
  | faults list => describeFaults list
  | overrun cause => cause.message

------------------------------------------------------------
-- Checks
------------------------------------------------------------

/- The outcome of a check. -/
abbrev Checked (α : Type) :=
  Except Rejection α

namespace Checked

/- One thing is wrong with the value itself. -/
def fail
    {α : Type}
    (mismatch : Mismatch) : Checked α :=
  .error (.faults [⟨[], mismatch⟩])

/- The faults of a value stand below a part of a way. -/
def within
    {α : Type}
    (place : String)
    (check : Checked α) : Checked α :=
  match check with
  | .error (.faults faults) =>
    .error (.faults (faults.map fun fault =>
      { fault with path := place :: fault.path }))
  | other => other

/- Two checks, with the faults of both. -/
def both
    {α β : Type}
    (a : Checked α)
    (b : Checked β) : Checked (α × β) :=
  match a, b with
  | .ok a, .ok b => .ok (a, b)
  | .error (.faults f), .error (.faults g) =>
    .error (.faults (f ++ g))
  | .error (.overrun cause), _ => .error (.overrun cause)
  | _, .error (.overrun cause) => .error (.overrun cause)
  | .error f, _ => .error f
  | _, .error g => .error g

/- A check beside one that has no result of its own. -/
def alongWith
    {α : Type}
    (a : Checked α)
    (b : Checked Unit) : Checked α :=
  (both a b).map (·.1)

/- Every check of a list, with the faults of all. -/
def all
    {α : Type} :
    List (Checked α) → Checked (List α)
  | [] => .ok []
  | check :: rest =>
    (both check (all rest)).map fun (a, as) => a :: as

------------------------------------------------------------
-- Scalars
------------------------------------------------------------

/- A text, of whole characters or not. -/
def asText : Document → Checked Text
  | .scalar (.text s) => .ok s
  | .scalar (.bytes data) =>
    match Utf8.decode ⟨data.toArray⟩ with
    | .ok s => .ok s
    | .error _ => fail .undecodableText
  | _ => fail .notText

/- A text, or nothing for null. -/
def optional
    {α : Type}
    (check : Document → Checked α) :
    Document → Checked (Option α)
  | .scalar .null => .ok none
  | d => (check d).map some

/-
  The string of a scalar that may be read as something else.
  Bytes that are no text are faulty in the given way.
-/
def stringOf?
    (mismatch : Mismatch) : Document → Option (Checked String)
  | .scalar (.text s) =>
    match s.toString? with
    | some s => some (.ok s)
    | none => some (fail .undecodableText)
  | .scalar (.bytes data) =>
    match Utf8.decode ⟨data.toArray⟩ with
    | .ok s => some (.ok s)
    | .error _ => some (fail mismatch)
  | _ => none

/- The integers that a floating point number may stand for. -/
def inWordRange (n : Int) : Bool :=
  -9223372036854775808 < n && n < 9223372036854775808

/- An integer that a floating point number stands for. -/
def integerOfNumber (x : Binary64) : Except Mismatch Int :=
  if !x.isFinite then .error .notFinite
  else if !x.isIntegral then .error .fractional
  else
    match x.truncate? with
    | some n =>
      if inWordRange n then .ok n else .error .integerTooLong
    | none => .error .notFinite

/- An integer. -/
def asInteger (d : Document) : Checked Int :=
  match stringOf? .notIntegerText d with
  | some (.error rejection) => .error rejection
  | some (.ok s) =>
    match readPlainInteger s with
    | .ok n => .ok n
    | .error .tooLong => fail .integerTooLong
    | .error .notInteger => fail .notIntegerText
  | none =>
    match d with
    | .scalar (.integer n) => .ok n
    | .scalar (.boolean b) => .ok (if b then 1 else 0)
    | .scalar (.number x) =>
      match integerOfNumber x with
      | .ok n => .ok n
      | .error mismatch => fail mismatch
    | _ => fail .notInteger

/- The words that stand for a truth value. -/
def readBoolean? (s : String) : Option Bool :=
  let word := String.ofList (s.toList.map Char.toLower)
  if ["0", "off", "f", "false", "n", "no"].contains word then
    some false
  else if ["1", "on", "t", "true", "y", "yes"].contains word then
    some true
  else
    none

/- The truth value of an integer. -/
def booleanOfInteger (n : Int) : Checked Bool :=
  if n = 0 then .ok false
  else if n = 1 then .ok true
  else fail .notBooleanText

/- A truth value. -/
def asBoolean (d : Document) : Checked Bool :=
  match stringOf? .notBooleanText d with
  | some (.error rejection) => .error rejection
  | some (.ok s) =>
    match readBoolean? s with
    | some b => .ok b
    | none => fail .notBooleanText
  | none =>
    match d with
    | .scalar (.boolean b) => .ok b
    | .scalar (.integer n) =>
      if inWordRange n || n == -9223372036854775808 then
        booleanOfInteger n
      else
        fail .notBoolean
    | .scalar (.number x) =>
      match integerOfNumber x with
      | .ok n => booleanOfInteger n
      | .error _ => fail .notBoolean
    | _ => fail .notBoolean

/- A floating point number. -/
def asNumber (d : Document) : Checked Binary64 :=
  match stringOf? .notNumberText d with
  | some (.error rejection) => .error rejection
  | some (.ok s) =>
    match readPlainNumber? s with
    | some x => .ok x
    | none => fail .notNumberText
  | none =>
    match d with
    | .scalar (.number x) => .ok x
    | .scalar (.boolean b) =>
      .ok (Binary64.ofFraction false ⟨if b then 1 else 0, 1⟩)
    | .scalar (.integer n) =>
      match Binary64.ofInt? n with
      | some x => .ok x
      | none => fail .notNumber
    | _ => fail .notNumber

/- One of some texts. -/
def oneOf
    (choices : List String)
    (d : Document) : Checked String :=
  match d with
  | .scalar (.text s) =>
    match s.toString? with
    | some s =>
      if choices.contains s then .ok s
      else fail (.notOneOf choices)
    | none => fail .undecodableText
  | _ => fail (.notOneOf choices)

------------------------------------------------------------
-- Collections
------------------------------------------------------------

/- The items of what counts as a list. -/
def items? : Document → Option (List Document)
  | .sequence items => some items
  | .pair key value => some [key, value]
  | .members items => some (items.map .scalar)
  | _ => none

/- Check items, each below its place in the list. -/
def itemsFrom
    {α : Type}
    (check : Document → Checked α)
    (place : Nat) :
    List Document → List (Checked α)
  | [] => []
  | item :: rest =>
    within (natText place) (check item) ::
      itemsFrom check (place + 1) rest

/- A list of what passes a check. -/
def listOf
    {α : Type}
    (check : Document → Checked α)
    (d : Document) : Checked (List α) :=
  match items? d with
  | some items => all (itemsFrom check 0 items)
  | none => fail .notList

/-
  Entries with texts for keys.  Keys that become the same
  text count as one.
-/
def textKeys
    {α β : Type}
    (check : α → Checked β)
    (entries : List (Scalar × α)) :
    Checked (List (Text × β)) :=
  let checks := entries.map fun (key, value) =>
    within key.place
      (both (within "[key]" (asText (.scalar key))) (check value))
  (all checks).map fun pairs =>
    pairs.foldl (fun kept (name, value) => put kept name value) []
where
  /- Enter a value under a name. -/
  put : List (Text × β) → Text → β → List (Text × β)
    | [], name, value => [(name, value)]
    | (n, v) :: rest, name, value =>
      if n = name then (n, value) :: rest
      else (n, v) :: put rest name value

/- The entries of a mapping, with texts for keys. -/
def mappingOf
    {α : Type}
    (check : Document → Checked α)
    (d : Document) : Checked (List (Text × α)) :=
  match d with
  | .mapping entries => textKeys check entries
  | _ => fail .notMapping

------------------------------------------------------------
-- Fields
------------------------------------------------------------

/- A field that must be there. -/
def required
    {α : Type}
    (entries : List (Scalar × Document))
    (name : String)
    (check : Document → Checked α) : Checked α :=
  within name <|
    match Document.find? entries name with
    | some value => check value
    | none => fail .missing

/- A field that may be left out. -/
def optionalField
    {α : Type}
    (entries : List (Scalar × Document))
    (name : String)
    (default : α)
    (check : Document → Checked α) : Checked α :=
  match Document.find? entries name with
  | some value => within name (check value)
  | none => .ok default

/- No fields but the given ones, and no keys but texts. -/
def noOthers
    (entries : List (Scalar × Document))
    (names : List String) : Checked Unit :=
  let faults := entries.filterMap fun (key, _) =>
    match key with
    | .text name =>
      if names.contains name.replaced then none
      else some ⟨[name.replaced], .unexpected⟩
    | key => some ⟨[key.place], .keyNotText⟩
  if faults.isEmpty then .ok () else .error (.faults faults)

/- Is a key a text with half of a surrogate pair? -/
def isHalved : Scalar → Bool
  | .text name => name.toString?.isNone
  | _ => false

/-
  The fields of a record that has no others.  A halved key
  hides every fault, for the names cannot be compared.
-/
def closed
    {α : Type}
    (entries : List (Scalar × Document))
    (names : List String)
    (fields : Checked α) : Checked α :=
  if entries.any fun entry => isHalved entry.1 then
    match fields with
    | .error (.overrun cause) => .error (.overrun cause)
    | _ => fail .undecodableText
  else
    alongWith fields (noOthers entries names)

/- The entries of a record and the text that tells its kind. -/
def tagged
    (field : String)
    (tags : List String)
    (d : Document) :
    Checked (String × List (Scalar × Document)) :=
  match d with
  | .mapping entries =>
    match Document.find? entries field with
    | none => fail (.noTag field)
    | some value =>
      match value.string? with
      | some tag =>
        if tags.contains tag then .ok (tag, entries)
        else fail (.unknownTag tag field tags)
      | none => fail (.unknownTag value.shown.replaced field tags)
  | _ => fail .notRecord

end Checked

end Replay
