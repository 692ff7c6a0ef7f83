import Replay.Action
import Replay.Validation

/-
  This file defines the reading of actions from documents.

  Key definitions include:
    * `FormInput.read`
    * `Action.readData`
    * `Action.readPattern`
    * `Action.read`

  The field `action` names the kind.  Every other field must
  be one of that kind.  In the data of a form a bare text is
  short for an input of kind `text`.
-/

------------------------------------------------------------
-- Form Inputs
------------------------------------------------------------

namespace Replay

open Checked

/- The fields of one kind of input and no others. -/
def FormInput.readKind
    (tag : String)
    (entries : List (Scalar × Document)) :
    Checked FormInput :=
  match tag with
  | "text" =>
    closed entries ["type", "value"]
      ((required entries "value" asText).map .text)
  | "checkbox" =>
    closed entries ["type", "checked"]
      ((required entries "checked" asBoolean).map .checkbox)
  | "radio" =>
    closed entries ["type", "value"]
      ((required entries "value" asText).map .radio)
  | "select" =>
    closed entries ["type", "value"]
      ((required entries "value" asText).map .select)
  | _ =>
    closed entries ["type", "files"]
      ((required entries "files" (listOf asText)).map .file)

/- One input: a bare text, or a record with its kind. -/
def FormInput.read : Document → Checked FormInput
  | .scalar (.text s) => .ok (.text s)
  | d => do
    let (tag, entries) ← tagged "type" kinds d
    within tag (FormInput.readKind tag entries)

------------------------------------------------------------
-- Fields of Actions
------------------------------------------------------------

namespace Action

/- The inputs of a form, in their order. -/
def readData (d : Document) : Checked (List (Text × FormInput)) :=
  mappingOf FormInput.read d

variable [Pattern.Engine]

/- A regular expression that can be searched for. -/
def readPattern (d : Document) : Checked Pattern.Compiled := do
  let source ← asText d
  match Pattern.compile source with
  | .ok pattern => return pattern
  | .error .roundsTooLarge => throw (.overrun .rounds)
  | .error .codeTooLarge => throw (.overrun .code)
  | .error .behindTooFar => throw (.overrun .behind)
  | .error (.malformed cause position) =>
    fail (.refused ("invalid regular expression " ++
      Text.quote source ++ ": " ++
      cause.messageAt source position))
  | .error (.tooManyDigits count) =>
    fail (.refused
      (Number.IntegerFault.tooManyDigits count).message)
  | .error .twoAlphabets =>
    fail (.refused "ASCII and UNICODE flags are incompatible")

/- The expected value of an assertion. -/
def expected
    (entries : List (Scalar × Document)) :
    Checked Pattern.Compiled :=
  required entries "expected" readPattern

------------------------------------------------------------
-- Actions
------------------------------------------------------------

/- The fields of one kind of action and no others. -/
def readKind
    (tag : String)
    (entries : List (Scalar × Document)) : Checked Action :=
  match tag with
  | "goto-url" =>
    closed entries ["action", "value"]
      ((required entries "value" asText).map .visit)
  | "goto" =>
    closed entries ["action", "xpath"]
      ((required entries "xpath" asText).map .click)
  | "submit" =>
    let button :=
      optionalField entries "button" none (optional asText)
    let form := optionalField entries "form" none (optional asText)
    let data := optionalField entries "data" [] readData
    closed entries ["action", "button", "form", "data"]
      ((both button (both form data)).map
        fun (button, form, data) => .submit button form data)
  | "time-advance" =>
    closed entries ["action", "value"]
      ((required entries "value" asInteger).map .advance)
  | "assert-url" =>
    closed entries ["action", "expected"]
      ((expected entries).map .assertUrl)
  | "assert-title" =>
    closed entries ["action", "expected"]
      ((expected entries).map .assertTitle)
  | "assert-attribute" =>
    let xpath := required entries "xpath" asText
    let name := required entries "attribute" asText
    closed entries ["action", "expected", "xpath", "attribute"]
      ((both (expected entries) (both xpath name)).map
        fun (expected, xpath, name) =>
          .assertAttribute expected xpath name)
  | _ =>
    closed entries ["action", "expected", "xpath"]
      ((both (expected entries) (required entries "xpath" asText)).map
        fun (expected, xpath) => .assertText expected xpath)

/- One action: a record with its kind. -/
def read (d : Document) : Checked Action := do
  let (tag, entries) ← tagged "action" kinds d
  within tag (readKind tag entries)

end Action

end Replay
