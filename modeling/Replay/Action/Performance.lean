import Replay.Action
import Replay.Clock
import Replay.Locator
import Replay.XPath

/-
  This file defines the performance of actions.

  Key definitions include:
    * `Stage`
    * `expect`
    * `submit`
    * `perform`

  Where an action cannot go on, the calls made before stay
  made.  A form is sent only after it was filled.
-/

------------------------------------------------------------
-- Expectations
------------------------------------------------------------

namespace Replay

open Number Text

/- The folder of the state, and the time that a call has. -/
structure Stage where
  state : Path
  timeout : Option Binary64
  deriving DecidableEq, Repr

/- Compare what is observed with what is expected. -/
def expect
    (stage : Stage)
    (subject : Subject)
    (expected : Pattern.Compiled) : Play Unit := do
  let actual ← observe stage.timeout subject
  match expected.searchIn actual with
  | .present =>
    Play.note .debug "netero.executor.executor"
      (subject.describe ++ " " ++ quote actual ++ " matches " ++
        quote expected.source)
  | .absent =>
    throw (.mismatch subject.describe actual expected.source)
  | .crossed => throw .crossedGroup

------------------------------------------------------------
-- Forms
------------------------------------------------------------

/- The expression that finds the field of an input. -/
def FormInput.selector
    (name : Text) : FormInput → Text
  | text _ => XPath.anyField name
  | checkbox _ => XPath.inputField name
  | radio value => XPath.inputOfValue name value
  | select _ => XPath.selectField name
  | file _ => XPath.inputField name

/- Enter an input into a field. -/
def FormInput.enter
    (field : Locator) : FormInput → Play Unit
  | text value =>
    discard (field.use .fill (.fill field.path value))
  | checkbox true =>
    discard (field.use .check (.check field.path))
  | checkbox false =>
    discard (field.use .uncheck (.uncheck field.path))
  | radio _ =>
    discard (field.use .check (.check field.path))
  | select value =>
    discard (field.use .select (.select field.path value))
  | file files =>
    discard (field.use .attach (.attach field.path files))

/- Fill the fields of a form in the order of its data. -/
def fillForm
    (stage : Stage)
    (form : Locator)
    (scope : Text) :
    List (Text × FormInput) → Play Unit
  | [] => pure ()
  | (name, input) :: rest => do
    let field ← locateWithin stage.timeout form scope
      (input.selector name)
    input.enter field
    fillForm stage form scope rest

/- The location of a form; an empty one counts as none. -/
def formLocation (form : Option Text) : Text :=
  match form with
  | none => XPath.form
  | some location => if location = [] then XPath.form else location

/- Fill a form, then click what sends it. -/
def submit
    (stage : Stage)
    (button form : Option Text)
    (data : List (Text × FormInput)) : Play Unit := do
  let scope := formLocation form
  let form ← locate stage.timeout scope
  fillForm stage form scope data
  let control ←
    match button with
    | some location => locate stage.timeout location
    | none =>
      locateWithin stage.timeout form scope XPath.submitControl
  control.click

------------------------------------------------------------
-- Actions
------------------------------------------------------------

/- Open an address. -/
def visit (url : Text) : Play Unit := do
  Play.record (.visit url)
  Play.breakDown ((← get).page.unreachable.lookup url)
  modify fun w => { w with page := w.page.opened url }

/- Perform an action. -/
def perform
    (stage : Stage) : Action → Play Unit
  | .visit url => visit url
  | .click xpath => do (← locate stage.timeout xpath).click
  | .submit button form data => submit stage button form data
  | .advance delta => discard (Clock.advance stage.state delta)
  | .assertUrl expected => expect stage .url expected
  | .assertTitle expected => expect stage .title expected
  | .assertAttribute expected xpath name =>
    match Subject.attributeOf xpath name with
    | .ok subject => expect stage subject expected
    | .error rejection => throw (.rejected rejection)
  | .assertText expected xpath =>
    expect stage (.text xpath none) expected

end Replay
