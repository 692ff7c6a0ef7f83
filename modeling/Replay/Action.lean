import Replay.Pattern

/-
  This file defines the actions that the steps of a scenario
  perform.

  Key definitions include:
    * `FormInput`
    * `Action`
    * `Action.kind`
    * `Action.kinds`
-/

------------------------------------------------------------
-- Form Inputs
------------------------------------------------------------

namespace Replay

/- What is entered into one field of a form. -/
inductive FormInput where
  | text (value : Text)
  | checkbox (checked : Bool)
  | radio (value : Text)
  | select (value : Text)
  | file (files : List Text)
  deriving DecidableEq, Repr

namespace FormInput

/- The name of a kind of input. -/
def kind : FormInput → String
  | text _ => "text"
  | checkbox _ => "checkbox"
  | radio _ => "radio"
  | select _ => "select"
  | file _ => "file"

/- The names of all kinds. -/
def kinds : List String :=
  ["text", "checkbox", "radio", "select", "file"]

end FormInput

------------------------------------------------------------
-- Actions
------------------------------------------------------------

/-
  One action: open an address, click an element, fill and
  send a form, move the clock, or compare a value of the page
  with a regular expression.  A form is filled in the order
  of its data.
-/
inductive Action where
  | visit (url : Text)
  | click (xpath : Text)
  | submit (button form : Option Text)
      (data : List (Text × FormInput))
  | advance (delta : Int)
  | assertUrl (expected : Pattern.Compiled)
  | assertTitle (expected : Pattern.Compiled)
  | assertAttribute (expected : Pattern.Compiled)
      (xpath name : Text)
  | assertText (expected : Pattern.Compiled) (xpath : Text)

namespace Action

/- The name of a kind of action. -/
def kind : Action → String
  | visit _ => "goto-url"
  | click _ => "goto"
  | submit _ _ _ => "submit"
  | advance _ => "time-advance"
  | assertUrl _ => "assert-url"
  | assertTitle _ => "assert-title"
  | assertAttribute _ _ _ => "assert-attribute"
  | assertText _ _ => "assert-text"

/- The names of all kinds. -/
def kinds : List String :=
  ["goto-url", "goto", "submit", "time-advance", "assert-url",
    "assert-title", "assert-attribute", "assert-text"]

end Action

end Replay
