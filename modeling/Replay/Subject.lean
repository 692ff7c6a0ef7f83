import Replay.Validation

/-
  This file defines what can be observed of a page.

  Key definitions include:
    * `Subject`
    * `Subject.describe`
    * `Subject.readPage`
    * `Subject.readElement`
-/

------------------------------------------------------------
-- Subjects
------------------------------------------------------------

namespace Replay

open Checked

/-
  What is observed: the address or the title of the page, or
  an attribute or the text of an element.  A name that is
  given for a text is kept and means nothing.
-/
inductive Subject where
  | url
  | title
  | attributeValue (xpath name : Text)
  | text (xpath : Text) (name : Option Text)
  deriving DecidableEq, Repr

namespace Subject

/- How a subject is called. -/
def describe : Subject → Text
  | url => "URL"
  | title => "title"
  | attributeValue xpath name =>
    "attribute \"" ++ name ++ "\" at \"" ++ xpath ++ "\""
  | text xpath _ => "text content at \"" ++ xpath ++ "\""

------------------------------------------------------------
-- Checks
------------------------------------------------------------

/- An attribute without a name is no subject. -/
def attributeOf (xpath name : Text) : Checked Subject :=
  if name = [] then
    fail (.refused "attribute values need an attribute name")
  else
    .ok (.attributeValue xpath name)

/- The record of a subject of the page itself. -/
def readPage (d : Document) : Checked Subject :=
  match d with
  | .mapping entries => do
    let source :=
      optionalField entries "source" "page" (oneOf ["page"])
    let which :=
      required entries "which" (oneOf ["url", "title"])
    let (_, which) ← both source which
    return if which = "url" then .url else .title
  | _ => fail (.notModel "PageValue")

/- The record of a subject of an element. -/
def readElement (d : Document) : Checked Subject :=
  match d with
  | .mapping entries => do
    let source :=
      optionalField entries "source" "element"
        (oneOf ["element"])
    let xpath := required entries "xpath" asText
    let which :=
      required entries "which" (oneOf ["text", "attribute"])
    let name :=
      optionalField entries "name" none (optional asText)
    let (_, xpath, which, name) ←
      both source (both xpath (both which name))
    if which = "attribute" then
      attributeOf xpath (name.getD [])
    else
      return .text xpath name
  | _ => fail (.notModel "ElementValue")

end Subject

end Replay
