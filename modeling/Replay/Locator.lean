import Replay.Subject
import Replay.World

/-
  This file defines how elements are found and observed.

  Key definitions include:
    * `Locator`
    * `Locator.attempt`
    * `Locator.use`
    * `locate`
    * `observe`

  Where several elements match, the first one counts.
-/

------------------------------------------------------------
-- Locators
------------------------------------------------------------

namespace Replay

open Number Text

/- The selectors that lead to an element, and what matches. -/
structure Locator where
  path : List Text
  element : Option Element

namespace Locator

/- What a selector finds on a page. -/
def onPage
    (page : Page)
    (selector : Text) : Locator :=
  ⟨[selector], (matching page.elements selector).head?⟩

/- What a selector finds within an element. -/
def within
    (outer : Locator)
    (selector : Text) : Locator :=
  ⟨outer.path ++ [selector],
    outer.element.bind fun element =>
      (matching element.children selector).head?⟩

/- Do something with the element, if it is there. -/
def attempt
    (locator : Locator)
    (method : Method) : Except Failure Element :=
  match locator.element with
  | none =>
    .error (.timeout
      ("Timeout waiting for " ++ locator.path.getLastD []))
  | some element =>
    match element.breakdowns.lookup method with
    | some breakdown => .error breakdown.failure
    | none => .ok element

/- Call the element. -/
def use
    (locator : Locator)
    (method : Method)
    (call : Call) : Play Element := do
  Play.record call
  match locator.attempt method with
  | .ok element => return element
  | .error failure => throw failure

/- Click the element, with the effect it has on the page. -/
def click (locator : Locator) : Play Unit := do
  let element ← locator.use .click (.click locator.path)
  match element.clicked with
  | none => pure ()
  | some effect =>
    modify fun w => { w with page := w.page.apply effect }

end Locator

------------------------------------------------------------
-- Finding Elements
------------------------------------------------------------

/-
  Wait until an element is there.  The scope is what it was
  searched for in, unless that is the page.
-/
def await
    (timeout : Option Binary64)
    (locator : Locator)
    (xpath : Text)
    (scope : Option Text) : Play Unit := do
  Play.record (.await locator.path timeout)
  match locator.attempt .await with
  | .ok _ =>
    Play.note .debug "netero.resolver.resolver"
      ("Resolved " ++ xpath)
  | .error (.timeout _) => throw (.noElement xpath scope)
  | .error failure => throw failure

/- Find an element of the page. -/
def locate
    (timeout : Option Binary64)
    (xpath : Text) : Play Locator := do
  let locator := Locator.onPage (← get).page xpath
  await timeout locator xpath none
  return locator

/- Find an element within another one. -/
def locateWithin
    (timeout : Option Binary64)
    (outer : Locator)
    (scope xpath : Text) : Play Locator := do
  let locator := outer.within xpath
  await timeout locator xpath (some scope)
  return locator

------------------------------------------------------------
-- Observing
------------------------------------------------------------

/- What is observed of a page. -/
def observe
    (timeout : Option Binary64) : Subject → Play Text
  | .url => return (← get).page.url
  | .title => do
    Play.record .title
    let page := (← get).page
    Play.breakDown page.titleBreakdown
    return page.title
  | .attributeValue xpath name => do
    let locator ← locate timeout xpath
    let element ← locator.use .readAttribute
      (.readAttribute locator.path name)
    match element.values.lookup name with
    | some value => return value
    | none => throw (.noAttribute name xpath)
  | .text xpath _ => do
    let locator ← locate timeout xpath
    let element ← locator.use .readText (.readText locator.path)
    match element.text with
    | some value => return value
    | none => throw (.noText xpath)

end Replay
