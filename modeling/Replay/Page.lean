import Replay.Failure

/-
  This file defines pages, as far as actions can tell.

  Key definitions include:
    * `Breakdown`
    * `Effect`
    * `Element`
    * `Page`
    * `Page.matching`
    * `Page.apply`

  A page gives, for each selector, the elements it matches.
  Opening an address and clicking an element have effects
  that the page brings with it.  Each call to a page may
  break down instead of doing its work.
-/

------------------------------------------------------------
-- Breakdowns
------------------------------------------------------------

namespace Replay

/- How a call breaks down. -/
inductive Breakdown where
  | browser (message : Text)
  | timeout (message : Text)
  | system (message : Text)
  | runtime (message : Text)
  deriving DecidableEq, Repr

/- The failure that a breakdown causes. -/
def Breakdown.failure : Breakdown → Failure
  | browser message => .browser message
  | timeout message => .timeout message
  | system message => .files (.inputOutput message)
  | runtime message => .runtime message

------------------------------------------------------------
-- Elements
------------------------------------------------------------

/- What can be done with an element. -/
inductive Method where
  | await
  | click
  | fill
  | check
  | uncheck
  | select
  | attach
  | readAttribute
  | readText
  deriving DecidableEq, Repr

/-
  A change of a page: selectors that match nothing any more,
  elements that are new, and a new address and title.
-/
structure Effect (α : Type) where
  removed : List Text
  added : List (Text × List α)
  url : Option Text
  title : Option Text
  deriving Repr

/-
  An element: its text, its attributes, the elements that
  selectors match within it, what a click does, and the calls
  that break down.
-/
inductive Element where
  | mk
    (text : Option Text)
    (values : List (Text × Text))
    (children : List (Text × List Element))
    (clicked : Option (Effect Element))
    (breakdowns : List (Method × Breakdown))

namespace Element

/- The text of an element. -/
def text : Element → Option Text
  | mk text _ _ _ _ => text

/- The attributes of an element. -/
def values : Element → List (Text × Text)
  | mk _ values _ _ _ => values

/- What selectors match within an element. -/
def children : Element → List (Text × List Element)
  | mk _ _ children _ _ => children

/- What a click on an element does. -/
def clicked : Element → Option (Effect Element)
  | mk _ _ _ clicked _ => clicked

/- The calls to an element that break down. -/
def breakdowns : Element → List (Method × Breakdown)
  | mk _ _ _ _ breakdowns => breakdowns

end Element

/- All elements that stand under a selector. -/
def matching
    (listed : List (Text × List Element))
    (selector : Text) : List Element :=
  (listed.filter fun (other, _) => other == selector).flatMap
    (·.2)

------------------------------------------------------------
-- Pages
------------------------------------------------------------

/-
  A page: its address and title, what selectors match, what
  opening an address does, and the calls that break down.
-/
structure Page where
  url : Text
  title : Text
  elements : List (Text × List Element)
  routes : List (Text × Effect Element)
  unreachable : List (Text × Breakdown)
  titleBreakdown : Option Breakdown

namespace Page

/- The page without anything. -/
def blank : Page :=
  { url := "about:blank"
    title := []
    elements := []
    routes := []
    unreachable := []
    titleBreakdown := none }

/- Change a page. -/
def apply
    (page : Page)
    (effect : Effect Element) : Page :=
  { page with
    elements :=
      (page.elements.filter fun (selector, _) =>
        !effect.removed.contains selector) ++ effect.added
    url := effect.url.getD page.url
    title := effect.title.getD page.title }

/- A page after it opened an address. -/
def opened
    (page : Page)
    (url : Text) : Page :=
  (page.routes.filter fun (route, _) => route == url).foldl
    (fun page (_, effect) => page.apply effect)
    { page with url := url }

end Page

end Replay
