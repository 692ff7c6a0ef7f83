import Replay.Cookie

/-
  This file defines the calls to a browser and to what goes
  with it.

  Key definitions include:
    * `Address`
    * `LaunchOptions`
    * `Call`

  A row of calls is the trace of what was done.
-/

------------------------------------------------------------
-- Calls
------------------------------------------------------------

namespace Replay

open Number

/- A tab of a browser. -/
structure Address where
  browser : String
  tab : String
  deriving DecidableEq, Repr

/- How a browser is started. -/
structure LaunchOptions where
  theme : Option String
  headless : Bool
  deriving DecidableEq, Repr

/-
  One call: to the page, to an element by the selectors that
  lead to it, to the browser, to a channel, or to a store
  that is kept elsewhere.
-/
inductive Call where
  | visit (url : Text)
  | title
  | await (path : List Text) (timeout : Option Binary64)
  | click (path : List Text)
  | fill (path : List Text) (value : Text)
  | check (path : List Text)
  | uncheck (path : List Text)
  | select (path : List Text) (value : Text)
  | attach (path : List Text) (files : List Text)
  | readAttribute (path : List Text) (name : Text)
  | readText (path : List Text)
  | launch (options : LaunchOptions) (preferences : String)
  | limitTime (timeout : Binary64)
  | addCookies (cookies : List Cookie)
  | newPage
  | listCookies
  | close
  | closePage (label : String)
  | reload (label : String)
  | pause (label : String)
  | openChannel
  | closeChannel
  | activeAddress
  | readCookies (addr : Address)
  | readUrl (addr : Address)
  | writeCookies (addr : Address) (cookies : List Cookie)
  | writeUrl (addr : Address) (url : Text)
  deriving DecidableEq, Repr

end Replay
