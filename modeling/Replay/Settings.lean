import Replay.Number.Reader
import Replay.Path
import Replay.Text.Quoted

/-
  This file defines the settings that the environment gives.

  Key definitions include:
    * `Settings`
    * `Settings.ofEnvironment`
    * `Settings.checkTheme`
    * `Settings.stateFolder`
    * `Settings.actionTimeout`
-/

------------------------------------------------------------
-- Settings
------------------------------------------------------------

namespace Replay

open Number Text

/-
  Where the state is kept, the pipe of reload requests, how
  much is logged, and how long an action may take.
-/
structure Settings where
  state : Option String
  pipe : String
  logLevel : String
  timeout : Option String
  deriving DecidableEq, Repr

namespace Settings

/- The settings of an environment. -/
def ofEnvironment
    (environment : List (String × String)) : Settings :=
  { state := environment.lookup "NETERO_STATE"
    pipe := (environment.lookup "NETERO_FIFO").getD
      "/tmp/netero/browser.fifo"
    logLevel := (environment.lookup "NETERO_LOG_LEVEL").getD "INFO"
    timeout := environment.lookup "NETERO_ACTION_TIMEOUT_MS" }

------------------------------------------------------------
-- Faults
------------------------------------------------------------

/- What is wrong with a setting. -/
inductive Fault where
  | theme (name : String)
  | noState
  | timeout (text : String)
  deriving DecidableEq, Repr

/- The wording of a fault. -/
def Fault.message : Fault → String
  | theme name =>
    "Invalid theme: " ++ name ++
      ". Must be \"light\", \"dark\", or unset."
  | noState =>
    "NETERO_STATE environment variable is not set. " ++
      "Export NETERO_STATE=/path/to/state or add it to a " ++
      ".env file."
  | timeout text =>
    "NETERO_ACTION_TIMEOUT_MS must be a number of " ++
      "milliseconds, got " ++ quote text ++ "."

------------------------------------------------------------
-- Checks
------------------------------------------------------------

/- A theme that there is, or none. -/
def checkTheme :
    Option String → Except Fault (Option String)
  | none => .ok none
  | some theme =>
    if theme = "light" ∨ theme = "dark" then .ok (some theme)
    else .error (.theme theme)

/- The folder of the state: the given one or the one set. -/
def stateFolder
    (settings : Settings)
    (given : Option String) : Except Fault Path :=
  match given.or settings.state with
  | none => .error .noState
  | some "" => .error .noState
  | some folder => .ok (.ofText folder)

/-
  How many milliseconds an action may take; none leaves it to
  the browser.
-/
def actionTimeout
    (settings : Settings)
    (given : Option String) :
    Except Fault (Option Binary64) :=
  match given.or settings.timeout with
  | none => .ok none
  | some "" => .ok none
  | some text =>
    match readNumber? text with
    | some x => .ok (some x)
    | none => .error (.timeout text)

end Settings

end Replay
