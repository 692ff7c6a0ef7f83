import Replay.CommandLine.Arguments
import Replay.Configuration.File
import Replay.Text.UpperCase
import Replay.Watch

/-
  This file defines the command line.

  Key definitions include:
    * `CommandLine.Reply`
    * `CommandLine.threshold?`
    * `CommandLine.report`
    * `CommandLine.invoke`

  What the program finds wrong by itself, and what the
  browser reports, is logged; any other failure gets out.
-/

------------------------------------------------------------
-- Replies
------------------------------------------------------------

namespace Replay

namespace CommandLine

open Number Text

/-
  What comes of a call: its status, what it prints, and what
  it complains about, if the arguments ended it.
-/
structure Reply where
  status : Nat
  out : Text
  complaint : Option String
  deriving DecidableEq, Repr

/- A reply without any text. -/
def Reply.silent (status : Nat) : Reply :=
  ⟨status, "", none⟩

/- The reply to arguments that ended the call. -/
def Stop.reply : Stop → Reply
  | help verb => ⟨0, Verb.help verb, some ""⟩
  | misuse verb message =>
    ⟨2, "", some
      (Verb.usage verb ++ Verb.program verb ++ ": error: " ++
        message ++ "\n")⟩

------------------------------------------------------------
-- Logs
------------------------------------------------------------

/- How much a level matters. -/
def weight : Level → Nat
  | .debug => 10
  | .info => 20
  | .warning => 30
  | .error => 40

/- How much a notice must matter at least. -/
def threshold? : String → Option Nat
  | "CRITICAL" => some 50
  | "FATAL" => some 50
  | "ERROR" => some 40
  | "WARNING" => some 30
  | "WARN" => some 30
  | "INFO" => some 20
  | "DEBUG" => some 10
  | "NOTSET" => some 0
  | _ => none

/- The notices that settings let through. -/
def shown
    (settings : Settings)
    (log : List Notice) : List Notice :=
  match threshold? (upperCase settings.logLevel) with
  | none => []
  | some threshold =>
    log.filter fun notice => threshold ≤ weight notice.level

/- The command line as it tells of itself. -/
def mainLog : String :=
  "netero"

------------------------------------------------------------
-- Checking
------------------------------------------------------------

/- The line of a scenario. -/
def scenarioLine
    (name : Text)
    (scenario : Scenario) : Text :=
  let after :=
    match scenario.prev with
    | none => []
    | some prev => if prev = [] then [] else " (after " ++ prev ++ ")"
  "  " ++ name ++ after ++ ": " ++
    (ofString ", ").intercalate scenario.steps ++ "\n"

/- The line of a reference to a step that is not defined. -/
def danglingLine (scenario step : Text) : Text :=
  "Error: scenario \"" ++ scenario ++
    "\" references undefined step \"" ++ step ++ "\"\n"

/- What is told of a configuration. -/
def report (config : Configuration) : Reply :=
  let dangling := config.danglingReferences
  { status := if dangling.isEmpty then 0 else 1
    out :=
      natText config.steps.length ++ " steps, " ++
        natText config.scenarios.length ++ " scenarios\n" ++
        (config.scenarios.flatMap fun (name, scenario) =>
          scenarioLine name scenario) ++
        dangling.flatMap fun (scenario, step) =>
          danglingLine scenario step
    complaint := none }

------------------------------------------------------------
-- Commands
------------------------------------------------------------

/- What comes of a setting. -/
def ofSetting
    {α : Type} :
    Except Settings.Fault α → Play α
  | .ok value => pure value
  | .error fault => throw (.settings fault)

variable [Pattern.Engine]

/- Replay a scenario. -/
def replay
    (settings : Settings)
    (configPath scenario : String)
    (theme : Option String)
    (headed : Bool) : Play Reply := do
  let theme ← ofSetting (Settings.checkTheme theme)
  let state ← ofSetting (settings.stateFolder none)
  let config ← Configuration.load configPath
  let timeout ← ofSetting (settings.actionTimeout none)
  let session : Session :=
    { state
      options := ⟨theme, !headed⟩
      timeout
      store := .folder state
      addr := none }
  let result ← session.replay config scenario
  if result.success then
    Play.note .info mainLog result.describe
    return .silent 0
  else
    Play.note .error mainLog result.describe
    return .silent 1

/- Open the active tab and watch over it. -/
def watch
    (settings : Settings)
    (theme : Option String) : Play Reply := do
  let theme ← ofSetting (Settings.checkTheme theme)
  let state ← ofSetting (settings.stateFolder none)
  let channel : Channel := ⟨.ofText settings.pipe, none⟩
  Watch.begin (.folder state) theme channel (.channel channel)
  return .silent 0

/- Ask an open browser to reload its pages. -/
def reload (settings : Settings) : Play Reply := do
  let channel : Channel := ⟨.ofText settings.pipe, none⟩
  let sent ← channel.broadcast reloadAll
  return .silent (if sent then 0 else 1)

/- Do what is asked for. -/
def handle
    (settings : Settings) : Invocation → Play Reply
  | .nothing => return ⟨2, Verb.help none, none⟩
  | .run config scenario theme headed =>
    replay settings config scenario theme headed
  | .watch theme => watch settings theme
  | .check config => return report (← Configuration.load config)
  | .reload => reload settings

/- Log what is found wrong or reported by the browser. -/
def guarded (act : Play Reply) : Play Reply := do
  match ← act.outcome with
  | .ok reply => return reply
  | .error failure =>
    if failure.isOwn then
      Play.note .error mainLog failure.outline
      return .silent 1
    else if failure.isBrowser then
      Play.note .error mainLog ("Browser error: " ++ failure.message)
      return .silent 1
    else
      throw failure

/- A whole call, with settings and arguments. -/
def invoke
    (settings : Settings)
    (arguments : List String) : Play Reply := do
  let level := upperCase settings.logLevel
  if (threshold? level).isNone then
    throw (.unknownLevel level)
  match Invocation.ofArguments arguments with
  | .error stop => return stop.reply
  | .ok invocation => guarded (handle settings invocation)

end CommandLine

end Replay
