import Replay.Run
import Replay.Store
import Replay.Window

/-
  This file defines sessions that replay one scenario in the
  tab that was saved last.

  Key definitions include:
    * `Session`
    * `Session.restoreTab`
    * `Session.save`
    * `Session.replay`

  The tab is saved only if every step passed.  The browser is
  closed and its profile removed at the end, whatever the end
  was.
-/

------------------------------------------------------------
-- Sessions
------------------------------------------------------------

namespace Replay

open Number

/- Who tells of sessions. -/
def sessionLog : String :=
  "netero.runner.session"

/-
  How a scenario is replayed: the folder of the state, the
  look of the browser, the time for an action, where tabs are
  kept, and the tab, if it is not the active one.
-/
structure Session where
  state : Path
  options : LaunchOptions
  timeout : Option Binary64
  store : Store
  addr : Option Address

namespace Session

/- Open the tab where it was left. -/
def restoreTab
    (store : Store)
    (addr : Address) : Play Unit := do
  Window.restoreCookies (← store.readCookies addr)
  Window.newTab

/- Go to the address where the tab was left. -/
def restoreUrl
    (store : Store)
    (addr : Address) : Play Unit := do
  match ← store.readUrl addr with
  | none => pure ()
  | some url =>
    if url = [] then
      pure ()
    else
      Play.note .info sessionLog ("Restoring tab at " ++ url)
      visit url

/- Save the tab. -/
def save
    (store : Store)
    (addr : Address) : Play Unit := do
  store.writeUrl addr (← get).page.url
  store.writeCookies addr (← Window.exportCookies)
  Play.note .info sessionLog
    ("Saved session state for browser " ++ addr.browser ++
      " tab " ++ addr.tab)

/- Restore the tab, run the scenario, and save the tab. -/
def body
    (session : Session)
    (config : Configuration)
    (scenario : Text)
    (addr : Address) : Play RunResult := do
  restoreTab session.store addr
  restoreUrl session.store addr
  let result ←
    run config ⟨session.state, session.timeout⟩ scenario
  if result.success then
    save session.store addr
  return result

/- The tab that is acted on. -/
def address (session : Session) : Play Address :=
  match session.addr with
  | some addr => pure addr
  | none => session.store.activeAddress

/- Replay a scenario.  One that is not there starts nothing. -/
def replay
    (session : Session)
    (config : Configuration)
    (scenario : Text) : Play RunResult := do
  if (config.scenario? scenario).isNone then
    throw (.unknownScenario scenario)
  let addr ← session.address
  Window.onProfile do
    Window.launch session.options session.timeout
    (session.body config scenario addr).andFinally Window.close

end Session

end Replay
