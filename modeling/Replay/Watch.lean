import Replay.Channel
import Replay.Session

/-
  This file defines the watch over a browser that was opened
  for its user, and the reloading of its pages on request.

  Key definitions include:
    * `Watch.pause`
    * `Watch.answer`
    * `Watch.serve`
    * `Watch.attend`
    * `Watch.begin`

  The watch ends when the user closes the browser, when no
  page is open any more, or when the browser fails.
-/

------------------------------------------------------------
-- Pauses
------------------------------------------------------------

namespace Replay

namespace Watch

open Number Text

/- Let something happen. -/
def happen
    (pipe : Channel)
    (tick : Tick) : Play Unit := do
  match tick.sent with
  | none => pure ()
  | some message => discard (pipe.broadcast message)
  modify fun w =>
    { w with
      pages := if tick.dropsPages then [] else w.pages
      closed := w.closed || tick.closes }
  Play.breakDown tick.breakdown

/- Wait on a page while something happens. -/
def pause
    (pipe : Channel)
    (label : String)
    (tick : Tick) : Play Unit := do
  Play.record (.pause label)
  happen pipe tick

------------------------------------------------------------
-- Requests
------------------------------------------------------------

/- Do what a message asks for, if there is one. -/
def answer (message : Option String) : Play Unit := do
  match message with
  | none => pure ()
  | some text =>
    if asksForReload text then
      let pages := (← get).pages
      Play.note .info sessionLog
        ("Reloading " ++ natText pages.length ++ " pages")
      Window.reload pages
    else if text = "" then
      pure ()
    else
      Play.note .debug sessionLog
        ("Ignoring message " ++ quote text)

/- Answer a message and wait; is there a page to wait on? -/
def round
    (pipe : Channel)
    (message : Option String)
    (tick : Tick) : Play Bool := do
  answer message
  match (← get).pages with
  | [] => return false
  | label :: _ =>
    pause pipe label tick
    return true

/- A round; a failure of the browser ends the watch. -/
def guardedRound
    (pipe : Channel)
    (message : Option String)
    (tick : Tick) : Play Bool := do
  match ← (round pipe message tick).outcome with
  | .ok goesOn => return goesOn
  | .error failure =>
    if failure.isBrowser then
      Play.note .debug sessionLog
        ("Browser went away: " ++ failure.message)
      return false
    else
      throw failure

/-
  Rounds until the browser is closed, one for each thing that
  happens.  When nothing else happens, it is closed.
-/
def serve
    (pipe : Channel)
    (listener : Listener) :
    List Tick → Play Unit
  | [] => do
    let (message, _) ← listener.poll
    discard (guardedRound pipe message .last)
  | tick :: rest => do
    let (message, listener) ← listener.poll
    let goesOn ← guardedRound pipe message tick
    if goesOn && !(← get).closed then
      serve pipe listener rest

------------------------------------------------------------
-- Watches
------------------------------------------------------------

/- Open a tab, and watch over it. -/
def attend
    (store : Store)
    (theme : Option String)
    (pipe : Channel)
    (listener : Listener)
    (addr : Address) : Play Unit := do
  Window.launch ⟨theme, false⟩ none
  let cookies ← store.readCookies addr
  Window.restoreCookies cookies
  let blank := (← get).pages
  Window.newTab
  match ← store.readUrl addr with
  | none => pure ()
  | some url => if url = [] then pure () else visit url
  Window.closePages blank
  let listener ← listener.attach
  let ticks := (← get).browser.ticks
  (serve pipe listener ticks).andFinally listener.detach

/- Open the active tab on a new profile, and watch over it. -/
def begin
    (store : Store)
    (theme : Option String)
    (pipe : Channel)
    (listener : Listener) : Play Unit := do
  let addr ← store.activeAddress
  Window.onProfile (attend store theme pipe listener addr)
  Play.note .info sessionLog "Browser closed"

end Watch

end Replay
