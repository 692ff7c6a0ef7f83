import Replay.Text.Blank
import Replay.World

/-
  This file defines the clock: a number in a file of the
  state, which the page's server reads too.

  Key definitions include:
    * `Clock.read`
    * `Clock.advance`
-/

------------------------------------------------------------
-- Clock
------------------------------------------------------------

namespace Replay

namespace Clock

open Number Text

/- The file of the clock. -/
def file (state : Path) : Path :=
  state.child "now.txt"

/- The time. -/
def read (state : Path) : Play Int := do
  match readInteger (trim (← Play.readText (file state))) with
  | .ok n => return n
  | .error fault => throw (.integer fault)

/- Move the time; the new one is what comes out. -/
def advance
    (state : Path)
    (delta : Int) : Play Int := do
  let time := (← read state) + delta
  match writeInteger time with
  | .ok text => Play.writeText (file state) text
  | .error fault => throw (.integer fault)
  Play.note .info "netero.executor.clock"
    ("Clock advanced by " ++ intText delta ++ " to " ++
      intText time)
  return time

end Clock

end Replay
