import Replay.Configuration
import Replay.FileTree
import Replay.Jar.Netscape
import Replay.Settings
import Replay.Yaml.Refusal

/-
  This file defines everything that can go wrong.

  Key definitions include:
    * `Failure`
    * `Failure.message`
    * `Failure.outline`
    * `Failure.isOwn`
    * `Failure.isBrowser`

  A failure of its own kind, or one of the browser, is a
  result of a step; any other one ends a run.
-/

------------------------------------------------------------
-- Failures
------------------------------------------------------------

namespace Replay

open Number Text

/- What went wrong. -/
inductive Failure where
  | configuration (fault : Configuration.Fault)
  | unparsed (path : String) (fault : Option Json.Fault)
  | unknownScenario (scenario : Text)
  | unknownStep (step scenario : Text)
  | settings (fault : Settings.Fault)
  | jar (fault : Jar.Fault)
  | noElement (xpath : Text) (scope : Option Text)
  | noAttribute (name xpath : Text)
  | noText (xpath : Text)
  | mismatch (subject actual expected : Text)
  | crossedGroup
  | browser (message : Text)
  | timeout (message : Text)
  | runtime (message : Text)
  | rejected (rejection : Rejection)
  | files (fault : FileTree.Fault)
  | undecodable (failure : Utf8.Failure)
  | unencodable (text : Text)
  | integer (fault : IntegerFault)
  | noValue (fault : Yaml.ValueFault)
  | unwritable (fault : Jar.WriteFault)
  | unknownLevel (name : String)
  deriving DecidableEq, Repr

namespace Failure

/- The wording of a failure. -/
def message : Failure → Text
  | configuration fault => fault.message
  | unparsed path none => "Could not parse " ++ path
  | unparsed path (some fault) =>
    "Could not parse " ++ path ++ ": " ++ fault.message
  | unknownScenario scenario =>
    "Scenario \"" ++ scenario ++ "\" not found in config."
  | unknownStep step scenario =>
    "Step \"" ++ step ++ "\" referenced by scenario \"" ++
      scenario ++ "\" not found in config."
  | settings fault => fault.message
  | jar fault => fault.message
  | noElement xpath none =>
    "No element found at \"" ++ xpath ++ "\""
  | noElement xpath (some scope) =>
    "No element found at \"" ++ xpath ++ "\" inside " ++
      quote scope
  | noAttribute name xpath =>
    "Attribute \"" ++ name ++
      "\" not found for element at \"" ++ xpath ++ "\""
  | noText xpath =>
    "Text content not found for element at \"" ++ xpath ++ "\""
  | mismatch subject actual expected =>
    "Expected " ++ subject ++ " \"" ++ actual ++
      "\" to match \"" ++ expected ++ "\""
  | crossedGroup =>
    "The span of capturing group is wrong, please report a " ++
      "bug for the re module."
  | browser message => message
  | timeout message => message
  | runtime message => message
  | rejected rejection => rejection.message
  | files fault => fault.message
  | undecodable failure => failure.message
  | unencodable text => Utf8.refusal text
  | integer fault => fault.message
  | noValue fault => fault.message
  | unwritable fault => fault.message
  | unknownLevel name => "Unknown level: " ++ quote name

/- The wording of a failure in a log. -/
def outline : Failure → Text
  | jar fault => fault.outline
  | other => other.message

/- Is it a failure that the program itself finds? -/
def isOwn : Failure → Bool
  | configuration _ => true
  | unparsed _ _ => true
  | unknownScenario _ => true
  | unknownStep _ _ => true
  | settings _ => true
  | jar _ => true
  | noElement _ _ => true
  | noAttribute _ _ => true
  | noText _ => true
  | mismatch _ _ _ => true
  | _ => false

/- Is it a failure that the browser reports? -/
def isBrowser : Failure → Bool
  | browser _ => true
  | timeout _ => true
  | _ => false

/- A document that is no configuration. -/
def ofConfiguration : Configuration.Refusal → Failure
  | .malformed fault => configuration fault
  | .rejected rejection => rejected rejection

/- A text that is no jar. -/
def ofJar : Jar.Refusal → Failure
  | .malformed fault => jar fault
  | .tooManyDigits count => integer (.tooManyDigits count)
  | .rejected rejection => rejected rejection

end Failure

end Replay
