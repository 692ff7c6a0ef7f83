import Replay.World
import Replay.Yaml

/-
  This file defines the reading of configurations from files.

  Key definitions include:
    * `Configuration.isYaml`
    * `Configuration.load`

  The extension of a file tells its language: YAML, or JSON
  for any other extension.
-/

------------------------------------------------------------
-- Languages
------------------------------------------------------------

namespace Replay

namespace Configuration

/- Does the extension of a path stand for YAML, in any case? -/
def isYaml (path : String) : Bool :=
  let extension := (Path.extension path).map Char.toLower
  extension == ".yaml".toList || extension == ".yml".toList

/- The document of a JSON text. -/
def parseJson (path text : String) : Play Document :=
  match Json.read text with
  | .ok d => pure d
  | .error (.malformed fault) => throw (.unparsed path (some fault))
  | .error (.tooManyDigits count) =>
    throw (.integer (.tooManyDigits count))

/- The document of a YAML text. -/
def parseYaml (path text : String) : Play Document :=
  match Yaml.read text with
  | .ok d => pure d
  | .error .malformed => throw (.unparsed path none)
  | .error (.noValue fault) => throw (.noValue fault)

------------------------------------------------------------
-- Files
------------------------------------------------------------

/- The text of a file by the path that is written. -/
def readFile (path : String) : Play String :=
  if path = "" then throw (.files .missing)
  else Play.readText (.verbatim path)

/-
  The document in a file.  A YAML file is read in pieces.
-/
def readDocument (path : String) : Play Document := do
  if isYaml path then
    try parseYaml path (← readFile path)
    catch
      | .undecodable failure => throw (.undecodable failure.inPieces)
      | failure => throw failure
  else
    parseJson path (← readFile path)

/- The configuration in a file. -/
def load
    [Pattern.Engine]
    (path : String) : Play Configuration := do
  match ofDocument (← readDocument path) with
  | .ok config => return config
  | .error refusal => throw (.ofConfiguration refusal)

end Configuration

end Replay
