import Replay.Yaml.Graph.Reader
import Replay.Yaml.Graph.Value

/-
  This file defines the reading of YAML texts.

  Key definitions include:
    * `Yaml.read`

  A text is divided into tokens; these make a graph of nodes;
  and that stands for a document.
-/

------------------------------------------------------------
-- Documents
------------------------------------------------------------

namespace Replay

namespace Yaml

/- The document of a text; an empty text is null. -/
def read (text : String) : Except Refusal Document := do
  match ← Graph.ofText text with
  | (_, none) => return .scalar .null
  | (g, some root) => g.toDocument root

end Yaml

end Replay
