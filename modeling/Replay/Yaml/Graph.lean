import Replay.Text.CodePoint
import Replay.Yaml.Tag

/-
  This file defines graphs of nodes.

  Key definitions include:
    * `Content`
    * `Node`
    * `Graph`

  A node may be a part of many others, and even of itself.
  Parts are known by their places in the graph.
-/

------------------------------------------------------------
-- Nodes
------------------------------------------------------------

namespace Replay

namespace Yaml

open Text

/- What a node is made of. -/
inductive Content where
  | scalar (text : Text)
  | sequence (items : List Nat)
  | mapping (entries : List (Nat × Nat))
  deriving DecidableEq, Repr

/- A node with its tag. -/
structure Node where
  tag : Tag
  content : Content
  deriving DecidableEq, Repr

/- A node that is a text without characters. -/
def Node.empty : Node :=
  ⟨.null, .scalar []⟩

------------------------------------------------------------
-- Graphs
------------------------------------------------------------

/- Some nodes, by their places. -/
structure Graph where
  nodes : Array Node
  deriving Repr

namespace Graph

/- The node at a place. -/
def node
    (g : Graph)
    (place : Nat) : Node :=
  g.nodes.getD place .empty

/- Change the node at a place. -/
def set
    (g : Graph)
    (place : Nat)
    (node : Node) : Graph :=
  ⟨g.nodes.setIfInBounds place node⟩

/- Change the entries of the node at a place. -/
def setEntries
    (g : Graph)
    (place : Nat)
    (entries : List (Nat × Nat)) : Graph :=
  g.set place ⟨(g.node place).tag, .mapping entries⟩

/- The entries of the node at a place, if it is a mapping. -/
def entries?
    (g : Graph)
    (place : Nat) : Option (List (Nat × Nat)) :=
  match (g.node place).content with
  | .mapping entries => some entries
  | _ => none

/- The number of all parts of nodes. -/
def partCount (g : Graph) : Nat :=
  g.nodes.foldl
    (fun count node =>
      match node.content with
      | .scalar _ => count
      | .sequence items => count + items.length
      | .mapping entries => count + 2 * entries.length)
    0

end Graph

end Yaml

end Replay
