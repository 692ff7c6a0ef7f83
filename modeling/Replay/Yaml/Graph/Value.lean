import Replay.Yaml.Graph.Merge
import Replay.Yaml.Scalar.Value

/-
  This file defines the value of a graph: the document that
  its first node stands for.

  Key definitions include:
    * `Part`
    * `Evaluation`
    * `evaluate`
    * `Graph.toDocument`

  Nodes get their values generation by generation: the parts
  of all collections of one generation come before the parts
  of their own parts.  A node that is a part of itself is
  followed a few times.
-/

------------------------------------------------------------
-- Parts
------------------------------------------------------------

namespace Replay

namespace Yaml

open Text

/-
  What a node stands for, where other nodes are known by their
  places.
-/
inductive Part where
  | scalar (value : Scalar)
  | sequence (items : List Nat)
  | mapping (entries : List (Scalar × Nat))
  | pairs (entries : List (Nat × Nat))
  | members (items : List Scalar)
  deriving Repr

/-
  A graph with what its nodes stand for, as far as it is
  known, and the collections whose parts are not, the last
  one first.
-/
structure Evaluation where
  graph : Graph
  parts : Array (Option Part)
  waiting : List Nat

/- A step that finds values. -/
abbrev Evaluating (α : Type) :=
  StateT Evaluation (Except Refusal) α

namespace Evaluating

/- Refuse the text. -/
def refuse {α : Type} : Evaluating α :=
  throw .malformed

/- The node at a place. -/
def nodeAt (place : Nat) : Evaluating Node := do
  return (← get).graph.node place

/- What the node at a place stands for, if it is known. -/
def part? (place : Nat) : Evaluating (Option Part) := do
  return (← get).parts.getD place none

/- Settle what the node at a place stands for. -/
def settle
    (place : Nat)
    (part : Part) : Evaluating Unit :=
  modify fun s =>
    { s with parts := s.parts.setIfInBounds place (some part) }

/- Leave the parts of a collection for later. -/
def postpone (place : Nat) : Evaluating Unit :=
  modify fun s => { s with waiting := place :: s.waiting }

end Evaluating

open Evaluating

------------------------------------------------------------
-- Scalars
------------------------------------------------------------

/-
  The text of a scalar.  That of a mapping is the one under
  its key `=`.
-/
def scalarText? (g : Graph) :
    Nat → Nat → Option Text
  | 0, _ => none
  | fuel + 1, place =>
    match (g.node place).content with
    | .scalar text => some text
    | .sequence _ => none
    | .mapping entries =>
      match entries.find? fun e => (g.node e.1).tag == .whole with
      | some (_, value) => scalarText? g fuel value
      | none => none

/- What a scalar stands for. -/
def scalarPart
    (tag : Tag)
    (place : Nat) : Evaluating Part := do
  let g := (← get).graph
  match scalarText? g (g.nodes.size + 1) place with
  | none => refuse
  | some text =>
    match scalarValue tag text with
    | .ok value => return .scalar value
    | .error refusal => throw refusal

/- Visit a node; a collection is left for later. -/
def visit (place : Nat) : Evaluating Unit := do
  if (← part? place).isSome then return
  match (← nodeAt place).tag with
  | .sequence =>
    settle place (.sequence [])
    postpone place
  | .mapping =>
    settle place (.mapping [])
    postpone place
  | .members =>
    settle place (.members [])
    postpone place
  | .orderedPairs =>
    settle place (.pairs [])
    postpone place
  | .pairs =>
    settle place (.pairs [])
    postpone place
  | tag => settle place (← scalarPart tag place)

------------------------------------------------------------
-- Collections
------------------------------------------------------------

/- A key, which is a scalar. -/
def visitKey (place : Nat) : Evaluating Scalar := do
  visit place
  match ← part? place with
  | some (.scalar value) => return value
  | _ => refuse

/- The items of a sequence. -/
def itemsOf (place : Nat) : Evaluating (List Nat) := do
  match (← nodeAt place).content with
  | .sequence items => return items
  | _ => refuse

/- The entries of a mapping, with its merges done. -/
def mergedEntries
    (place : Nat) : Evaluating (List (Nat × Nat)) := do
  let s ← get
  match s.graph.merge place with
  | .error refusal => throw refusal
  | .ok graph =>
    set { s with graph }
    return (graph.entries? place).getD []

/- The entries of a mapping, with keys that are values. -/
def entriesFrom
    (place : Nat) : Evaluating (List (Scalar × Nat)) := do
  (← mergedEntries place).foldlM
    (fun entries (key, value) => do
      let key ← visitKey key
      visit value
      return Document.put entries key value)
    []

/- The one entry of a mapping. -/
def singleEntry (place : Nat) : Evaluating (Nat × Nat) := do
  match (← nodeAt place).content with
  | .mapping [(key, value)] =>
    visit key
    visit value
    return (key, value)
  | _ => refuse

/- Find the parts of a collection. -/
def complete (place : Nat) : Evaluating Unit := do
  match (← nodeAt place).tag with
  | .sequence =>
    let items ← itemsOf place
    items.forM visit
    settle place (.sequence items)
  | .mapping => settle place (.mapping (← entriesFrom place))
  | .members =>
    let entries ← entriesFrom place
    settle place (.members (entries.map (·.1)))
  | _ =>
    let items ← itemsOf place
    settle place (.pairs (← items.mapM singleEntry))

/-
  Find the parts of all collections that wait.  The fuel
  bounds the generations.
-/
def completeAll : Nat → Evaluating Unit
  | 0 => pure ()
  | fuel + 1 => do
    let s ← get
    if s.waiting.isEmpty then
      return
    set { s with waiting := [] }
    s.waiting.reverse.forM complete
    completeAll fuel

/- What the nodes of a graph stand for, from one of them on. -/
def evaluate
    (g : Graph)
    (root : Nat) : Except Refusal (Array (Option Part)) := do
  let count := g.nodes.size
  let start : Evaluation :=
    { graph := g
      parts := Array.replicate count none
      waiting := [] }
  let steps : Evaluating Unit := do
    visit root
    completeAll (count + 1)
  return (← steps.run start).2.parts

------------------------------------------------------------
-- Documents
------------------------------------------------------------

/- How often a node is followed within itself. -/
def cycleLimit : Nat := 8

/-
  The document of a node, below the nodes of a path.  The fuel
  bounds the length of the path.
-/
def unfold
    (parts : Array (Option Part)) :
    Nat → List Nat → Nat → Document
  | 0, _, _ => .scalar .null
  | fuel + 1, path, place =>
    let below := unfold parts fuel (place :: path)
    if cycleLimit ≤ path.count place then
      .scalar .null
    else
      match parts.getD place none with
      | none => .scalar .null
      | some (.scalar value) => .scalar value
      | some (.sequence items) => .sequence (items.map below)
      | some (.mapping entries) =>
        .mapping (entries.map fun (key, value) => (key, below value))
      | some (.pairs entries) =>
        .sequence
          (entries.map fun (key, value) =>
            .pair (below key) (below value))
      | some (.members items) => .members items

/- The document of a graph, from one of its nodes on. -/
def Graph.toDocument
    (g : Graph)
    (root : Nat) : Except Refusal Document := do
  let parts ← evaluate g root
  return unfold parts (cycleLimit * g.nodes.size + 1) [] root

end Yaml

end Replay
