import Replay.Yaml.Graph
import Replay.Yaml.Refusal

/-
  This file defines merges: entries with the key `<<`, in
  whose place the entries of other mappings stand.

  Key definitions include:
    * `Merging`
    * `mergeFrom`
    * `Graph.merge`

  The entries of other mappings come before those of the
  mapping itself.  Of several others the last comes first.
-/

------------------------------------------------------------
-- Merges
------------------------------------------------------------

namespace Replay

namespace Yaml

/- A step that changes a graph. -/
abbrev Merging (α : Type) :=
  StateT Graph (Except Refusal) α

namespace Merging

/- The entries of a mapping. -/
def entriesOf (place : Nat) : Merging (List (Nat × Nat)) := do
  match (← get).entries? place with
  | some entries => return entries
  | none => throw .malformed

/- The tag of a node. -/
def tagOf (place : Nat) : Merging Tag := do
  return ((← get).node place).tag

/- The key `=` is a text where it is a key. -/
def makeText (place : Nat) : Merging Unit :=
  modify fun g =>
    g.set place ⟨.text, (g.node place).content⟩

end Merging

open Merging

/-
  Take the merges out of a mapping, from one of its entries
  on, and put in what they stand for, after what is merged
  already.  The fuel bounds the entries.
-/
def mergeFrom :
    Nat → Nat → Nat → List (Nat × Nat) → Merging Unit
  | 0, _, _, _ => throw .malformed
  | fuel + 1, place, index, merged => do
    let entries ← entriesOf place
    match entries[index]? with
    | none =>
      if !merged.isEmpty then
        modify (·.setEntries place (merged ++ entries))
    | some (key, value) =>
      match ← tagOf key with
      | .merge =>
        modify (·.setEntries place (entries.eraseIdx index))
        match ((← get).node value).content with
        | .scalar _ => throw .malformed
        | .mapping _ =>
          mergeFrom fuel value 0 []
          let more ← entriesOf value
          mergeFrom fuel place index (merged ++ more)
        | .sequence items =>
          let lists ← items.mapM fun item => do
            let _ ← entriesOf item
            mergeFrom fuel item 0 []
            entriesOf item
          mergeFrom fuel place index
            (merged ++ lists.reverse.flatten)
      | .whole =>
        makeText key
        mergeFrom fuel place (index + 1) merged
      | _ => mergeFrom fuel place (index + 1) merged

/- The graph with the merges of one mapping done. -/
def Graph.merge
    (g : Graph)
    (place : Nat) : Except Refusal Graph := do
  let size := g.nodes.size + g.partCount + 2
  return (← (mergeFrom (size * size) place 0 []).run g).2

end Yaml

end Replay
