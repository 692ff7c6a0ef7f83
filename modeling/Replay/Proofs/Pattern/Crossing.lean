import Replay.Pattern

/-
  This file proves that no search goes wrong for expressions
  without groups that capture: only such a group can be closed
  before the place where it was opened.

  Key definitions include:
    * `Pattern.StaysBare`
    * `Pattern.Node.isGroupless`
    * `Pattern.isGrouplessSequence`

  Main results:
    * `Pattern.matchSequence_bare`
    * `Pattern.search_ne_crossed`
-/

------------------------------------------------------------
-- Tries without Captures
------------------------------------------------------------

namespace Replay

namespace Pattern

/- What follows captures nothing where nothing was captured. -/
def StaysBare (next : Next) : Prop :=
  ∀ spot, spot.captures = [] → (next spot).captures = []

/- A round captures nothing if what follows it does not. -/
def RoundStaysBare (round : Round) : Prop :=
  ∀ spot next,
    spot.captures = [] → StaysBare next →
      (round spot next).captures = []

/- Success adds no captures. -/
theorem hit_bare : StaysBare Spot.hit :=
  fun _ hSpot => hSpot

/- Going back moves the bookmark and leaves the captures. -/
theorem captures_orBackTo
    (outcome : Outcome)
    (place : Place) :
    (outcome.orBackTo place).captures = outcome.captures := by
  unfold Outcome.orBackTo
  split <;> rfl

/- Either way of undoing gives nothing back from nothing. -/
theorem undo_bare
    (inRounds : Bool)
    {before now : Captures}
    (hBefore : before = [])
    (hNow : now = []) :
    Captures.undo inRounds before now = [] := by
  subst hBefore hNow
  cases inRounds <;> rfl

/- One character is matched without any capture. -/
theorem matchOne_bare
    (p : CodePoint → Bool)
    {spot : Spot}
    {next : Next}
    (hSpot : spot.captures = [])
    (hNext : StaysBare next) :
    (matchOne p spot next).captures = [] := by
  unfold matchOne
  split
  · exact hSpot
  · split
    · exact hNext _ hSpot
    · exact hSpot

------------------------------------------------------------
-- Repetitions
------------------------------------------------------------

section

variable {round : Round}
variable {next : Next}

/- Greedy rounds try one more round before what follows. -/
theorem greedyRounds_bare
    (hRound : RoundStaysBare round)
    (hNext : StaysBare next)
    (least : Nat)
    (most : Option Nat)
    (fuel count : Nat)
    (last : Option Nat) :
    StaysBare (greedyRounds round least most next fuel count last) := by
  induction fuel generalizing count last with
  | zero =>
      exact fun _ hSpot => hSpot
  | succ fuel ih =>
      intro spot hSpot
      unfold greedyRounds
      dsimp only
      split
      · rw [captures_orBackTo]
        exact hRound _ _ hSpot (ih _ _)
      · split
        · split
          · exact hRound _ _ hSpot (ih _ _)
          · rw [captures_orBackTo]
            exact hNext _ hSpot
        · rw [captures_orBackTo]
          exact hNext _ hSpot

/- Lazy rounds try what follows first, and undo it. -/
theorem lazyRounds_bare
    (inRounds : Bool)
    (hRound : RoundStaysBare round)
    (hNext : StaysBare next)
    (least : Nat)
    (most : Option Nat)
    (fuel count : Nat)
    (last : Option Nat) :
    StaysBare
      (lazyRounds inRounds round least most next fuel count
        last) := by
  induction fuel generalizing count last with
  | zero =>
      exact fun _ hSpot => hSpot
  | succ fuel ih =>
      intro spot hSpot
      have hUndone :
          Captures.undo inRounds spot.captures
            (next spot.marked).captures = [] :=
        undo_bare inRounds hSpot (hNext _ hSpot)
      unfold lazyRounds
      dsimp only
      split
      · rw [captures_orBackTo]
        exact hRound _ _ hSpot (ih _ _)
      · split
        · exact hNext _ hSpot
        · split
          · rw [captures_orBackTo]
            exact hRound _ _ hUndone (ih _ _)
          · exact hUndone

/- Possessive rounds end before what follows begins. -/
theorem possessiveRounds_bare
    (hRound : RoundStaysBare round)
    (hNext : StaysBare next)
    (least : Nat)
    (most : Option Nat)
    (start : Place)
    (fuel count : Nat)
    (last : Option Nat) :
    StaysBare
      (possessiveRounds round least most start next fuel count
        last) := by
  induction fuel generalizing count last with
  | zero =>
      exact fun _ hSpot => hSpot
  | succ fuel ih =>
      intro spot hSpot
      have hOutcome : (round spot.marked Spot.hit).captures = [] :=
        hRound _ _ hSpot hit_bare
      unfold possessiveRounds
      dsimp only
      split
      · split
        · exact ih _ _ _ hOutcome
        · rw [captures_orBackTo]
          exact hOutcome
      · split
        · split
          · exact ih _ _ _ hOutcome
          · exact hNext _ hSpot
        · exact hNext _ hSpot

/- Rounds of every greed are bare if the body is. -/
theorem repeatRounds_bare
    (inRounds : Bool)
    (greed : Greed)
    (least : Nat)
    (most : Option Nat)
    (hRound : RoundStaysBare round)
    (hNext : StaysBare next)
    {spot : Spot}
    (hSpot : spot.captures = []) :
    (repeatRounds inRounds round greed least most spot
      next).captures = [] := by
  unfold repeatRounds
  cases greed with
  | greedy =>
      exact greedyRounds_bare hRound hNext _ _ _ _ _ _ hSpot
  | lazy =>
      exact lazyRounds_bare _ hRound hNext _ _ _ _ _ _ hSpot
  | possessive =>
      exact possessiveRounds_bare hRound hNext _ _ _ _ _ _ _ hSpot

/- Each place is tried with the captures of before. -/
theorem tryPlaces_bare
    (inRounds : Bool)
    {before : Captures}
    (hBefore : before = [])
    (hNext : StaysBare next)
    (places : List Place) :
    StaysBare (tryPlaces inRounds before next places) := by
  induction places with
  | nil =>
      exact fun _ hSpot => hSpot
  | cons place rest ih =>
      intro spot hSpot
      have hOutcome : (next (spot.moved place).marked).captures = [] :=
        hNext _ hSpot
      unfold tryPlaces
      dsimp only
      split
      · exact hOutcome
      · exact ih _ (undo_bare inRounds hBefore hOutcome)

/- A single character is repeated by trying places. -/
theorem repeatUnit_bare
    (inRounds tracked : Bool)
    (ahead : Beginning)
    (p : CodePoint → Bool)
    (greed : Greed)
    (least : Nat)
    (most : Option Nat)
    (hNext : StaysBare next)
    {spot : Spot}
    (hSpot : spot.captures = []) :
    (repeatUnit inRounds tracked ahead p greed least most spot
      next).captures = [] := by
  unfold repeatUnit
  split
  · exact hSpot
  · cases greed with
    | greedy =>
        exact tryPlaces_bare inRounds hSpot hNext _ _ hSpot
    | lazy =>
        dsimp only
        split
        · exact hSpot
        · rw [captures_orBackTo]
          exact tryPlaces_bare inRounds hSpot hNext _ _ hSpot
    | possessive =>
        dsimp only
        split
        · exact hSpot
        · exact hNext _ hSpot

end

------------------------------------------------------------
-- Parts
------------------------------------------------------------

mutual

/- Does the part hold no group that captures? -/
def Node.isGroupless : Node → Bool
  | .choice alternatives => areGroupless alternatives
  | .repeated _ _ _ body => isGrouplessSequence body
  | .group index _ _ body =>
    index.isNone && isGrouplessSequence body
  | .atomic body => isGrouplessSequence body
  | .look _ _ body => isGrouplessSequence body
  | .conditional _ yes none => isGrouplessSequence yes
  | .conditional _ yes (some no) =>
    isGrouplessSequence yes && isGrouplessSequence no
  | _ => true

/- Do the parts of a sequence hold none? -/
def isGrouplessSequence : List Node → Bool
  | [] => true
  | node :: rest => node.isGroupless && isGrouplessSequence rest

/- Do alternatives hold none? -/
def areGroupless : List (List Node) → Bool
  | [] => true
  | body :: rest => isGrouplessSequence body && areGroupless rest

end

mutual

/-
  A part without capturing groups captures nothing, by
  induction on the syntax together with sequences and
  choices.
-/
theorem matchNode_bare
    (context : Context)
    (node : Node)
    (hNode : node.isGroupless = true)
    {spot : Spot}
    {next : Next}
    (hSpot : spot.captures = [])
    (hNext : StaysBare next) :
    (matchNode context node spot next).captures = [] := by
  match node with
  | .literal _ | .notLiteral _ | .anything | .oneOf _ _ =>
      rw [matchNode]
      exact matchOne_bare _ hSpot hNext
  | .anchor anchor =>
      rw [matchNode]
      split
      · exact hNext _ hSpot
      · exact hSpot
  | .choice alternatives =>
      rw [matchNode]
      exact matchChoice_bare context.closed alternatives hNode
        hSpot hSpot hNext
  | .repeated greed least most body =>
      rw [matchNode]
      split
      · exact repeatUnit_bare _ _ _ _ _ _ _ hNext hSpot
      · exact repeatRounds_bare _ _ _ _
          (fun _ _ hInner hAfter =>
            matchSequence_bare _ body hNode hInner hAfter)
          hNext hSpot
  | .group none added removed body =>
      rw [matchNode]
      exact matchSequence_bare _ body hNode hSpot hNext
  | .group (some index) added removed body =>
      cases hNode
  | .atomic body =>
      have hOutcome :
          (matchSequence context.closed body spot.marked
            Spot.hit).captures = [] :=
        matchSequence_bare _ body hNode hSpot hit_bare
      rw [matchNode]
      split
      · exact hNext _ hOutcome
      · rw [captures_orBackTo]
        exact hOutcome
  | .look behind negative body =>
      have hOutcome
          (start : Place) :
          (matchSequence context.closed body
            (spot.moved start).marked Spot.hit).captures = [] :=
        matchSequence_bare _ body hNode hSpot hit_bare
      rw [matchNode.eq_def]
      dsimp only
      split
      · exact hSpot
      · exact hNext _ hSpot
      · split
        · exact hNext _ (hOutcome _)
        · exact hOutcome _
      · split
        · exact hOutcome _
        · exact hNext _ (undo_bare _ hSpot (hOutcome _))
  | .reference index =>
      rw [matchNode]
      split
      · exact hSpot
      · exact hNext _ hSpot
  | .conditional index yes none =>
      rw [matchNode]
      split
      · exact matchSequence_bare _ yes hNode hSpot hNext
      · exact hNext _ hSpot
  | .conditional index yes (some no) =>
      have hBoth := Bool.and_eq_true_iff.mp hNode
      rw [matchNode]
      split
      · exact matchSequence_bare _ yes hBoth.1 hSpot hNext
      · exact matchSequence_bare _ no hBoth.2 hSpot hNext

/- In a sequence, the rest of the parts is what follows. -/
theorem matchSequence_bare
    (context : Context)
    (parts : List Node)
    (hParts : isGrouplessSequence parts = true)
    {spot : Spot}
    {next : Next}
    (hSpot : spot.captures = [])
    (hNext : StaysBare next) :
    (matchSequence context parts spot next).captures = [] := by
  match parts with
  | [] =>
      rw [matchSequence]
      exact hNext _ hSpot
  | node :: rest =>
      have hBoth := Bool.and_eq_true_iff.mp hParts
      rw [matchSequence]
      exact matchNode_bare _ node hBoth.1 hSpot fun _ hInner =>
        matchSequence_bare context rest hBoth.2 hInner hNext

/- In a choice, a failed alternative leaves nothing behind. -/
theorem matchChoice_bare
    (context : Context)
    (alternatives : List (List Node))
    (hAlternatives : areGroupless alternatives = true)
    {before : Captures}
    (hBefore : before = [])
    {spot : Spot}
    {next : Next}
    (hSpot : spot.captures = [])
    (hNext : StaysBare next) :
    (matchChoice context alternatives before spot
      next).captures = [] := by
  match alternatives with
  | [] =>
      rw [matchChoice]
      exact hSpot
  | body :: rest =>
      have hBoth := Bool.and_eq_true_iff.mp hAlternatives
      rw [matchChoice]
      split
      · have hOutcome :
            (matchSequence context body spot.marked
              next).captures = [] :=
          matchSequence_bare context body hBoth.1 hSpot hNext
        dsimp only
        split
        · exact hOutcome
        · exact matchChoice_bare context rest hBoth.2 hBefore
            (undo_bare _ hBefore hOutcome) hNext
      · exact matchChoice_bare context rest hBoth.2 hBefore hSpot
          hNext

end

------------------------------------------------------------
-- Searches
------------------------------------------------------------

/- Where nothing is captured, nothing crosses. -/
theorem searchAt_ne_crossed
    (groups : Nat → Width)
    (flags : Flags)
    {parts : List Node}
    (hParts : isGrouplessSequence parts = true)
    (place : Place) :
    searchAt groups flags parts place ≠ .crossed := by
  have hBare :
      (matchSequence ⟨groups, flags, false, .other⟩ parts
        (.first place) Spot.hit).captures = [] :=
    matchSequence_bare _ parts hParts rfl hit_bare
  unfold searchAt
  dsimp only
  split
  · unfold Outcome.finding
    rw [hBare]
    split
    · exact fun hSame => by cases hSame
    · exact fun hSame => by cases hSame
  · exact fun hSame => by cases hSame

/- A search without groups that capture does not go wrong. -/
theorem search_ne_crossed
    (groups : Nat → Width)
    (flags : Flags)
    {parts : List Node}
    (hParts : isGrouplessSequence parts = true)
    (text : Text) :
    search groups flags parts text ≠ .crossed := by
  have hFrom
      (before after : Text)
      (position : Nat) :
      searchFrom groups flags parts before after position ≠
        .crossed := by
    induction after generalizing before position with
    | nil =>
        exact searchAt_ne_crossed groups flags hParts _
    | cons c rest ih =>
        rw [searchFrom]
        split
        · exact ih _ _
        · exact searchAt_ne_crossed groups flags hParts _
  unfold search
  dsimp only
  split
  · exact fun hSame => by cases hSame
  · exact hFrom [] text 0

end Pattern

end Replay
