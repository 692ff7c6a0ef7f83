import Mathlib.Data.List.Infix
import Replay.Proofs.Pattern.Crossing
import Replay.Proofs.Pattern.Reading
import Replay.Proofs.Text.CodePoint

/-
  This file proves that a plain text is an expression that
  matches wherever the text stands.

  Key definitions include:
    * `Pattern.specials`
    * `Pattern.IsPlain`
    * `Pattern.literals`
    * `Pattern.Compiled.ofPlain`

  Main results:
    * `Pattern.compile_of_isPlain`
    * `Pattern.searchIn_ofPlain`
-/

------------------------------------------------------------
-- Plain Texts
------------------------------------------------------------

namespace Replay

namespace Pattern

/- The characters that may mean more than themselves. -/
def specials : Text :=
  ['.', '^', '$', '*', '+', '?', '\x7b', '\x7d', '[', ']', '\\',
    '|', '(', ')'].map .char

/- A text without any of them. -/
def IsPlain (s : Text) : Prop :=
  ∀ c ∈ s, c ∉ specials

instance (s : Text) : Decidable (IsPlain s) :=
  List.decidableBAll _ s

theorem isPlain_cons
    {c : CodePoint}
    {s : Text} :
    IsPlain (c :: s) ↔ c ∉ specials ∧ IsPlain s :=
  List.forall_mem_cons

/- The token of a code point that stands for itself. -/
def plainToken : CodePoint → Token
  | .char c => .plain c
  | .half place => .half false place

theorem text_plainToken (c : CodePoint) :
    (plainToken c).text = [c] := by
  cases c <;> rfl

/- No backslash takes anything into its token. -/
theorem tokenize_of_isPlain
    {s : Text}
    (hPlain : IsPlain s) :
    tokenize s = s.map plainToken := by
  fun_induction tokenize s with
  | case1 =>
      rfl
  | case2 | case3 | case4 =>
      exact absurd (by decide) (isPlain_cons.mp hPlain).1
  | case5 c rest _ _ _ ih | case6 place rest ih =>
      rw [List.map_cons, ih (isPlain_cons.mp hPlain).2]
      rfl

/- The parts that match the code points one by one. -/
def literals (s : Text) : List Node :=
  s.map fun c => .literal c.code

theorem literals_cons
    (c : CodePoint)
    (s : Text) :
    literals (c :: s) = .literal c.code :: literals s :=
  rfl

------------------------------------------------------------
-- Reading
------------------------------------------------------------

namespace Reading

/- The state after all of its tokens are taken. -/
def spent
    (s : ReaderState)
    (count : Nat) : ReaderState :=
  { s with tokens := [], position := s.position + count }

/- Single characters bracket nothing. -/
theorem unwrap_literals (s : Text) :
    unwrap (literals s) = literals s := by
  rw [unwrap, literals, List.flatMap_map]
  exact List.map_eq_flatMap.symm

/- A step that succeeds, and what is done after it. -/
theorem run_bind_of_ok
    {α β : Type}
    {act : Reading α}
    {after : α → Reading β}
    {s s' : ReaderState}
    {x : α}
    (hAct : act.run s = .ok (x, s')) :
    (act >>= after).run s = (after x).run s' := by
  rw [StateT.run_bind, hAct]
  rfl

/- No last backslash comes next. -/
theorem run_checkNext_of_plain
    {state : ReaderState}
    {s : Text}
    (hTokens : state.tokens = s.map plainToken) :
    checkNext.run state = .ok ((), state) := by
  rcases state with
    ⟨tokens, position, flags, names, widths, behindFrom, asked⟩
  dsimp only at hTokens
  subst hTokens
  rcases s with _ | ⟨_ | _, s⟩
  · rfl
  · rfl
  · rfl

/- The first code point is taken, and the others are left. -/
theorem run_next_of_plain
    {state : ReaderState}
    {c : CodePoint}
    {rest : Text}
    (hTokens : state.tokens = (c :: rest).map plainToken) :
    next.run state =
      .ok (some (plainToken c),
        passed state (plainToken c) (rest.map plainToken)) := by
  rcases state with
    ⟨tokens, position, flags, names, widths, behindFrom, asked⟩
  dsimp only at hTokens
  subst hTokens
  rcases rest with _ | ⟨_ | _, rest⟩
  · rfl
  · rfl
  · rfl

/- One code point that is not special is read as itself. -/
theorem run_readSequence_cons
    (nested first : Bool)
    {c : CodePoint}
    (hPlain : c ∉ specials)
    {rest : Text}
    {state : ReaderState}
    (hTokens : state.tokens = (c :: rest).map plainToken)
    (fuel : Nat)
    (parts : List Node) :
    (readSequence nested first (fuel + 1) false parts).run state =
      (readSequence nested first fuel false
        (.literal c.code :: parts)).run
          (passed state (plainToken c) (rest.map plainToken)) := by
  have hPeek :
      peek.run state = .ok (some (plainToken c), state) :=
    congrArg (fun tokens => Except.ok (List.head? tokens, state))
      hTokens
  have hGoesOn :
      ¬((plainToken c = .plain '|' || plainToken c = .plain ')') =
        true) := by
    rintro hEnds
    cases c with
    | half place =>
        cases hEnds
    | char c =>
        simp only [plainToken, Token.plain.injEq, Bool.or_eq_true,
          decide_eq_true_eq] at hEnds
        rcases hEnds with rfl | rfl
        · exact hPlain (by decide)
        · exact hPlain (by decide)
  have hHere :
      position.run state = .ok (state.position, state) := rfl
  rw [readSequence, run_bind_of_ok hPeek]
  dsimp only
  rw [if_neg hGoesOn, run_bind_of_ok hHere,
    run_bind_of_ok (run_next_of_plain hTokens)]
  cases c with
  | half place =>
      rfl
  | char c =>
      have hStays :
          ¬((c = '*' || c = '+' || c = '?' || c = '\x7b') =
            true) := by
        simp only [Bool.or_eq_true, decide_eq_true_eq]
        rintro (((rfl | rfl) | rfl) | rfl) <;>
          exact hPlain (by decide)
      -- nothing is skipped, as the expression is not verbose
      dsimp only [plainToken]
      rw [if_neg (by simp), if_neg (by simp)]
      -- the characters that begin a part of another kind
      split
      · exact absurd (by decide) hPlain
      · exact absurd (by decide) hPlain
      · exact absurd (by decide) hPlain
      · exact absurd (by decide) hPlain
      · exact absurd (by decide) hPlain
      · rw [if_neg hStays]
        rfl

/-
  A sequence takes all characters of a plain text, each as
  itself; the induction is on the text, with any parts read
  before it.
-/
theorem run_readSequence_of_isPlain
    (nested first : Bool)
    {s : Text}
    (hPlain : IsPlain s)
    {fuel : Nat}
    (hFuel : s.length < fuel)
    (parts : List Node)
    {state : ReaderState}
    (hTokens : state.tokens = s.map plainToken) :
    (readSequence nested first fuel false parts).run state =
      .ok (unwrap (parts.reverse ++ literals s),
        spent state s.length) := by
  induction s generalizing fuel parts state with
  | nil =>
      obtain ⟨fuel, rfl⟩ := Nat.exists_eq_add_of_lt hFuel
      have hPeek : peek.run state = .ok (none, state) :=
        congrArg (fun tokens => Except.ok (List.head? tokens, state))
          hTokens
      have hSpent : spent state 0 = state := by
        rw [List.map_nil] at hTokens
        rw [spent, ← hTokens, Nat.add_zero]
      rw [readSequence, run_bind_of_ok hPeek, literals,
        List.map_nil, List.append_nil, List.length_nil, hSpent]
      rfl
  | cons c s ih =>
      obtain ⟨fuel, rfl⟩ := Nat.exists_eq_add_of_lt hFuel
      rcases isPlain_cons.mp hPlain with ⟨hFirst, hRest⟩
      have hLess : s.length < (c :: s).length + fuel := by
        rw [List.length_cons]
        omega
      have hSpent :
          spent (passed state (plainToken c) (s.map plainToken))
              s.length =
            spent state (c :: s).length := by
        simp [spent, passed, text_plainToken, Nat.add_assoc,
          Nat.add_comm 1]
      rw [run_readSequence_cons nested first hFirst hTokens,
        ih hRest hLess _ rfl, hSpent, literals_cons,
        List.reverse_cons, List.append_assoc, List.singleton_append]

/- No mark of an alternative comes after the sequence. -/
theorem run_readChoice_of_isPlain
    {s : Text}
    (hPlain : IsPlain s)
    {fuel : Nat}
    (hFuel : s.length + 1 < fuel)
    {state : ReaderState}
    (hTokens : state.tokens = s.map plainToken) :
    (readChoice false fuel false []).run state =
      .ok (literals s, spent state s.length) := by
  obtain ⟨fuel, rfl⟩ := Nat.exists_eq_add_of_lt hFuel
  have hLess : s.length < s.length + 1 + fuel := by omega
  have hBody :=
    run_readSequence_of_isPlain false true hPlain hLess [] hTokens
  rw [List.reverse_nil, List.nil_append, unwrap_literals] at hBody
  have hEnd :
      (accept '|').run (spent state s.length) =
        .ok (false, spent state s.length) := rfl
  rw [readChoice]
  refine (run_bind_of_ok hBody).trans ?_
  rw [run_bind_of_ok hEnd]
  rfl

end Reading

/- What a plain text is read as. -/
def Expression.ofPlain (s : Text) : Expression :=
  ⟨literals s, { unicode := true }, #[none]⟩

/- A plain text is read as its code points, one by one. -/
theorem readExpression_of_isPlain
    {s : Text}
    (hPlain : IsPlain s) :
    readExpression s = .ok (.ofPlain s) := by
  have hParts
      (state : ReaderState)
      (hTokens : state.tokens = s.map plainToken) :
      (do
          Reading.checkNext
          Reading.readChoice false (4 * s.length + 8) false []
            : Reading (List Node)).run state =
        .ok (literals s, Reading.spent state s.length) := by
    rw [Reading.run_bind_of_ok
      (Reading.run_checkNext_of_plain hTokens)]
    exact Reading.run_readChoice_of_isPlain hPlain (by omega) hTokens
  rw [readExpression, tokenize_of_isPlain hPlain]
  dsimp only
  rw [hParts _ rfl]
  rfl

------------------------------------------------------------
-- Checking
------------------------------------------------------------

/- Nothing is wrong with single characters. -/
theorem sequenceFault?_literals
    [Engine]
    (groups : Nat → Width)
    (template : Bool)
    (s : Text) :
    sequenceFault? groups template (literals s) = none := by
  induction s with
  | nil =>
      rfl
  | cons c s ih =>
      exact ih

/- Single characters do not look behind. -/
theorem sequenceFarthestBehind_literals
    (groups : Nat → Width)
    (s : Text) :
    sequenceFarthestBehind groups (literals s) = 0 := by
  induction s with
  | nil =>
      rfl
  | cons c s ih =>
      rw [literals_cons, sequenceFarthestBehind, ih]
      rfl

/- The checked expression of a plain text. -/
def Compiled.ofPlain (s : Text) : Compiled :=
  ⟨s, .ofPlain s⟩

/- A plain text can be searched for, in every release. -/
theorem compile_of_isPlain
    [Engine]
    {s : Text}
    (hPlain : IsPlain s) :
    compile s = .ok (.ofPlain s) := by
  have hNear
      (release : Release)
      (groups : Nat → Width) :
      release.isBeyond groups (literals s) = false := by
    rw [Release.isBeyond, sequenceFarthestBehind_literals]
    cases release <;> rfl
  rw [compile, readExpression_of_isPlain hPlain]
  simp only [bind, Except.bind, Expression.ofPlain,
    sequenceFault?_literals, hNear]
  rfl

------------------------------------------------------------
-- Matching
------------------------------------------------------------

/- The width of a plain text is not beyond its length. -/
theorem least_widthOfSequence_literals
    (groups : Nat → Width)
    (s : Text) :
    (Node.widthOfSequence groups (literals s)).least ≤
      s.length := by
  induction s with
  | nil =>
      exact Nat.le_refl 0
  | cons c s ih =>
      have hFirst :
          (Node.widthOfSequence groups (literals (c :: s))).least ≤
            1 + (Node.widthOfSequence groups (literals s)).least :=
        Nat.min_le_left _ _
      rw [List.length_cons]
      omega

/- Nor do single characters capture anything. -/
theorem isGroupless_literals (s : Text) :
    isGrouplessSequence (literals s) = true := by
  induction s with
  | nil =>
      rfl
  | cons c s ih =>
      exact ih

/- A plain text is tried at all places. -/
theorem mayBegin_literals
    (groups : Nat → Width)
    {flags : Flags}
    (hCase : flags.ignoreCase = false)
    (s : Text)
    (place : Place) :
    mayBegin (Node.widthOfSequence groups (literals s)).least flags
      (literals s) place = true := by
  apply if_pos
  cases s with
  | nil =>
      exact Or.inl rfl
  | cons c s =>
      have hBegins :
          beginsPlainly flags (.literal c.code) = (true, true) := by
        simp [beginsPlainly, isPlainLiteral, hCase]
      right
      rw [literals, List.map_cons, sequenceBeginsPlainly, hBegins]
      rfl

/- A code point matches itself and no other one. -/
theorem matchesUnit_literal
    {flags : Flags}
    (hCase : flags.ignoreCase = false)
    (c d : CodePoint) :
    matchesUnit flags (.literal c.code) d = true ↔ c = d := by
  have hSame : d.code = c.code ↔ c = d :=
    CodePoint.code_injective.eq_iff.trans eq_comm
  simp only [matchesUnit, matchesLiteral, hCase, Bool.false_and,
    Bool.false_eq_true, if_false, beq_iff_eq, hSame]

/- A plain text matches where what comes next begins with it. -/
theorem matchSequence_literals
    {context : Context}
    (hCase : context.flags.ignoreCase = false)
    (s : Text)
    (spot : Spot) :
    (matchSequence context (literals s) spot Spot.hit).found =
        true ↔
      s <+: spot.here.after := by
  induction s generalizing spot with
  | nil =>
      rw [literals, List.map_nil, matchSequence]
      exact iff_of_true rfl List.nil_prefix
  | cons c s ih =>
      rw [literals_cons, matchSequence, matchNode, matchOne]
      rcases hAfter : spot.here.after with _ | ⟨d, rest⟩
      · simp [Place.step, hAfter, Spot.miss]
      · have hFirst :
            matchesUnit (context.before (literals s)).flags
                (.literal c.code) d = true ↔
              c = d :=
          matchesUnit_literal hCase c d
        simp only [Place.step, Place.faces, hAfter]
        rw [List.cons_prefix_cons]
        by_cases hSame : c = d
        · rw [if_pos (hFirst.mpr hSame), ih, and_iff_right hSame]
          rfl
        · rw [if_neg (hFirst.not.mpr hSame)]
          simp [Spot.miss, hSame]

/- What comes of trying a plain text at a place. -/
theorem searchAt_literals
    (groups : Nat → Width)
    {flags : Flags}
    (hCase : flags.ignoreCase = false)
    (s : Text)
    (place : Place) :
    searchAt groups flags (literals s) place =
      if s <+: place.after then .present else .absent := by
  have hFound :
      (matchSequence ⟨groups, flags, false, .other⟩ (literals s)
          (.first place) Spot.hit).found =
          true ↔
        s <+: place.after :=
    matchSequence_literals hCase s (.first place)
  have hBare :
      (matchSequence ⟨groups, flags, false, .other⟩ (literals s)
        (.first place) Spot.hit).captures = [] :=
    matchSequence_bare _ _ (isGroupless_literals s) rfl hit_bare
  rw [searchAt, if_pos (mayBegin_literals groups hCase s place),
    Outcome.finding, hBare]
  by_cases hPrefix : s <+: place.after
  · rw [if_pos hPrefix, hFound.mpr hPrefix]
    rfl
  · have hMissed := Bool.eq_false_iff.mpr (hFound.not.mpr hPrefix)
    rw [if_neg hPrefix, hMissed]
    rfl

/-
  The text stands at this place or somewhere behind it; the
  induction is on what is left to search.
-/
theorem searchFrom_literals
    (groups : Nat → Width)
    {flags : Flags}
    (hCase : flags.ignoreCase = false)
    (s before after : Text)
    (position : Nat) :
    searchFrom groups flags (literals s) before after position =
      if s <:+: after then .present else .absent := by
  induction after generalizing before position with
  | nil =>
      rw [searchFrom, searchAt_literals groups hCase]
      simp only [List.prefix_nil, List.infix_nil]
  | cons c rest ih =>
      rw [searchFrom, searchAt_literals groups hCase, ih]
      dsimp only
      by_cases hPrefix : s <+: c :: rest
      · rw [if_pos hPrefix, if_pos hPrefix.isInfix]
      · have hLater : s <:+: c :: rest ↔ s <:+: rest := by
          rw [List.infix_cons_iff, or_iff_right hPrefix]
        rw [if_neg hPrefix]
        simp only [hLater]

/- A search for a plain text finds it wherever it stands. -/
theorem searchIn_ofPlain (s text : Text) :
    (Compiled.ofPlain s).searchIn text =
      if s <:+: text then .present else .absent := by
  have hLeast :=
    least_widthOfSequence_literals (Reading.widthOf #[none]) s
  rw [Compiled.searchIn]
  change search _ _ (literals s) text = _
  rw [search]
  split
  · -- a text that stands in another one is not longer
    rename_i hShort
    rw [if_neg]
    intro hInfix
    have hLength := hInfix.length_le
    exact absurd (hShort.trans_le hLeast) (Nat.not_lt.mpr hLength)
  · exact searchFrom_literals _ rfl _ _ _ _

end Pattern

end Replay
