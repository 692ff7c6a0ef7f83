import Mathlib.Data.Nat.Cast.Order.Field
import Mathlib.Data.Rat.Floor
import Replay.Proofs.Number.Binary64

/-
  This file proves that the whole part of a number of 64 bits
  is found exactly, and that it is such a number again.

  Key definitions include:
    * `Binary64.rat?`
    * `wholePart`

  Main results:
    * `Binary64.exists_codeValue_floor`
    * `Binary64.truncate?_of_rat?`
    * `Binary64.exists_ofInt?_wholePart`
-/

------------------------------------------------------------
-- Whole Parts
------------------------------------------------------------

namespace Replay

namespace Number

/- A rational number without what follows its point. -/
def wholePart (r : Rat) : Int :=
  if 0 ≤ r then ⌊r⌋ else ⌈r⌉

theorem wholePart_neg (r : Rat) :
    wholePart (-r) = -wholePart r := by
  unfold wholePart
  rcases lt_trichotomy r 0 with hLess | rfl | hMore
  · rw [if_pos (by linarith), if_neg (by linarith),
      Int.floor_neg]
  · simp
  · rw [if_neg (by linarith), if_pos hMore.le, Int.ceil_neg]

/- A whole part of one or more comes from no less than it. -/
theorem one_le_of_one_le_wholePart
    {r : Rat}
    (hWhole : 1 ≤ wholePart r) :
    1 ≤ r := by
  have hCast : (1 : Rat) ≤ wholePart r := by
    exact_mod_cast hWhole
  unfold wholePart at hWhole hCast
  split at hCast
  · exact hCast.trans (Int.floor_le r)
  · rename_i hNegative
    have hCeil : ⌈r⌉ ≤ 0 :=
      Int.ceil_le.mpr (by push_cast; linarith)
    rw [if_neg hNegative] at hWhole
    omega

theorem one_le_wholePart
    {r : Rat}
    (hOne : 1 ≤ r) :
    1 ≤ wholePart r := by
  unfold wholePart
  rw [if_pos (by linarith)]
  exact Int.le_floor.mpr (by exact_mod_cast hOne)

namespace Fraction

theorem wholePart_rat (x : Fraction) :
    wholePart x.rat = x.floor := by
  rw [wholePart, if_pos x.rat_nonneg]
  calc
    ⌊(x.num : Rat) / x.den⌋ =
        ⌊((x.num : Int) : Rat) / (x.den : Rat)⌋ := by
      rw [Int.cast_natCast]
    _ = (x.num : Int) / (x.den : Int) :=
      Rat.floor_intCast_div_natCast _ _
    _ = (x.floor : Int) :=
      (Int.natCast_div x.num x.den).symm

theorem floor_le_rat (x : Fraction) :
    (x.floor : Rat) ≤ x.rat :=
  Nat.cast_div_le

end Fraction

------------------------------------------------------------
-- Whole Places
------------------------------------------------------------

namespace Binary64

/- The rational number that a finite number is. -/
def rat? : Binary64 → Option Rat
  | nan => none
  | signed negative code =>
    if code.val < infinityCode then
      let value := (codeValue code.val).rat
      some (if negative then -value else value)
    else
      none

/- Every natural number with at most 53 bits has a place. -/
theorem exists_codeValue_eq
    {n : Nat}
    (hBits : n < 2 ^ 53) :
    ∃ code, (codeValue code).rat = n := by
  by_cases hZero : n = 0
  · exact ⟨0, by rw [rat_codeValue_zero, hZero, Nat.cast_zero]⟩
  · have hLog : n.log2 < 53 := (Nat.log2_lt hZero).mpr hBits
    have hLow : 2 ^ n.log2 ≤ n := Nat.log2_self_le hZero
    have hHigh : n < 2 ^ (n.log2 + 1) := Nat.lt_log2_self
    generalize n.log2 = log at *
    have hSplit : 2 ^ log * 2 ^ (52 - log) = 2 ^ 52 := by
      rw [← pow_add]
      congr 1
      omega
    have hFirst : 2 ^ 52 ≤ n * 2 ^ (52 - log) := by
      rw [← hSplit]
      exact Nat.mul_le_mul_right _ hLow
    have hLast : n * 2 ^ (52 - log) < 2 ^ 53 := by
      have hLess :=
        Nat.mul_lt_mul_of_pos_right hHigh
          (Nat.two_pow_pos (52 - log))
      rw [pow_succ, Nat.mul_right_comm, hSplit] at hLess
      omega
    -- the digits of the number in base 2, moved to the top
    generalize hDigits : n * 2 ^ (52 - log) = digits at *
    have hBlock :
        ((1023 + log) * 2 ^ 52 + (digits - 2 ^ 52)) / 2 ^ 52 =
          1023 + log := by
      omega
    have hOffset :
        2 ^ 52 +
            ((1023 + log) * 2 ^ 52 + (digits - 2 ^ 52)) %
              2 ^ 52 =
          digits := by
      omega
    refine ⟨(1023 + log) * 2 ^ 52 + (digits - 2 ^ 52), ?_⟩
    rw [rat_codeValue_of_later (by omega), hOffset, spacing,
      hBlock, ← hDigits,
      show max (1023 + log) 1 = 1023 + log by omega,
      show (1075 : Nat) = (52 - log) + (1023 + log) by omega,
      pow_add 2 (52 - log)]
    push_cast
    field_simp

/- The values before block 1076 have at most 53 bits. -/
theorem codeValue_num_lt
    {code : Nat}
    (hBlock : code / 2 ^ 52 ≤ 1075) :
    (codeValue code).num < 2 ^ 53 := by
  have hOffset : code % 2 ^ 52 < 2 ^ 52 :=
    Nat.mod_lt _ (by decide)
  unfold codeValue
  generalize (1074 : Nat) = limit
  simp only [Nat.pow_eq, if_pos hBlock]
  split <;> dsimp only <;> omega

theorem codeValue_den_of_large
    {code : Nat}
    (hBlock : 1075 < code / 2 ^ 52) :
    (codeValue code).den = 1 := by
  have hLater : code / 2 ^ 52 ≠ 0 := by
    omega
  unfold codeValue
  generalize (1074 : Nat) = limit
  simp only [Nat.pow_eq, if_neg hLater, if_neg hBlock.not_ge]

/- The whole part of the value at a place has a place too. -/
theorem exists_codeValue_floor (code : Nat) :
    ∃ other ≤ code,
      (codeValue other).rat = (codeValue code).floor := by
  by_cases hBlock : code / 2 ^ 52 ≤ 1075
  · have hBits : (codeValue code).floor < 2 ^ 53 :=
      (Nat.div_le_self _ _).trans_lt (codeValue_num_lt hBlock)
    rcases exists_codeValue_eq hBits with ⟨other, hOther⟩
    refine ⟨other, ?_, hOther⟩
    refine strictMono_codeValue.le_iff_le.mp ?_
    change (codeValue other).rat ≤ (codeValue code).rat
    rw [hOther]
    exact (codeValue code).floor_le_rat
  · refine ⟨code, le_refl code, ?_⟩
    rw [Fraction.rat, Fraction.floor,
      codeValue_den_of_large (by omega), Nat.div_one,
      Nat.cast_one, div_one]

------------------------------------------------------------
-- Whole Numbers
------------------------------------------------------------

theorem truncate?_of_rat?
    {x : Binary64}
    {r : Rat}
    (hRat : x.rat? = some r) :
    x.truncate? = some (wholePart r) := by
  cases x with
  | nan =>
      cases hRat
  | signed negative code =>
      unfold rat? at hRat
      unfold truncate?
      dsimp only at hRat ⊢
      split at hRat
      · rename_i hFinite
        rw [if_pos hFinite, ← Option.some.inj hRat]
        cases negative <;>
          simp [wholePart_neg, Fraction.wholePart_rat]
      · cases hRat

/- The whole part of a number has 1024 bits at most. -/
theorem natAbs_lt_of_truncate?
    {x : Binary64}
    {n : Int}
    (hWhole : x.truncate? = some n) :
    n.natAbs < 2 ^ 1024 := by
  cases x with
  | nan =>
      cases hWhole
  | signed negative code =>
      unfold truncate? at hWhole
      dsimp only at hWhole
      split at hWhole
      · rename_i hFinite
        have hBelow :
            (codeValue code.val).rat < 2 ^ 1024 := by
          rw [← rat_codeValue_infinity]
          exact strictMono_codeValue hFinite
        have hFloor : (codeValue code.val).floor < 2 ^ 1024 := by
          exact_mod_cast
            (codeValue code.val).floor_le_rat.trans_lt hBelow
        have hAbs : n.natAbs = (codeValue code.val).floor := by
          rw [← Option.some.inj hWhole]
          cases negative <;> simp
        rw [hAbs]
        exact hFloor
      · cases hWhole

/- The number nearest to the value of a place is exact. -/
theorem ofInt?_of_codeValue
    {n : Int}
    {code : Nat}
    (hFinite : code < infinityCode)
    (hValue : (codeValue code).rat = n.natAbs) :
    ∃ x, ofInt? n = some x ∧ x.rat? = some (n : Rat) := by
  have hNearest : nearestCode ⟨n.natAbs, 1⟩ = code := by
    refine nearestCode_of_rat_eq Nat.one_pos hFinite.le ?_
    rw [hValue, Fraction.rat, Nat.cast_one, div_one]
  refine ⟨ofCode (n < 0) code, ?_, ?_⟩
  · unfold ofInt?
    dsimp only
    rw [hNearest, if_pos hFinite]
  · have hMin : min code infinityCode = code := by
      omega
    unfold ofCode rat?
    simp only [hMin, if_pos hFinite, hValue]
    by_cases hNegative : n < 0
    · have hAbs : ((n.natAbs : Int) : Rat) = ((-n : Int) : Rat) := by
        rw [Int.ofNat_natAbs_of_nonpos hNegative.le]
      push_cast at hAbs
      simp [hNegative, hAbs]
    · have hAbs : ((n.natAbs : Int) : Rat) = (n : Rat) := by
        rw [Int.natAbs_of_nonneg (by omega)]
      push_cast at hAbs
      simp [hNegative, hAbs]

/- The whole part of a finite number is a number exactly. -/
theorem exists_ofInt?_wholePart
    {x : Binary64}
    {r : Rat}
    (hRat : x.rat? = some r) :
    ∃ y,
      ofInt? (wholePart r) = some y ∧
        y.rat? = some (wholePart r : Rat) := by
  cases x with
  | nan =>
      cases hRat
  | signed negative code =>
      unfold rat? at hRat
      dsimp only at hRat
      split at hRat
      · rename_i hFinite
        rcases exists_codeValue_floor code.val with
          ⟨other, hOther, hValue⟩
        refine ofInt?_of_codeValue (hOther.trans_lt hFinite) ?_
        rw [hValue, ← Option.some.inj hRat]
        cases negative <;>
          simp [wholePart_neg, Fraction.wholePart_rat]
      · cases hRat

end Binary64

end Number

end Replay
