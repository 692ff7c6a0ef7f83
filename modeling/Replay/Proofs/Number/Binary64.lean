import Mathlib.Algebra.Order.Field.Basic
import Mathlib.Algebra.Order.Ring.Rat
import Mathlib.Order.Monotone.Basic
import Mathlib.Tactic.FieldSimp
import Mathlib.Tactic.Linarith
import Mathlib.Tactic.Positivity
import Mathlib.Tactic.Ring
import Replay.Number.Binary64

/-
  This file proves that rounding a fraction to a number of 64
  bits depends on its value alone, and leaves a value that
  such a number has as it is.

  Key definitions include:
    * `Fraction.rat`
    * `Binary64.spacing`
    * `Binary64.overflowLimit`

  Main results:
    * `Binary64.strictMono_codeValue`
    * `Binary64.lastAtMost_eq`
    * `Binary64.nearestCode_congr`
    * `Binary64.nearestCode_of_rat_eq`
    * `Binary64.nearestCode_lt_infinity_iff`
    * `Binary64.ofInt?_eq_none_iff`
-/

------------------------------------------------------------
-- Values of Fractions
------------------------------------------------------------

namespace Replay

namespace Number

namespace Fraction

/- The rational number a fraction stands for. -/
def rat (x : Fraction) : Rat :=
  (x.num : Rat) / x.den

theorem rat_nonneg (x : Fraction) :
    0 ≤ x.rat := by
  unfold rat
  positivity

theorem le_iff_rat_le
    {a b : Fraction}
    (hA : 0 < a.den)
    (hB : 0 < b.den) :
    a.le b = true ↔ a.rat ≤ b.rat := by
  have hA' : (0 : Rat) < a.den := by exact_mod_cast hA
  have hB' : (0 : Rat) < b.den := by exact_mod_cast hB
  rw [le, decide_eq_true_iff, rat, rat, div_le_div_iff₀ hA' hB']
  exact_mod_cast Iff.rfl

theorem lt_iff_rat_lt
    {a b : Fraction}
    (hA : 0 < a.den)
    (hB : 0 < b.den) :
    a.lt b = true ↔ a.rat < b.rat := by
  have hA' : (0 : Rat) < a.den := by exact_mod_cast hA
  have hB' : (0 : Rat) < b.den := by exact_mod_cast hB
  rw [lt, decide_eq_true_iff, rat, rat, div_lt_div_iff₀ hA' hB']
  exact_mod_cast Iff.rfl

theorem halfway_den_pos
    {a b : Fraction}
    (hA : 0 < a.den)
    (hB : 0 < b.den) :
    0 < (halfway a b).den := by
  unfold halfway
  positivity

theorem rat_halfway
    {a b : Fraction}
    (hA : 0 < a.den)
    (hB : 0 < b.den) :
    (halfway a b).rat = (a.rat + b.rat) / 2 := by
  have hA' : (a.den : Rat) ≠ 0 := by exact_mod_cast hA.ne'
  have hB' : (b.den : Rat) ≠ 0 := by exact_mod_cast hB.ne'
  simp only [halfway, rat]
  push_cast
  field_simp

theorem ofDecimal_den_pos
    (digits : Nat)
    (exponent : Int) :
    0 < (ofDecimal digits exponent).den := by
  cases exponent with
  | ofNat n => exact Nat.one_pos
  | negSucc n => exact Nat.pow_pos (by decide)

/- The value of a decimal. -/
theorem rat_ofDecimal
    (digits : Nat)
    (exponent : Int) :
    (ofDecimal digits exponent).rat =
      digits * (10 : Rat) ^ exponent := by
  cases exponent with
  | ofNat n =>
      simp [ofDecimal, rat, Nat.pow_eq]
  | negSucc n =>
      simp [ofDecimal, rat, Nat.pow_eq, zpow_negSucc,
        div_eq_mul_inv]

end Fraction

------------------------------------------------------------
-- Values of Places
------------------------------------------------------------

namespace Binary64

theorem codeValue_den_pos (code : Nat) :
    0 < (codeValue code).den := by
  unfold codeValue
  generalize (1074 : Nat) = limit
  dsimp only
  split
  · exact Nat.pow_pos (by decide)
  · split
    · exact Nat.pow_pos (by decide)
    · exact Nat.one_pos

/- How far apart a place and the next one are. -/
def spacing (code : Nat) : Rat :=
  2 ^ (max (code / 2 ^ 52) 1) / 2 ^ 1075

theorem spacing_pos (code : Nat) :
    0 < spacing code := by
  unfold spacing
  positivity

theorem rat_codeValue_of_first
    {code : Nat}
    (hBlock : code / 2 ^ 52 = 0) :
    (codeValue code).rat =
      ((code % 2 ^ 52 : Nat) : Rat) * spacing code := by
  have hLimit : (1075 : Nat) = 1074 + 1 := rfl
  unfold codeValue spacing
  rw [hLimit]
  generalize (1074 : Nat) = limit
  simp only [Nat.pow_eq, hBlock, if_true, Fraction.rat]
  push_cast
  rw [Nat.zero_max, pow_one, pow_succ]
  field_simp

theorem rat_codeValue_of_later
    {code : Nat}
    (hBlock : code / 2 ^ 52 ≠ 0) :
    (codeValue code).rat =
      ((2 ^ 52 + code % 2 ^ 52 : Nat) : Rat) *
        spacing code := by
  have hMax :
      max (code / 2 ^ 52) 1 = code / 2 ^ 52 := by
    omega
  unfold codeValue spacing
  generalize (1074 : Nat) = limit
  simp only [Nat.pow_eq, hBlock, if_false, Fraction.rat, hMax]
  generalize 2 ^ 52 + code % 2 ^ 52 = significand
  generalize code / 2 ^ 52 = block
  split
  · rename_i hSmall
    obtain ⟨gap, hGap⟩ := Nat.exists_eq_add_of_le hSmall
    rw [hGap, Nat.add_sub_cancel_left, pow_add]
    push_cast
    field_simp
  · rename_i hLarge
    obtain ⟨gap, hGap⟩ :=
      Nat.exists_eq_add_of_le (Nat.le_of_not_le hLarge)
    rw [hGap, Nat.add_sub_cancel_left, pow_add]
    push_cast
    field_simp

theorem spacing_congr
    {code other : Nat}
    (hBlock : code / 2 ^ 52 = other / 2 ^ 52) :
    spacing code = spacing other := by
  unfold spacing
  rw [hBlock]

/- After the first block the spacing doubles with each block. -/
theorem spacing_of_next_block
    {code next : Nat}
    (hBlock : next / 2 ^ 52 = code / 2 ^ 52 + 1)
    (hLater : code / 2 ^ 52 ≠ 0) :
    spacing next = 2 * spacing code := by
  have hMax :
      max (code / 2 ^ 52 + 1) 1 = max (code / 2 ^ 52) 1 + 1 := by
    omega
  rw [spacing, spacing, hBlock, hMax, pow_succ, mul_comm,
    mul_div_assoc]

theorem rat_codeValue_succ_of_inside
    {code : Nat}
    (hInside : code % 2 ^ 52 + 1 < 2 ^ 52) :
    (codeValue (code + 1)).rat =
      (codeValue code).rat + spacing code := by
  have hBlock :
      (code + 1) / 2 ^ 52 = code / 2 ^ 52 := by
    omega
  have hOffset :
      (code + 1) % 2 ^ 52 = code % 2 ^ 52 + 1 := by
    omega
  by_cases hFirst : code / 2 ^ 52 = 0
  · rw [rat_codeValue_of_first hFirst,
      rat_codeValue_of_first (hBlock.trans hFirst),
      spacing_congr hBlock, hOffset]
    push_cast
    ring
  · rw [rat_codeValue_of_later hFirst,
      rat_codeValue_of_later (hBlock ▸ hFirst),
      spacing_congr hBlock, hOffset]
    push_cast
    ring

theorem rat_codeValue_succ_of_last
    {code : Nat}
    (hLast : code % 2 ^ 52 = 2 ^ 52 - 1) :
    (codeValue (code + 1)).rat =
      (codeValue code).rat + spacing code := by
  have hBlock :
      (code + 1) / 2 ^ 52 = code / 2 ^ 52 + 1 := by
    omega
  have hOffset : (code + 1) % 2 ^ 52 = 0 := by
    omega
  have hNext : (code + 1) / 2 ^ 52 ≠ 0 := by
    omega
  rw [rat_codeValue_of_later hNext, hOffset]
  by_cases hFirst : code / 2 ^ 52 = 0
  · have hSame : spacing (code + 1) = spacing code := by
      rw [spacing, spacing, hBlock, hFirst, Nat.zero_add,
        Nat.zero_max, Nat.max_self]
    rw [rat_codeValue_of_first hFirst, hSame, hLast]
    push_cast
    ring
  · rw [rat_codeValue_of_later hFirst,
      spacing_of_next_block hBlock hFirst, hLast]
    push_cast
    ring

/- From each place to the next the value grows by the spacing. -/
theorem rat_codeValue_succ (code : Nat) :
    (codeValue (code + 1)).rat =
      (codeValue code).rat + spacing code := by
  by_cases hInside : code % 2 ^ 52 + 1 < 2 ^ 52
  · exact rat_codeValue_succ_of_inside hInside
  · apply rat_codeValue_succ_of_last
    omega

/- Later places have greater values. -/
theorem strictMono_codeValue :
    StrictMono fun code => (codeValue code).rat := by
  refine strictMono_nat_of_lt_succ fun code => ?_
  rw [rat_codeValue_succ]
  exact lt_add_of_pos_right _ (spacing_pos code)

theorem rat_codeValue_zero :
    (codeValue 0).rat = 0 := by
  simp [rat_codeValue_of_first]

theorem rat_codeValue_infinity :
    (codeValue infinityCode).rat = 2 ^ 1024 := by
  have hBlock : infinityCode / 2 ^ 52 = 2047 := by
    decide
  have hOffset : infinityCode % 2 ^ 52 = 0 := by
    decide
  rw [rat_codeValue_of_later (by rw [hBlock]; decide),
    hOffset, spacing, hBlock]
  push_cast
  rw [show max 2047 1 = 1023 + 1024 from rfl,
    show (1075 : Nat) = 52 + 1023 from rfl, pow_add, pow_add]
  field_simp
  norm_num

------------------------------------------------------------
-- Rounding
------------------------------------------------------------

/- The place found is the last one with a value at most `x`. -/
theorem lastAtMost_spec
    {x : Fraction}
    (hDen : 0 < x.den)
    (fuel low high : Nat)
    (hFuel : high < low + 2 ^ fuel)
    (hWindow : low ≤ high)
    (hLow : (codeValue low).rat ≤ x.rat) :
    (codeValue (lastAtMost x fuel low high)).rat ≤ x.rat ∧
      lastAtMost x fuel low high ≤ high ∧
      (lastAtMost x fuel low high < high →
        x.rat <
          (codeValue (lastAtMost x fuel low high + 1)).rat) := by
  induction fuel generalizing low high with
  | zero =>
      have hOne : high = low := by
        omega
      rw [lastAtMost, hOne]
      exact ⟨hLow, le_refl low, fun hLess => by omega⟩
  | succ fuel ih =>
      rw [pow_succ] at hFuel
      rw [lastAtMost]
      split
      · rename_i hOpen
        dsimp only
        split
        · rename_i hMiddle
          rw [Fraction.le_iff_rat_le (codeValue_den_pos _) hDen]
            at hMiddle
          exact ih _ high (by omega) (by omega) hMiddle
        · rename_i hMiddle
          rw [Fraction.le_iff_rat_le (codeValue_den_pos _) hDen,
            not_le] at hMiddle
          rcases ih low ((low + high + 1) / 2 - 1) (by omega)
              (by omega) hLow with
            ⟨hValue, hBound, hNext⟩
          refine ⟨hValue, by omega, fun _ => ?_⟩
          by_cases hEnd :
              lastAtMost x fuel low ((low + high + 1) / 2 - 1) <
                (low + high + 1) / 2 - 1
          · exact hNext hEnd
          · have hLast :
                lastAtMost x fuel low
                    ((low + high + 1) / 2 - 1) + 1 =
                  (low + high + 1) / 2 := by
              omega
            rw [hLast]
            exact hMiddle
      · have hOne : high = low := by
          omega
        rw [hOne]
        exact ⟨hLow, le_refl low, fun hLess => by omega⟩

/- So is the place that is found among all of them. -/
theorem lastAtMost_infinity
    {x : Fraction}
    (hDen : 0 < x.den) :
    (codeValue (lastAtMost x 64 0 infinityCode)).rat ≤ x.rat ∧
      lastAtMost x 64 0 infinityCode ≤ infinityCode ∧
      (lastAtMost x 64 0 infinityCode < infinityCode →
        x.rat <
          (codeValue
            (lastAtMost x 64 0 infinityCode + 1)).rat) := by
  have hStart : (codeValue 0).rat ≤ x.rat := by
    rw [rat_codeValue_zero]
    exact x.rat_nonneg
  have hFuel : infinityCode < 0 + 2 ^ 64 := by
    decide
  exact lastAtMost_spec hDen 64 0 infinityCode hFuel
    (Nat.zero_le _) hStart

/- The place with a value at most `x` and none after it. -/
theorem lastAtMost_eq
    {x : Fraction}
    {code : Nat}
    (hDen : 0 < x.den)
    (hCode : code ≤ infinityCode)
    (hLow : (codeValue code).rat ≤ x.rat)
    (hHigh :
      code < infinityCode →
        x.rat < (codeValue (code + 1)).rat) :
    lastAtMost x 64 0 infinityCode = code := by
  rcases lastAtMost_infinity hDen with ⟨hValue, hBound, hNext⟩
  generalize lastAtMost x 64 0 infinityCode = found at *
  rcases lt_trichotomy found code with hLess | hSame | hMore
  · have hBetween := hNext (by omega)
    have hOver :=
      strictMono_codeValue.lt_iff_lt.mp (hLow.trans_lt hBetween)
    omega
  · exact hSame
  · have hBetween := hHigh (by omega)
    have hOver :=
      strictMono_codeValue.lt_iff_lt.mp
        (hValue.trans_lt hBetween)
    omega

theorem lastAtMost_congr
    {x y : Fraction}
    (hX : 0 < x.den)
    (hY : 0 < y.den)
    (hRat : x.rat = y.rat)
    (fuel low high : Nat) :
    lastAtMost x fuel low high = lastAtMost y fuel low high := by
  induction fuel generalizing low high with
  | zero =>
      rfl
  | succ fuel ih =>
      rw [lastAtMost, lastAtMost]
      simp only [Fraction.le_iff_rat_le (codeValue_den_pos _) hX,
        Fraction.le_iff_rat_le (codeValue_den_pos _) hY, hRat,
        ih]

/- Fractions with the same value have the same nearest place. -/
theorem nearestCode_congr
    {x y : Fraction}
    (hX : 0 < x.den)
    (hY : 0 < y.den)
    (hRat : x.rat = y.rat) :
    nearestCode x = nearestCode y := by
  have hMiddle (a b : Nat) :
      0 < (Fraction.halfway (codeValue a) (codeValue b)).den :=
    Fraction.halfway_den_pos (codeValue_den_pos a)
      (codeValue_den_pos b)
  unfold nearestCode
  rw [lastAtMost_congr hX hY hRat]
  simp only [Fraction.le_iff_rat_le (hMiddle _ _) hX,
    Fraction.le_iff_rat_le (hMiddle _ _) hY,
    Fraction.lt_iff_rat_lt (hMiddle _ _) hX,
    Fraction.lt_iff_rat_lt (hMiddle _ _) hY, hRat]

/- What lies below the point halfway to the next place. -/
theorem nearestCode_of_lt_halfway
    {x : Fraction}
    {code : Nat}
    (hDen : 0 < x.den)
    (hCode : code ≤ infinityCode)
    (hLow : (codeValue code).rat ≤ x.rat)
    (hHigh :
      code < infinityCode →
        x.rat < (codeValue code).rat + spacing code / 2) :
    nearestCode x = code := by
  have hGap := spacing_pos code
  have hLast :
      lastAtMost x 64 0 infinityCode = code := by
    refine lastAtMost_eq hDen hCode hLow fun hFinite => ?_
    have hUpper := hHigh hFinite
    rw [rat_codeValue_succ]
    linarith
  unfold nearestCode
  rw [hLast]
  dsimp only
  split
  · rename_i hFinite
    have hUpper := hHigh hFinite
    have hMiddle :=
      Fraction.halfway_den_pos (codeValue_den_pos code)
        (codeValue_den_pos (code + 1))
    have hBelow :
        x.rat <
          (Fraction.halfway (codeValue code)
            (codeValue (code + 1))).rat := by
      rw [Fraction.rat_halfway (codeValue_den_pos _)
        (codeValue_den_pos _), rat_codeValue_succ]
      linarith
    rw [if_neg]
    rw [Fraction.lt_iff_rat_lt hMiddle hDen,
      Fraction.le_iff_rat_le hMiddle hDen]
    rintro (hOver | ⟨hOver, _⟩) <;> linarith
  · rfl

/- The value of a place is nearest to that place. -/
theorem nearestCode_of_rat_eq
    {x : Fraction}
    {code : Nat}
    (hDen : 0 < x.den)
    (hCode : code ≤ infinityCode)
    (hRat : x.rat = (codeValue code).rat) :
    nearestCode x = code := by
  have hGap := spacing_pos code
  exact nearestCode_of_lt_halfway hDen hCode hRat.ge
    fun _ => by linarith

/- What is too small is zero. -/
theorem nearestCode_of_lt_least
    {x : Fraction}
    (hDen : 0 < x.den)
    (hSmall : x.rat < 1 / 2 ^ 1075) :
    nearestCode x = 0 := by
  refine nearestCode_of_lt_halfway hDen (Nat.zero_le _) ?_
    fun _ => ?_
  · rw [rat_codeValue_zero]
    exact x.rat_nonneg
  · have hHalf : spacing 0 / 2 = 1 / 2 ^ 1075 := by
      rw [spacing, Nat.zero_div, Nat.zero_max, pow_one,
        div_div_cancel_left' two_ne_zero, one_div]
    rw [rat_codeValue_zero, hHalf, zero_add]
    exact hSmall

/- What is too great is infinity. -/
theorem nearestCode_of_infinity_le
    {x : Fraction}
    (hDen : 0 < x.den)
    (hLarge : 2 ^ 1024 ≤ x.rat) :
    nearestCode x = infinityCode :=
  nearestCode_of_lt_halfway hDen (le_refl _)
    (rat_codeValue_infinity.trans_le hLarge)
    fun hLess => absurd hLess (lt_irrefl _)

------------------------------------------------------------
-- Overflow
------------------------------------------------------------

/- The point halfway from the greatest number to 2 ^ 1024. -/
def overflowLimit : Nat :=
  2 ^ 1024 - 2 ^ 970

theorem cast_overflowLimit_add :
    (overflowLimit : Rat) + 2 ^ 970 = 2 ^ 1024 := by
  have hSplit : (1024 : Nat) = 970 + 54 := rfl
  unfold overflowLimit
  rw [hSplit]
  generalize (970 : Nat) = low
  rw [Nat.cast_sub
    (Nat.pow_le_pow_right (by decide) (Nat.le_add_right _ _))]
  push_cast
  exact sub_add_cancel _ _

theorem overflowLimit_pos :
    0 < overflowLimit := by
  have hSplit : (1024 : Nat) = 970 + 54 := rfl
  unfold overflowLimit
  rw [hSplit]
  generalize (970 : Nat) = low
  exact Nat.sub_pos_of_lt
    (Nat.pow_lt_pow_right (by decide) (by omega))

theorem spacing_greatest :
    spacing (infinityCode - 1) = 2 * 2 ^ 970 := by
  have hBlock : (infinityCode - 1) / 2 ^ 52 = 2046 := by
    decide
  rw [spacing, hBlock, show max 2046 1 = 971 + 1075 from rfl,
    pow_add]
  field_simp

/- The limit lies halfway from the greatest number to the next. -/
theorem rat_halfway_greatest :
    (Fraction.halfway (codeValue (infinityCode - 1))
      (codeValue (infinityCode - 1 + 1))).rat =
        overflowLimit := by
  have hNext := rat_codeValue_succ (infinityCode - 1)
  rw [show infinityCode - 1 + 1 = infinityCode from rfl,
    rat_codeValue_infinity, spacing_greatest, two_mul,
    ← cast_overflowLimit_add, ← add_assoc] at hNext
  rw [Fraction.rat_halfway (codeValue_den_pos _)
    (codeValue_den_pos _), rat_codeValue_succ, spacing_greatest,
    add_right_cancel hNext]
  generalize (2 : Rat) ^ 970 = gap
  ring

/- The limit lies between the greatest number and 2 ^ 1024. -/
theorem greatest_lt_overflowLimit :
    (codeValue (infinityCode - 1)).rat < overflowLimit := by
  have hGap := spacing_pos (infinityCode - 1)
  have hHalf := rat_halfway_greatest
  rw [Fraction.rat_halfway (codeValue_den_pos _)
    (codeValue_den_pos _), rat_codeValue_succ] at hHalf
  linarith

theorem overflowLimit_le_infinity :
    (overflowLimit : Rat) ≤ (codeValue infinityCode).rat := by
  rw [rat_codeValue_infinity, ← cast_overflowLimit_add]
  exact le_add_of_nonneg_right (by positivity)

/- The greatest place is odd, so that a tie goes to infinity. -/
theorem roundsUp_greatest_iff
    {x : Fraction}
    (hDen : 0 < x.den) :
    ((Fraction.halfway (codeValue (infinityCode - 1))
        (codeValue (infinityCode - 1 + 1))).lt x = true ∨
      (Fraction.halfway (codeValue (infinityCode - 1))
          (codeValue (infinityCode - 1 + 1))).le x = true ∧
        (infinityCode - 1) % 2 = 1) ↔
      ¬x.rat < overflowLimit := by
  have hMiddle :=
    Fraction.halfway_den_pos (codeValue_den_pos (infinityCode - 1))
      (codeValue_den_pos (infinityCode - 1 + 1))
  have hOdd : (infinityCode - 1) % 2 = 1 := rfl
  rw [Fraction.lt_iff_rat_lt hMiddle hDen,
    Fraction.le_iff_rat_le hMiddle hDen, rat_halfway_greatest,
    and_iff_left hOdd, not_lt]
  exact ⟨fun hEither => hEither.elim le_of_lt id, Or.inr⟩

/- What lies below the limit is rounded to a finite number. -/
theorem nearestCode_lt_infinity_iff
    {x : Fraction}
    (hDen : 0 < x.den) :
    nearestCode x < infinityCode ↔ x.rat < overflowLimit := by
  rcases lastAtMost_infinity hDen with ⟨hValue, hBound, hNext⟩
  unfold nearestCode
  generalize lastAtMost x 64 0 infinityCode = code at *
  dsimp only
  rcases Nat.lt_trichotomy code (infinityCode - 1) with
    hLess | rfl | hMore
  · -- even the next place is no further than the greatest one
    have hGreatest :
        (codeValue (code + 1)).rat ≤
          (codeValue (infinityCode - 1)).rat :=
      strictMono_codeValue.monotone (by omega)
    have hUpper : x.rat < overflowLimit :=
      ((hNext (by omega)).trans_le hGreatest).trans
        greatest_lt_overflowLimit
    rw [if_pos (by omega)]
    refine iff_of_true ?_ hUpper
    split <;> omega
  · have hUp := roundsUp_greatest_iff hDen
    rw [if_pos (by decide)]
    split
    · rename_i hOver
      exact iff_of_false (by decide) (hUp.mp hOver)
    · rename_i hUnder
      exact iff_of_true (by decide) (not_not.mp (hUp.not.mp hUnder))
  · have hInfinity : code = infinityCode := by
      omega
    subst hInfinity
    rw [if_neg (lt_irrefl _)]
    exact iff_of_false (lt_irrefl _)
      (not_lt.mpr (overflowLimit_le_infinity.trans hValue))

/- An integer has a nearest number unless it is too great. -/
theorem ofInt?_eq_none_iff
    {n : Int} :
    ofInt? n = none ↔ overflowLimit ≤ n.natAbs := by
  have hRat : (Fraction.mk n.natAbs 1).rat = n.natAbs := by
    rw [Fraction.rat, Nat.cast_one, div_one]
  have hFinite :=
    nearestCode_lt_infinity_iff
      (x := ⟨n.natAbs, 1⟩) Nat.one_pos
  rw [hRat, Nat.cast_lt] at hFinite
  unfold ofInt?
  dsimp only
  rw [← not_lt, ← hFinite]
  split
  · rename_i hLess
    exact iff_of_false (Option.some_ne_none _) (not_not.mpr hLess)
  · rename_i hMore
    exact iff_of_true rfl hMore

end Binary64

end Number

end Replay
