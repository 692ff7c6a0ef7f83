import Replay.Number.Shortest
import Replay.Proofs.Number.Binary64
import Replay.Proofs.Number.Digit

/-
  This file proves that the shortest decimal of a number of
  64 bits reads back as that number.

  Main results:
    * `Decimal.rat_value`
    * `Shortest.nearestCode_ofCode`
    * `Decimal.size_bounds`
-/

------------------------------------------------------------
-- Decimals That Read Back
------------------------------------------------------------

namespace Replay

namespace Number

open Binary64

namespace Decimal

theorem value_den_pos (d : Decimal) :
    0 < d.value.den :=
  Fraction.ofDecimal_den_pos d.digits d.exponent

theorem rat_value (d : Decimal) :
    d.value.rat = d.digits * (10 : Rat) ^ d.exponent :=
  Fraction.rat_ofDecimal d.digits d.exponent

end Decimal

namespace Shortest

/- What a grid gives reads back. -/
theorem nearestCode_of_onGrid?
    {code : Nat}
    {exponent : Int}
    {d : Decimal}
    (hGrid : onGrid? code exponent = some d) :
    nearestCode d.value = code := by
  have hBack :
      readsBack code d = true := by
    unfold onGrid? at hGrid
    dsimp only at hGrid
    split at hGrid
    · cases hGrid
    · rename_i hBelow _
      exact Option.some.inj hGrid ▸ hBelow
    · rename_i _ hAbove
      exact Option.some.inj hGrid ▸ hAbove
    · rename_i hBelow hAbove
      split at hGrid
      · exact Option.some.inj hGrid ▸ hBelow
      · exact Option.some.inj hGrid ▸ hAbove
  exact beq_iff_eq.mp hBack

theorem nearestCode_of_firstGrid
    {code : Nat}
    (fuel : Nat)
    {exponent : Int}
    {d : Decimal}
    (hGrid : firstGrid code fuel exponent = some d) :
    nearestCode d.value = code := by
  induction fuel generalizing exponent with
  | zero =>
      cases hGrid
  | succ fuel ih =>
      rw [firstGrid] at hGrid
      cases hFirst : onGrid? code exponent with
      | none =>
          rw [hFirst] at hGrid
          exact ih hGrid
      | some found =>
          rw [hFirst] at hGrid
          cases hGrid
          exact nearestCode_of_onGrid? hFirst

------------------------------------------------------------
-- All Digits of a Place
------------------------------------------------------------

theorem exists_codeValue_den_eq (code : Nat) :
    ∃ places, (codeValue code).den = 2 ^ places := by
  unfold codeValue
  generalize (1074 : Nat) = limit
  dsimp only
  split
  · exact ⟨limit, rfl⟩
  · split
    · exact ⟨_, rfl⟩
    · exact ⟨0, rfl⟩

/- The decimal with all digits has the value of its place. -/
theorem rat_exact (code : Nat) :
    (exact code).value.rat = (codeValue code).rat := by
  rcases exists_codeValue_den_eq code with ⟨places, hDen⟩
  rw [Decimal.rat_value, exact, Fraction.rat]
  simp only [hDen, Nat.log2_two_pow, Nat.pow_eq, zpow_neg,
    zpow_natCast]
  push_cast
  rw [show (10 : Rat) = 2 * 5 by norm_num, mul_pow]
  field_simp

theorem nearestCode_exact
    {code : Nat}
    (hCode : code ≤ infinityCode) :
    nearestCode (exact code).value = code :=
  nearestCode_of_rat_eq (Decimal.value_den_pos _) hCode
    (rat_exact code)

------------------------------------------------------------
-- Without Zeros at the End
------------------------------------------------------------

/- Zeros that are dropped do not change the value. -/
theorem rat_dropZeros
    (fuel : Nat)
    (d : Decimal) :
    (dropZeros fuel d).value.rat = d.value.rat := by
  induction fuel generalizing d with
  | zero =>
      rfl
  | succ fuel ih =>
      rw [dropZeros]
      split
      · rename_i hZero
        have hTen : d.digits / 10 * 10 = d.digits := by
          omega
        have hTen' :
            ((d.digits / 10 : Nat) : Rat) * 10 = d.digits := by
          exact_mod_cast hTen
        rw [ih, Decimal.rat_value, Decimal.rat_value,
          zpow_add_one₀ (by norm_num), ← hTen']
        ring
      · rfl

/- The shortest decimal of a place reads back as that place. -/
theorem nearestCode_ofCode
    {code : Nat}
    (hCode : code ≤ infinityCode) :
    nearestCode (ofCode code).value = code := by
  unfold ofCode
  dsimp only
  rw [nearestCode_congr (Decimal.value_den_pos _)
    (Decimal.value_den_pos _) (rat_dropZeros _ _)]
  cases hGrid :
      firstGrid code 17 (leadingExponent (codeValue code)) with
  | none =>
      exact nearestCode_exact hCode
  | some d =>
      exact nearestCode_of_firstGrid 17 hGrid

end Shortest

------------------------------------------------------------
-- Sizes
------------------------------------------------------------

namespace Decimal

/- A decimal that does not read back as zero has digits. -/
theorem digits_pos
    {d : Decimal}
    (hZero : nearestCode d.value ≠ 0) :
    0 < d.digits := by
  refine Nat.pos_of_ne_zero fun hDigits => hZero ?_
  refine nearestCode_of_rat_eq d.value_den_pos
    (Nat.zero_le _) ?_
  rw [rat_value, hDigits, Nat.cast_zero, zero_mul,
    rat_codeValue_zero]

/- A power of two below all numbers, beside one of ten. -/
theorem ten_pow_lt_least :
    (10 : Rat) ^ (-401 : Int) < 1 / 2 ^ 1075 := by
  have hPow : (2 : Rat) ^ 1075 < 10 ^ 401 :=
    calc
      (2 : Rat) ^ 1075 ≤ 2 ^ (3 * 400) :=
        pow_le_pow_right₀ (by norm_num) (by norm_num)
      _ = 8 ^ 400 := by
        rw [pow_mul]
        norm_num
      _ < 10 ^ 401 := by
        refine (pow_le_pow_left₀ (by norm_num)
          (by norm_num) 400).trans_lt
          (pow_lt_pow_right₀ (by norm_num) (by norm_num))
  rw [one_div, show (-401 : Int) = -((401 : Nat) : Int) from rfl,
    zpow_neg, zpow_natCast]
  exact inv_strictAnti₀ (by positivity) hPow

/- A power of two above all numbers, beside one of ten. -/
theorem infinity_le_ten_pow :
    (2 : Rat) ^ 1024 ≤ 10 ^ 400 :=
  calc
    (2 : Rat) ^ 1024 ≤ 2 ^ (3 * 400) :=
      pow_le_pow_right₀ (by norm_num) (by norm_num)
    _ = 8 ^ 400 := by
      rw [pow_mul]
      norm_num
    _ ≤ 10 ^ 400 :=
      pow_le_pow_left₀ (by norm_num) (by norm_num) 400

/- The value of a decimal lies between two powers of ten. -/
theorem rat_value_lt (d : Decimal) :
    d.value.rat <
      10 ^ (d.exponent + (digitChars d.digits).length) := by
  have hDigits :
      (d.digits : Rat) <
        10 ^ ((digitChars d.digits).length : Int) := by
    rw [zpow_natCast]
    exact_mod_cast lt_pow_digitChars d.digits
  have hTen : (0 : Rat) < 10 ^ d.exponent :=
    zpow_pos (by norm_num) _
  calc
    d.value.rat = d.digits * 10 ^ d.exponent := d.rat_value
    _ < 10 ^ ((digitChars d.digits).length : Int) *
        10 ^ d.exponent :=
      mul_lt_mul_of_pos_right hDigits hTen
    _ = 10 ^ (d.exponent + (digitChars d.digits).length) := by
      rw [← zpow_add₀ (by norm_num), add_comm]

theorem le_rat_value
    {d : Decimal}
    (hPos : 0 < d.digits) :
    10 ^ (d.exponent + (digitChars d.digits).length - 1) ≤
      d.value.rat := by
  have hLength : 0 < (digitChars d.digits).length :=
    Nat.length_toDigits_pos
  have hSize :
      d.exponent + (digitChars d.digits).length - 1 =
        ((digitChars d.digits).length - 1 : Nat) +
          d.exponent := by
    omega
  have hDigits :
      (10 : Rat) ^ ((digitChars d.digits).length - 1) ≤
        d.digits := by
    exact_mod_cast pow_le_of_digitChars hPos
  have hTen : (0 : Rat) < 10 ^ d.exponent :=
    zpow_pos (by norm_num) _
  rw [hSize, zpow_add₀ (by norm_num), zpow_natCast, d.rat_value]
  exact mul_le_mul_of_nonneg_right hDigits hTen.le

/-
  A decimal that reads back as a finite positive number is
  neither far below nor far above all numbers.
-/
theorem size_bounds
    {d : Decimal}
    (hZero : nearestCode d.value ≠ 0)
    (hInfinity : nearestCode d.value ≠ infinityCode) :
    -400 ≤ d.exponent + (digitChars d.digits).length ∧
      d.exponent + (digitChars d.digits).length ≤ 400 := by
  constructor
  · by_contra hSmall
    refine hZero (nearestCode_of_lt_least d.value_den_pos ?_)
    calc
      d.value.rat <
          10 ^ (d.exponent + (digitChars d.digits).length) :=
        d.rat_value_lt
      _ ≤ 10 ^ (-401 : Int) :=
        zpow_le_zpow_right₀ (by norm_num) (by omega)
      _ < 1 / 2 ^ 1075 := ten_pow_lt_least
  · by_contra hLarge
    refine hInfinity
      (nearestCode_of_infinity_le d.value_den_pos ?_)
    calc
      (2 : Rat) ^ 1024 ≤ 10 ^ 400 := infinity_le_ten_pow
      _ = 10 ^ (400 : Int) := (zpow_natCast _ _).symm
      _ ≤ 10 ^
          (d.exponent + (digitChars d.digits).length - 1) :=
        zpow_le_zpow_right₀ (by norm_num) (by omega)
      _ ≤ d.value.rat := le_rat_value (digits_pos hZero)

end Decimal

end Number

end Replay
