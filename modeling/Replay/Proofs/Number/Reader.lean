import Replay.Proofs.Number.Shortest

/-
  This file proves that the digits of a decimal, with any
  zeros around them, round to the number it reads back as.

  Main results:
    * `ofDecimal_digitChars`
    * `ofDecimal_ofCode`
-/

------------------------------------------------------------
-- Digits of Decimals
------------------------------------------------------------

namespace Replay

namespace Number

open Binary64

theorem dropWhile_zeros
    (count : Nat)
    (digits : List Char) :
    (List.replicate count '0' ++ digits).dropWhile (· == '0') =
      digits.dropWhile (· == '0') := by
  apply List.dropWhile_append_of_pos
  intro c hMember
  rw [List.eq_of_mem_replicate hMember]
  rfl

/-
  Reading the digits of a decimal, with zeros before them and
  after them, gives the number that it reads back as.
-/
theorem ofDecimal_digitChars
    (negative : Bool)
    {d : Decimal}
    (hZero : nearestCode d.value ≠ 0)
    (hInfinity : nearestCode d.value ≠ infinityCode)
    (before after : Nat) :
    ofDecimal negative
        (List.replicate before '0' ++
          (digitChars d.digits ++ List.replicate after '0'))
        (d.exponent - after) =
      ofFraction negative d.value := by
  have hBounds := Decimal.size_bounds hZero hInfinity
  rcases exists_digitChars_eq_cons (Decimal.digits_pos hZero) with
    ⟨first, rest, hDigits, _, hFirst⟩
  have hSignificant :
      (List.replicate before '0' ++
          (digitChars d.digits ++
            List.replicate after '0')).dropWhile (· == '0') =
        digitChars d.digits ++ List.replicate after '0' := by
    rw [dropWhile_zeros, hDigits, List.cons_append,
      List.dropWhile_cons_of_neg (by simpa using hFirst)]
  have hSize :
      d.exponent - after +
          (digitChars d.digits ++
            List.replicate after '0').length =
        d.exponent + (digitChars d.digits).length := by
    rw [List.length_append, List.length_replicate]
    omega
  have hRat :
      (Fraction.ofDecimal
        (digitsValue
          (digitChars d.digits ++ List.replicate after '0'))
        (d.exponent - after)).rat = d.value.rat := by
    rw [Fraction.rat_ofDecimal, digitsValue_append_zeros,
      digitsValue_digitChars, Decimal.rat_value,
      zpow_sub₀ (by norm_num), zpow_natCast]
    push_cast
    field_simp
  unfold ofDecimal
  rw [hSignificant]
  dsimp only
  rw [hSize, if_neg, if_neg (by omega), ofFraction, ofFraction,
    nearestCode_congr (Fraction.ofDecimal_den_pos _ _)
      d.value_den_pos hRat]
  rintro (hEmpty | hSmall)
  · simp [hDigits] at hEmpty
  · omega

/- The digits of a place, read back. -/
theorem ofDecimal_ofCode
    (negative : Bool)
    (code : Fin (infinityCode + 1))
    (hZero : code.val ≠ 0)
    (hFinite : code.val < infinityCode)
    (before after : Nat) :
    ofDecimal negative
        (List.replicate before '0' ++
          (digitChars (Shortest.ofCode code).digits ++
            List.replicate after '0'))
        ((Shortest.ofCode code).exponent - after) =
      .signed negative code := by
  have hBack :=
    Shortest.nearestCode_ofCode (Nat.le_of_lt_succ code.isLt)
  rw [ofDecimal_digitChars negative (by rwa [hBack])
    (by rw [hBack]; exact hFinite.ne), ofFraction, hBack, ofCode]
  congr
  exact Nat.min_eq_left (Nat.le_of_lt_succ code.isLt)

end Number

end Replay
