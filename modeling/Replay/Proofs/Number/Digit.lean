import Mathlib.Tactic.IntervalCases
import Replay.Number.Reader

/-
  This file proves that the digits of a natural number read
  back as that number, and that an integer is written as its
  sign and its digits.

  Key definitions include:
    * `signText`

  Main results:
    * `digitsValue_digitChars`
    * `exists_digitChars_eq_cons`
    * `pow_le_of_digitChars`
    * `toList_intText`
-/

------------------------------------------------------------
-- Values of Digits
------------------------------------------------------------

namespace Replay

namespace Number

@[simp] theorem digitsValue_digitChars (n : Nat) :
    digitsValue (digitChars n) = n :=
  Nat.ofDigitChars_ten_toDigits

/- Zeros before some digits do not count. -/
theorem digitsValue_zeros_append
    (count : Nat)
    (digits : List Char) :
    digitsValue (List.replicate count '0' ++ digits) =
      digitsValue digits := by
  calc
    digitsValue (List.replicate count '0' ++ digits) =
        Nat.ofDigitChars 10
          (List.replicate count '0' ++ digits) 0 := rfl
    _ = Nat.ofDigitChars 10 digits 0 := by
        rw [Nat.ofDigitChars_append,
          Nat.ofDigitChars_replicate_zero, Nat.mul_zero]
    _ = digitsValue digits := rfl

/- Each zero after some digits makes ten of one. -/
theorem digitsValue_append_zeros
    (digits : List Char)
    (count : Nat) :
    digitsValue (digits ++ List.replicate count '0') =
      10 ^ count * digitsValue digits := by
  calc
    digitsValue (digits ++ List.replicate count '0') =
        Nat.ofDigitChars 10
          (digits ++ List.replicate count '0') 0 := rfl
    _ = 10 ^ count * Nat.ofDigitChars 10 digits 0 := by
        rw [Nat.ofDigitChars_append,
          Nat.ofDigitChars_replicate_zero]
    _ = 10 ^ count * digitsValue digits := rfl

------------------------------------------------------------
-- Digits of a Number
------------------------------------------------------------

theorem isDigit_of_mem_digitChars
    {n : Nat}
    {c : Char}
    (hMember : c ∈ digitChars n) :
    c.isDigit = true :=
  Nat.isDigit_of_mem_toDigits (by decide) (by decide) hMember

/- A positive number does not begin with a zero. -/
theorem exists_digitChars_eq_cons
    {n : Nat}
    (hPos : 0 < n) :
    ∃ first rest,
      digitChars n = first :: rest ∧
        first.isDigit = true ∧
        first ≠ '0' := by
  induction n using Nat.strongRecOn with
  | ind n ih =>
      by_cases hSmall : n < 10
      · refine ⟨n.digitChar, [], Nat.toDigits_of_lt_base hSmall,
          ?_⟩
        interval_cases n <;> decide
      · have hSplit :
            digitChars n =
              digitChars (n / 10) ++ [(n % 10).digitChar] :=
          Nat.toDigits_of_base_le (by decide) (by omega)
        rcases ih (n / 10) (by omega) (by omega) with
          ⟨first, rest, hDigits, hFirst⟩
        refine ⟨first, rest ++ [(n % 10).digitChar], ?_, hFirst⟩
        rw [hSplit, hDigits, List.cons_append]

/- No power of ten above a number has its number of digits. -/
theorem lt_pow_digitChars (n : Nat) :
    n < 10 ^ (digitChars n).length :=
  (Nat.length_toDigits_le_iff (by decide)
    Nat.length_toDigits_pos).mp (le_refl _)

/- A power of ten with as many digits is at most the number. -/
theorem pow_le_of_digitChars
    {n : Nat}
    (hPos : 0 < n) :
    10 ^ ((digitChars n).length - 1) ≤ n := by
  by_cases hOne : (digitChars n).length - 1 = 0
  · rw [hOne, pow_zero]
    exact hPos
  · have hShorter :
        ¬ (digitChars n).length ≤ (digitChars n).length - 1 := by
      omega
    have hBound :=
      Nat.length_toDigits_le_iff (b := 10) (n := n) (by decide)
        (Nat.pos_of_ne_zero hOne)
    exact Nat.le_of_not_lt fun hLess =>
      hShorter (hBound.mpr hLess)

------------------------------------------------------------
-- Integers
------------------------------------------------------------

/- The sign of a number. -/
def signText (negative : Bool) : List Char :=
  if negative then ['-'] else []

theorem toList_intText (n : Int) :
    (intText n).toList =
      signText (decide (n < 0)) ++ digitChars n.natAbs := by
  cases n with
  | ofNat n =>
      simp [intText, natText, signText]
  | negSucc n =>
      simp [intText, natText, signText, Int.negSucc_lt_zero]

theorem signedInt_natAbs (n : Int) :
    signedInt (decide (n < 0)) n.natAbs = n := by
  unfold signedInt
  by_cases hNegative : n < 0
  · rw [if_pos (decide_eq_true hNegative)]
    omega
  · rw [if_neg (by simpa using hNegative)]
    omega

end Number

end Replay
