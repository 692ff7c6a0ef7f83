import Mathlib.Data.List.TakeWhile
import Replay.Proofs.Number.Digit
import Replay.Proofs.Text.Pieces

/-
  This file proves that a written integer reads back, also
  with the rules for texts of all scripts.

  Main results:
    * `readInteger_intText`
    * `trim_intText`
    * `length_digitChars_le`
-/

------------------------------------------------------------
-- Characters of Integers
------------------------------------------------------------

namespace Replay

namespace Number

open Text

/- An integer is written with digits and a minus. -/
theorem mem_intText
    {n : Int}
    {c : Char}
    (hMember : c ∈ (intText n).toList) :
    c = '-' ∨ c.isDigit = true := by
  rw [toList_intText] at hMember
  rcases List.mem_append.mp hMember with hSign | hDigit
  · unfold signText at hSign
    split at hSign
    · exact Or.inl (List.mem_singleton.mp hSign)
    · exact absurd hSign List.not_mem_nil
  · exact Or.inr (isDigit_of_mem_digitChars hDigit)

theorem intText_ne_empty (n : Int) :
    intText n ≠ "" := by
  have hDigits : digitChars n.natAbs ≠ [] :=
    List.ne_nil_of_length_pos Nat.length_toDigits_pos
  intro hEmpty
  have hText := toList_intText n
  rw [hEmpty, String.toList_empty] at hText
  exact List.append_ne_nil_of_right_ne_nil _ hDigits hText.symm

/- The bounds on the code of a digit. -/
theorem toNat_of_isDigit
    {c : Char}
    (hDigit : c.isDigit = true) :
    48 ≤ c.toNat ∧ c.toNat ≤ 57 := by
  simpa [Char.isDigit, UInt32.le_iff_toNat_le] using hDigit

/- A digit is the same in all scripts that have it. -/
theorem plainCharacter_of_isDigit
    {c : Char}
    (hDigit : c.isDigit = true) :
    plainCharacter (.char c) = c := by
  have hBounds := toNat_of_isDigit hDigit
  rw [plainCharacter, if_pos (by omega)]

theorem isBlank_of_isDigit
    {c : Char}
    (hDigit : c.isDigit = true) :
    isBlank c = false := by
  have hBounds := toNat_of_isDigit hDigit
  simp only [isBlank, isWhiteSpace, Bool.or_eq_false_iff,
    Bool.and_eq_false_iff, decide_eq_false_iff_not,
    beq_eq_false_iff_ne]
  omega

theorem isBlank_of_mem_intText
    {n : Int}
    {c : Char}
    (hMember : c ∈ (intText n).toList) :
    isBlank c = false := by
  rcases mem_intText hMember with rfl | hDigit
  · decide
  · exact isBlank_of_isDigit hDigit

theorem isNumberSpace_of_mem_intText
    {n : Int}
    {c : Char}
    (hMember : c ∈ (intText n).toList) :
    isNumberSpace c = false := by
  rcases mem_intText hMember with rfl | hDigit
  · decide
  · have hBounds := toNat_of_isDigit hDigit
    have hBlank : c ≠ ' ' := by
      rintro rfl
      exact absurd hDigit (by decide)
    simp only [isNumberSpace, Bool.or_eq_false_iff,
      Bool.and_eq_false_iff, decide_eq_false_iff_not,
      beq_eq_false_iff_ne]
    exact ⟨hBlank, by omega⟩

/- No blanks stand around a written integer. -/
theorem trim_intText (n : Int) :
    trim (intText n) = intText n := by
  have hFront :
      (intText n).toList.dropWhile isBlank =
        (intText n).toList :=
    dropWhile_of_forall fun _ => isBlank_of_mem_intText
  have hBack :
      dropTrailing isBlank (intText n).toList =
        (intText n).toList := by
    rw [dropTrailing_eq_rdropWhile, List.rdropWhile_eq_self_iff]
    intro hRow
    simp [isBlank_of_mem_intText (List.getLast_mem hRow)]
  rw [trim, trimBy, hFront, hBack, String.ofList_toList]

------------------------------------------------------------
-- Reading
------------------------------------------------------------

theorem isGrouped_of_digits
    {digits : List Char}
    (hNotEmpty : digits ≠ [])
    (hDigits : ∀ c ∈ digits, c.isDigit = true) :
    isGrouped digits = true := by
  induction digits with
  | nil =>
      exact absurd rfl hNotEmpty
  | cons c rest ih =>
      have hFirst := hDigits c List.mem_cons_self
      cases rest with
      | nil =>
          exact hFirst
      | cons next more =>
          have hNext : next ≠ '_' := by
            rintro rfl
            exact absurd (hDigits '_' (by simp)) (by decide)
          have hRest :=
            ih (List.cons_ne_nil next more) fun other hOther =>
              hDigits other (List.mem_cons_of_mem _ hOther)
          rw [isGrouped, hFirst, hRest]
          · rfl
          · exact fun hNone =>
              absurd hNone (List.cons_ne_nil next more)
          · exact fun _ hMark =>
              absurd (List.head_eq_of_cons_eq hMark) hNext

theorem ungroup_of_digits
    {digits : List Char}
    (hDigits : ∀ c ∈ digits, c.isDigit = true) :
    ungroup digits = digits := by
  refine List.filter_eq_self.mpr fun c hMember => ?_
  have hMark : c ≠ '_' := by
    rintro rfl
    exact absurd (hDigits '_' hMember) (by decide)
  simpa using hMark

/- The sign of an integer is told from its digits. -/
theorem splitSign_signText
    (negative : Bool)
    {first : Char}
    (rest : List Char)
    (hDigit : first.isDigit = true) :
    splitSign (signText negative ++ first :: rest) =
      (negative, first :: rest) := by
  cases negative with
  | true =>
      rfl
  | false =>
      have hMinus : first ≠ '-' := by
        rintro rfl
        exact absurd hDigit (by decide)
      have hPlus : first ≠ '+' := by
        rintro rfl
        exact absurd hDigit (by decide)
      simp only [signText, Bool.false_eq_true, if_false,
        List.nil_append]
      unfold splitSign
      split
      · rename_i hFirst
        exact absurd (List.head_eq_of_cons_eq hFirst) hMinus
      · rename_i hFirst
        exact absurd (List.head_eq_of_cons_eq hFirst) hPlus
      · rfl

/- A written integer reads back, if it is not too long. -/
theorem readInteger_intText
    {n : Int}
    (hLength : (digitChars n.natAbs).length ≤ digitLimit) :
    readInteger (intText n) = .ok n := by
  have hDigits :
      ∀ c ∈ digitChars n.natAbs, c.isDigit = true :=
    fun _ => isDigit_of_mem_digitChars
  have hNotEmpty : digitChars n.natAbs ≠ [] :=
    List.ne_nil_of_length_pos Nat.length_toDigits_pos
  have hPlain :
      (Text.ofString (intText n)).map plainCharacter =
        (intText n).toList := by
    rw [Text.ofString, List.map_map]
    refine (List.map_congr_left fun c hMember => ?_).trans
      (List.map_id _)
    rcases mem_intText hMember with rfl | hDigit
    · rfl
    · exact plainCharacter_of_isDigit hDigit
  have hFront :
      (intText n).toList.dropWhile isNumberSpace =
        (intText n).toList :=
    dropWhile_of_forall fun _ => isNumberSpace_of_mem_intText
  have hSplit :
      splitSign (intText n).toList =
        (decide (n < 0), digitChars n.natAbs) := by
    rw [toList_intText]
    cases hRow : digitChars n.natAbs with
    | nil =>
        exact absurd hRow hNotEmpty
    | cons first rest =>
        exact splitSign_signText _ rest
          (hDigits first (by rw [hRow]; exact List.mem_cons_self))
  have hRow :
      (digitChars n.natAbs).takeWhile
          (fun c => c.isDigit || c == '_') =
        digitChars n.natAbs :=
    List.takeWhile_eq_self_iff.mpr fun c hMember => by
      simp [hDigits c hMember]
  unfold readInteger
  simp only [hPlain, hFront, hSplit, hRow, List.drop_length,
    isGrouped_of_digits hNotEmpty hDigits,
    ungroup_of_digits hDigits, Nat.not_lt.mpr hLength,
    digitsValue_digitChars, signedInt_natAbs, Bool.not_true,
    Bool.false_eq_true, if_false, List.all_nil]

/- What is written reads back. -/
theorem readInteger_of_writeInteger
    {n : Int}
    {text : String}
    (hText : writeInteger n = .ok text) :
    text = intText n ∧ readInteger text = .ok n := by
  unfold writeInteger at hText
  split at hText
  · cases hText
  · rename_i hLength
    cases hText
    exact ⟨rfl, readInteger_intText (Nat.not_lt.mp hLength)⟩

/- A number below a power of ten has no more digits. -/
theorem length_digitChars_le
    {n digits : Nat}
    (hPos : 0 < digits)
    (hLess : n < 10 ^ digits) :
    (digitChars n).length ≤ digits :=
  (Nat.length_toDigits_le_iff (by decide) hPos).mpr hLess

end Number

end Replay
