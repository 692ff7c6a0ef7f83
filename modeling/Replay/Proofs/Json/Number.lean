import Replay.Json.Reader
import Replay.Json.Writer
import Replay.Proofs.Number.Reader

/-
  This file proves that the numbers of a JSON text read back.

  Key definitions include:
    * `Json.Follows`
    * `Json.IsWhole`
    * `Json.Spells`

  Main results:
    * `Json.readNumber_parts`
    * `Json.readNumber_intText`
    * `Json.readNumber_signed`
-/

------------------------------------------------------------
-- Parts of Numbers
------------------------------------------------------------

namespace Replay

namespace Json

open Number Text

/- What may follow a value: nothing, a comma or a new line. -/
inductive Follows : List Char → Prop where
  | nothing : Follows []
  | comma (rest : List Char) : Follows (',' :: rest)
  | newLine (rest : List Char) : Follows ('\n' :: rest)

/- One zero, or digits without a zero first. -/
inductive IsWhole : List Char → Prop where
  | zero : IsWhole ['0']
  | digits
      (first : Char)
      (rest : List Char)
      (hFirst : first ≠ '0')
      (hDigits : ∀ c ∈ first :: rest, c.isDigit = true) :
      IsWhole (first :: rest)

/- The digits after a point, and the point if there are any. -/
def pointText (part : List Char) : List Char :=
  if part.isEmpty then [] else '.' :: part

/- The exponent of a number, with two digits at least. -/
def exponentText : Option Int → List Char
  | none => []
  | some lead =>
    'e' :: (if lead < 0 then '-' else '+') ::
      ((if (digitChars lead.natAbs).length < 2 then ['0']
        else []) ++ digitChars lead.natAbs)

namespace IsWhole

/- The first of the digits, which is one. -/
theorem exists_eq_cons
    {whole : List Char}
    (hWhole : IsWhole whole) :
    ∃ first rest,
      whole = first :: rest ∧ first.isDigit = true := by
  cases hWhole with
  | zero =>
      exact ⟨'0', [], rfl, rfl⟩
  | digits first rest _ hDigits =>
      exact ⟨first, rest, rfl, hDigits first List.mem_cons_self⟩

/- The digits of a positive number are whole. -/
theorem of_digitChars
    {n : Nat}
    (hPos : 0 < n) :
    IsWhole (digitChars n) := by
  rcases exists_digitChars_eq_cons hPos with
    ⟨first, rest, hDigits, _, hFirst⟩
  have hAll :
      ∀ c ∈ first :: rest, c.isDigit = true := by
    intro c hMember
    rw [← hDigits] at hMember
    exact isDigit_of_mem_digitChars hMember
  rw [hDigits]
  exact .digits first rest hFirst hAll

end IsWhole

------------------------------------------------------------
-- Reading the Parts
------------------------------------------------------------

/- All digits are taken up to what follows them. -/
theorem takeWhile_digits_append
    {digits rest : List Char}
    (hDigits : ∀ c ∈ digits, c.isDigit = true)
    (hRest : rest.takeWhile Char.isDigit = []) :
    (digits ++ rest).takeWhile Char.isDigit = digits := by
  rw [List.takeWhile_append_of_pos hDigits, hRest,
    List.append_nil]

/- The whole digits end where no digit follows. -/
theorem wholeDigits_append
    {whole rest : List Char}
    (hWhole : IsWhole whole)
    (hRest : rest.takeWhile Char.isDigit = []) :
    wholeDigits (whole ++ rest) = whole := by
  cases hWhole with
  | zero =>
      rfl
  | digits first tail hFirst hDigits =>
      have hUnfold :
          wholeDigits (first :: tail ++ rest) =
            (first :: tail ++ rest).takeWhile Char.isDigit := by
        unfold wholeDigits
        split
        · rename_i hZero
          exact absurd (List.head_eq_of_cons_eq hZero) hFirst
        · rfl
      rw [hUnfold, takeWhile_digits_append hDigits hRest]

/- The digits behind a point end in the same way. -/
theorem takeWhile_pointText_append
    (part : List Char)
    {rest : List Char}
    (hRest : rest.takeWhile Char.isDigit = []) :
    (pointText part ++ rest).takeWhile Char.isDigit = [] := by
  unfold pointText
  split
  · exact hRest
  · rfl

/- So the part behind the point reads back. -/
theorem pointDigits_pointText_append
    {part rest : List Char}
    (hPart : ∀ c ∈ part, c.isDigit = true)
    (hDigits : rest.takeWhile Char.isDigit = [])
    (hPoint : pointDigits rest = []) :
    pointDigits (pointText part ++ rest) = part := by
  unfold pointText
  split
  · rename_i hEmpty
    rw [List.isEmpty_iff.mp hEmpty]
    exact hPoint
  · exact takeWhile_digits_append hPart hDigits

theorem drop_pointText_append
    (part rest : List Char) :
    (if part.isEmpty then pointText part ++ rest
      else (pointText part ++ rest).drop (part.length + 1)) =
      rest := by
  unfold pointText
  cases part.isEmpty with
  | true =>
      rfl
  | false =>
      simp

/- A number by its sign, its digits and its exponent. -/
theorem readNumber_parts
    (negative : Bool)
    {whole part power rest : List Char}
    (hWhole : IsWhole whole)
    (hPart : ∀ c ∈ part, c.isDigit = true)
    (hDigits : (power ++ rest).takeWhile Char.isDigit = [])
    (hPoint : pointDigits (power ++ rest) = [])
    (hPower : exponentLength (power ++ rest) = power.length) :
    readNumber
        (signText negative ++
          (whole ++ (pointText part ++ (power ++ rest)))) =
      if part.isEmpty ∧ power.length = 0 then
        if digitLimit < whole.length then
          .error (.tooManyDigits whole.length)
        else
          .ok (.integer
            (signedInt negative (digitsValue whole)), rest)
      else
        .ok (.number (ofDecimal negative (whole ++ part)
          ((readExponent? power).getD 0 - part.length)),
          rest) := by
  rcases hWhole.exists_eq_cons with
    ⟨first, tail, hFirst, hDigit⟩
  have hWholeDigits :
      wholeDigits
        (whole ++ (pointText part ++ (power ++ rest))) =
        whole :=
    wholeDigits_append hWhole
      (takeWhile_pointText_append part hDigits)
  have hNotEmpty : whole.isEmpty = false := by
    rw [hFirst]
    rfl
  unfold readNumber
  split
  rename_i sign body hSplit
  have hParts :
      (sign, body) =
        (negative,
          whole ++ (pointText part ++ (power ++ rest))) := by
    rw [← hSplit]
    cases negative with
    | true =>
        rfl
    | false =>
        have hNoSign : first ≠ '-' := by
          rintro rfl
          exact absurd hDigit (by decide)
        rw [hFirst]
        simp [signText, hNoSign]
  cases hParts
  dsimp only
  rw [hWholeDigits, hNotEmpty, if_neg Bool.false_ne_true,
    List.drop_left, pointDigits_pointText_append hPart hDigits
      hPoint, drop_pointText_append, hPower, List.drop_left,
    List.take_left]

------------------------------------------------------------
-- Exponents
------------------------------------------------------------

theorem isDigit_of_mem_padded
    {n : Nat}
    {c : Char}
    (hMember :
      c ∈ (if (digitChars n).length < 2 then ['0'] else []) ++
        digitChars n) :
    c.isDigit = true := by
  rcases List.mem_append.mp hMember with hZero | hDigit
  · split at hZero
    · rw [List.mem_singleton.mp hZero]
      rfl
    · cases hZero
  · exact isDigit_of_mem_digitChars hDigit

/- The sign of an exponent is told from its digits. -/
theorem splitSign_exponent
    (lead : Int)
    (digits : List Char) :
    splitSign ((if lead < 0 then '-' else '+') :: digits) =
      (decide (lead < 0), digits) := by
  by_cases hNegative : lead < 0 <;> simp [hNegative, splitSign]

/- Zeros in front do not change the value of digits. -/
theorem digitsValue_padded (n : Nat) :
    digitsValue
        ((if (digitChars n).length < 2 then ['0'] else []) ++
          digitChars n) =
      n := by
  split
  · rw [show ['0'] = List.replicate 1 '0' from rfl,
      digitsValue_zeros_append, digitsValue_digitChars]
  · rw [List.nil_append, digitsValue_digitChars]

/- An exponent reads back. -/
theorem readExponent?_exponentText (power : Option Int) :
    readExponent? (exponentText power) = some (power.getD 0) := by
  cases power with
  | none =>
      rfl
  | some lead =>
      have hDigits :
          isDigits
            ((if (digitChars lead.natAbs).length < 2 then ['0']
              else []) ++ digitChars lead.natAbs) = true := by
        unfold isDigits
        rw [Bool.and_eq_true]
        refine ⟨?_, List.all_eq_true.mpr fun c =>
          isDigit_of_mem_padded⟩
        simp [digitChars]
      rw [exponentText, readExponent?, if_pos (Or.inl rfl),
        splitSign_exponent]
      dsimp only
      rw [hDigits, if_pos rfl, digitsValue_padded, signedInt_natAbs]
      rfl

namespace Follows

variable {rest : List Char}

theorem takeWhile_isDigit
    (hFollows : Follows rest) :
    rest.takeWhile Char.isDigit = [] := by
  cases hFollows <;> rfl

theorem takeWhile_exponentText
    (hFollows : Follows rest)
    (power : Option Int) :
    (exponentText power ++ rest).takeWhile Char.isDigit = [] := by
  cases power with
  | none =>
      exact hFollows.takeWhile_isDigit
  | some lead =>
      rfl

theorem pointDigits_exponentText
    (hFollows : Follows rest)
    (power : Option Int) :
    pointDigits (exponentText power ++ rest) = [] := by
  cases power with
  | none =>
      cases hFollows <;> rfl
  | some lead =>
      rfl

/- The whole text of an exponent is taken for one. -/
theorem exponentLength_exponentText
    (hFollows : Follows rest)
    (power : Option Int) :
    exponentLength (exponentText power ++ rest) =
      (exponentText power).length := by
  cases power with
  | none =>
      cases hFollows <;> rfl
  | some lead =>
      rw [exponentText, List.cons_append, List.cons_append,
        exponentLength, if_pos (Or.inl rfl)]
      rw [splitSign_exponent]
      dsimp only
      rw [takeWhile_digits_append
        (fun c => isDigit_of_mem_padded)
        hFollows.takeWhile_isDigit, if_neg (by simp [digitChars])]
      simp only [List.length_cons, List.length_append]
      omega

end Follows

/- A number by its digits and the exponent it is written with. -/
theorem readNumber_spelled
    (negative : Bool)
    {whole part rest : List Char}
    (power : Option Int)
    (hWhole : IsWhole whole)
    (hPart : ∀ c ∈ part, c.isDigit = true)
    (hFollows : Follows rest)
    (hFraction : part ≠ [] ∨ power ≠ none) :
    readNumber
        (signText negative ++
          (whole ++ (pointText part ++
            (exponentText power ++ rest)))) =
      .ok (.number (ofDecimal negative (whole ++ part)
        (power.getD 0 - part.length)), rest) := by
  rw [readNumber_parts negative hWhole hPart
    (hFollows.takeWhile_exponentText power)
    (hFollows.pointDigits_exponentText power)
    (hFollows.exponentLength_exponentText power),
    readExponent?_exponentText, if_neg]
  · rfl
  · rintro ⟨hEmpty, hNone⟩
    rcases hFraction with hPart | hPower
    · exact hPart (List.isEmpty_iff.mp hEmpty)
    · cases power with
      | none =>
          exact hPower rfl
      | some lead =>
          simp [exponentText] at hNone

------------------------------------------------------------
-- Integers
------------------------------------------------------------

/- An integer that is not too long reads back. -/
theorem readNumber_intText
    (n : Int)
    {rest : List Char}
    (hLength : (digitChars n.natAbs).length ≤ digitLimit)
    (hFollows : Follows rest) :
    readNumber ((intText n).toList ++ rest) =
      .ok (.integer n, rest) := by
  have hWhole : IsWhole (digitChars n.natAbs) := by
    rcases Nat.eq_zero_or_pos n.natAbs with hZero | hPos
    · rw [hZero]
      exact .zero
    · exact .of_digitChars hPos
  have hRead :=
    readNumber_parts (decide (n < 0)) hWhole
      (fun _ hNone => absurd hNone List.not_mem_nil)
      (hFollows.takeWhile_exponentText none)
      (hFollows.pointDigits_exponentText none)
      (hFollows.exponentLength_exponentText none)
  rw [if_pos ⟨rfl, rfl⟩, if_neg (Nat.not_lt.mpr hLength),
    digitsValue_digitChars, signedInt_natAbs] at hRead
  rw [toList_intText, List.append_assoc]
  exact hRead

------------------------------------------------------------
-- Numbers of 64 Bits
------------------------------------------------------------

/- The exponent that the first digit of a decimal has. -/
def lead (d : Decimal) : Int :=
  d.exponent + (digitChars d.digits).length - 1

/-
  A decimal by its digits and the exponent it is written
  with: zeros may stand before its own digits and after them.
-/
structure Spells
    (d : Decimal)
    (whole part : List Char)
    (power : Option Int) : Prop where
  isWhole : IsWhole whole
  areDigits : ∀ c ∈ part, c.isDigit = true
  isFraction : part ≠ [] ∨ power ≠ none
  hasValue :
    ∃ before after : Nat,
      whole ++ part =
        List.replicate before '0' ++
          (digitChars d.digits ++ List.replicate after '0') ∧
      power.getD 0 - (part.length : Int) = d.exponent - after

theorem isDigit_of_mem_zeros
    {count : Nat}
    {c : Char}
    (hMember : c ∈ List.replicate count '0') :
    c.isDigit = true := by
  rw [List.eq_of_mem_replicate hMember]
  rfl

/- A decimal below one: a zero, a point and more zeros. -/
theorem spells_below
    {d : Decimal}
    (hBelow : lead d < 0) :
    Spells d ['0']
      (List.replicate (-lead d - 1).toNat '0' ++
        digitChars d.digits)
      none where
  isWhole := .zero
  areDigits := by
    intro c hMember
    rcases List.mem_append.mp hMember with hZero | hDigit
    · exact isDigit_of_mem_zeros hZero
    · exact isDigit_of_mem_digitChars hDigit
  isFraction := Or.inl (by simp [digitChars])
  hasValue := by
    refine ⟨(-lead d - 1).toNat + 1, 0, ?_, ?_⟩
    · simp [List.replicate_succ]
    · unfold lead at hBelow ⊢
      simp only [List.length_append, List.length_replicate]
      simp
      omega

/- A decimal without digits after the point. -/
theorem spells_whole
    {d : Decimal}
    (hPos : 0 < d.digits)
    (hExponent : 0 ≤ d.exponent) :
    Spells d
      (digitChars d.digits ++
        List.replicate d.exponent.toNat '0')
      ['0'] none where
  isWhole := by
    rcases exists_digitChars_eq_cons hPos with
      ⟨first, rest, hDigits, _, hFirst⟩
    have hAll :
        ∀ c ∈ digitChars d.digits ++
            List.replicate d.exponent.toNat '0',
          c.isDigit = true := by
      intro c hMember
      rcases List.mem_append.mp hMember with hDigit | hZero
      · exact isDigit_of_mem_digitChars hDigit
      · exact isDigit_of_mem_zeros hZero
    rw [hDigits, List.cons_append] at hAll ⊢
    exact .digits first _ hFirst hAll
  areDigits := by simp
  isFraction := Or.inl (by simp)
  hasValue := by
    refine ⟨0, d.exponent.toNat + 1, ?_, ?_⟩
    · simp [List.replicate_succ']
    · simp
      omega

/- A decimal with its point between two of its digits. -/
theorem spells_between
    {d : Decimal}
    (hPos : 0 < d.digits)
    (count : Nat)
    (hCount : 0 < count)
    (hShort : count < (digitChars d.digits).length)
    (power : Option Int)
    (hPower :
      power.getD 0 + count =
        d.exponent + (digitChars d.digits).length) :
    Spells d
      ((digitChars d.digits).take count)
      ((digitChars d.digits).drop count)
      power where
  isWhole := by
    have hAll :
        ∀ c ∈ (digitChars d.digits).take count,
          c.isDigit = true :=
      fun c hMember =>
        isDigit_of_mem_digitChars (List.mem_of_mem_take hMember)
    rcases exists_digitChars_eq_cons hPos with
      ⟨first, rest, hDigits, _, hFirst⟩
    obtain ⟨more, rfl⟩ := Nat.exists_eq_add_of_lt hCount
    rw [hDigits, List.take_succ_cons] at hAll ⊢
    exact .digits first _ hFirst hAll
  areDigits := fun c hMember =>
    isDigit_of_mem_digitChars (List.mem_of_mem_drop hMember)
  isFraction := Or.inl fun hEmpty => by
    rw [List.drop_eq_nil_iff] at hEmpty
    omega
  hasValue := by
    refine ⟨0, 0, ?_, ?_⟩
    · simp
    · rw [List.length_drop]
      omega

/- A decimal of one digit with an exponent. -/
theorem spells_single
    {d : Decimal}
    (hPos : 0 < d.digits)
    {first : Char}
    (hDigits : digitChars d.digits = [first]) :
    Spells d [first] [] (some (lead d)) where
  isWhole := hDigits ▸ .of_digitChars hPos
  areDigits := by simp
  isFraction := Or.inr (by simp)
  hasValue :=
    ⟨0, 0, by simp [hDigits], by simp [lead, hDigits]⟩

/- A decimal near one is written without an exponent. -/
theorem exists_spells_near
    {d : Decimal}
    (hPos : 0 < d.digits)
    (hNear : -4 ≤ lead d ∧ lead d < 16) :
    ∃ whole part,
      Spells d whole part none ∧
        d.chars =
          whole ++ (pointText part ++ exponentText none) := by
  unfold lead at hNear
  unfold Decimal.chars
  dsimp only
  rw [if_pos hNear]
  split
  · rename_i hBelow
    refine ⟨_, _, spells_below hBelow, ?_⟩
    simp [pointText, exponentText, digitChars, lead]
  · rename_i hAbove
    by_cases hExponent : 0 ≤ d.exponent
    · have hCount :
          (d.exponent + (digitChars d.digits).length - 1 +
              1).toNat =
            (digitChars d.digits).length +
              d.exponent.toNat := by
        omega
      have hTake :
          (digitChars d.digits ++
              List.replicate d.exponent.toNat '0').take
              ((digitChars d.digits).length +
                d.exponent.toNat) =
            digitChars d.digits ++
              List.replicate d.exponent.toNat '0' :=
        List.take_of_length_le (by simp)
      refine ⟨_, _, spells_whole hPos hExponent, ?_⟩
      rw [hCount, Nat.add_sub_cancel_left, hTake]
      simp [pointText, exponentText]
    · have hNoZeros :
          (d.exponent + (digitChars d.digits).length - 1 +
              1).toNat - (digitChars d.digits).length = 0 := by
        omega
      have hPart :
          ((digitChars d.digits).drop
            (d.exponent + (digitChars d.digits).length - 1 +
              1).toNat).isEmpty = false := by
        simp
        omega
      refine ⟨_, _, spells_between hPos
        (d.exponent + (digitChars d.digits).length - 1 +
          1).toNat (by omega) (by omega) none
        (by simp; omega), ?_⟩
      rw [hNoZeros, List.replicate_zero, List.append_nil]
      simp only [pointText, hPart, exponentText]
      simp

/- Any other decimal is written with an exponent. -/
theorem exists_spells_far
    {d : Decimal}
    (hPos : 0 < d.digits)
    (hFar : ¬ (-4 ≤ lead d ∧ lead d < 16)) :
    ∃ whole part,
      Spells d whole part (some (lead d)) ∧
        d.chars =
          whole ++
            (pointText part ++ exponentText (some (lead d))) := by
  unfold Decimal.chars
  dsimp only
  split
  · rename_i hNear
    exact absurd hNear hFar
  split
  · rename_i hEmpty
    simp [digitChars] at hEmpty
  · rename_i first hDigits
    refine ⟨_, _, spells_single hPos hDigits, ?_⟩
    simp [pointText, exponentText, lead, hDigits]
  · rename_i first rest hMany hDigits
    have hLong : 1 < (digitChars d.digits).length := by
      rw [hDigits, List.length_cons]
      exact Nat.succ_lt_succ (List.length_pos_iff.mpr hMany)
    have hPart :
        ((digitChars d.digits).drop 1).isEmpty = false := by
      rw [hDigits]
      exact List.isEmpty_eq_false_iff.mpr hMany
    refine ⟨_, _, spells_between hPos 1 Nat.one_pos hLong
      (some (lead d)) (by simp [lead]), ?_⟩
    rw [pointText, hPart]
    simp [exponentText, lead, hDigits]

/- Every decimal is written in one of these ways. -/
theorem exists_spells
    {d : Decimal}
    (hPos : 0 < d.digits) :
    ∃ whole part power,
      Spells d whole part power ∧
        d.chars =
          whole ++ (pointText part ++ exponentText power) := by
  by_cases hNear : -4 ≤ lead d ∧ lead d < 16
  · rcases exists_spells_near hPos hNear with
      ⟨whole, part, hSpells, hChars⟩
    exact ⟨whole, part, none, hSpells, hChars⟩
  · rcases exists_spells_far hPos hNear with
      ⟨whole, part, hSpells, hChars⟩
    exact ⟨whole, part, some (lead d), hSpells, hChars⟩

/- The way in which the decimal of a place is written. -/
theorem exists_spells_ofCode
    {code : Fin (infinityCode + 1)}
    (hZero : code.val ≠ 0) :
    ∃ whole part power,
      Spells (Shortest.ofCode code.val) whole part power ∧
        Binary64.codeChars code.val =
          whole ++ (pointText part ++ exponentText power) := by
  have hBack :=
    Shortest.nearestCode_ofCode (Nat.le_of_lt_succ code.isLt)
  rw [Binary64.codeChars, if_neg hZero]
  exact exists_spells (Decimal.digits_pos (by rwa [hBack]))

/- A finite number reads back. -/
theorem readNumber_signed
    (negative : Bool)
    {code : Fin (infinityCode + 1)}
    {rest : List Char}
    (hFinite : code.val < infinityCode)
    (hFollows : Follows rest) :
    readNumber
        (signText negative ++
          (Binary64.codeChars code.val ++ rest)) =
      .ok (.number (.signed negative code), rest) := by
  by_cases hZero : code.val = 0
  · have hChars :
        Binary64.codeChars code.val =
          ['0'] ++ (pointText ['0'] ++ exponentText none) := by
      rw [Binary64.codeChars, if_pos hZero]
      rfl
    have hRead :
        ofDecimal negative (['0'] ++ ['0']) (0 - 1) =
          .signed negative code := by
      have hCode : code = ⟨0, by decide⟩ := Fin.ext hZero
      rw [hCode]
      rfl
    rw [hChars, List.append_assoc, List.append_assoc,
      readNumber_spelled negative none .zero (by simp) hFollows
        (Or.inl (by simp))]
    simpa using hRead
  · rcases exists_spells_ofCode hZero with
      ⟨whole, part, power, hSpells, hChars⟩
    rcases hSpells.hasValue with
      ⟨before, after, hDigits, hExponent⟩
    rw [hChars, List.append_assoc, List.append_assoc,
      readNumber_spelled negative power hSpells.isWhole
        hSpells.areDigits hFollows hSpells.isFraction,
      hDigits, hExponent,
      ofDecimal_ofCode negative code hZero hFinite]

end Json

end Replay
