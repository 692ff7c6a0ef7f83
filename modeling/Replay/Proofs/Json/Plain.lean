import Replay.Proofs.Json.Value

/-
  This file proves that a JSON text holds nothing but ASCII
  characters that can be shown, and line feeds.

  Key definitions include:
    * `Json.IsPlain`

  Main results:
    * `Json.isPlain_writeValue`
    * `Json.not_mem_of_isPlain`
-/

------------------------------------------------------------
-- Plain Characters
------------------------------------------------------------

namespace Replay

namespace Json

open Number Text

/- A line feed, or an ASCII character that can be shown. -/
def IsPlain (c : Char) : Prop :=
  c = '\n' ∨ 32 ≤ c.toNat ∧ c.toNat < 127

instance (c : Char) : Decidable (IsPlain c) :=
  inferInstanceAs (Decidable (_ ∨ _))

/- The check of a fixed text, one character at a time. -/
theorem isPlain_of_all
    {s : List Char}
    (hAll : s.all (fun c => decide (IsPlain c)) = true)
    {c : Char}
    (hMember : c ∈ s) :
    IsPlain c :=
  of_decide_eq_true (List.all_eq_true.mp hAll c hMember)

theorem isPlain_of_isDigit
    {c : Char}
    (hDigit : c.isDigit = true) :
    IsPlain c := by
  have hBounds := Char.isDigit_iff_toNat.mp hDigit
  have hLow : 48 ≤ c.toNat := hBounds.1
  have hHigh : c.toNat ≤ 57 := hBounds.2
  exact Or.inr ⟨by omega, by omega⟩

/- Each of the sixteen digits is plain. -/
theorem isPlain_hexDigit (n : Nat) :
    IsPlain (hexDigit (n % 16)) := by
  have hSmall := Nat.mod_lt n (show 0 < 16 by decide)
  generalize n % 16 = digit at hSmall
  interval_cases digit <;> decide

theorem isPlain_hexDigits
    {width n : Nat}
    {c : Char}
    (hMember : c ∈ hexDigits width n) :
    IsPlain c := by
  induction width generalizing n with
  | zero =>
      cases hMember
  | succ width ih =>
      rcases List.mem_append.mp hMember with hFirst | hLast
      · exact ih hFirst
      · rw [List.mem_singleton.mp hLast]
        exact isPlain_hexDigit n

/- An escape is a backslash, a letter and digits. -/
theorem isPlain_escapeUnit
    {code : Nat}
    {c : Char}
    (hMember : c ∈ escapeUnit code) :
    IsPlain c := by
  rcases List.mem_cons.mp hMember with rfl | hRest
  · decide
  · rcases List.mem_cons.mp hRest with rfl | hDigit
    · decide
    · exact isPlain_hexDigits hDigit

/- A character is written as itself only if it is plain. -/
theorem isPlain_writeChar
    {original c : Char}
    (hMember : c ∈ writeChar original) :
    IsPlain c := by
  have hPair
      {first second : Char}
      (hFirst : IsPlain first)
      (hSecond : IsPlain second)
      (hIn : c ∈ [first, second]) :
      IsPlain c := by
    rcases List.mem_pair.mp hIn with rfl | rfl
    · exact hFirst
    · exact hSecond
  unfold writeChar at hMember
  split at hMember
  · exact hPair (by decide) (by decide) hMember
  split at hMember
  · exact hPair (by decide) (by decide) hMember
  split at hMember
  · exact hPair (by decide) (by decide) hMember
  split at hMember
  · exact hPair (by decide) (by decide) hMember
  split at hMember
  · exact hPair (by decide) (by decide) hMember
  split at hMember
  · exact hPair (by decide) (by decide) hMember
  split at hMember
  · exact hPair (by decide) (by decide) hMember
  split at hMember
  · rename_i hShown
    rw [List.mem_singleton.mp hMember]
    exact Or.inr hShown
  · unfold escapeCode at hMember
    split at hMember
    · exact isPlain_escapeUnit hMember
    · rcases List.mem_append.mp hMember with hHigh | hLow
      · exact isPlain_escapeUnit hHigh
      · exact isPlain_escapeUnit hLow

------------------------------------------------------------
-- Plain Texts
------------------------------------------------------------

/- A half of a pair is always written as an escape. -/
theorem isPlain_writePoint
    {original : CodePoint}
    {c : Char}
    (hMember : c ∈ writePoint original) :
    IsPlain c := by
  cases original with
  | char original =>
      exact isPlain_writeChar hMember
  | half place =>
      exact isPlain_escapeUnit hMember

/- A string is plain between its quotation marks, too. -/
theorem isPlain_writeString
    {s : Text}
    {c : Char}
    (hMember : c ∈ writeString s) :
    IsPlain c := by
  rcases List.mem_cons.mp hMember with rfl | hRest
  · decide
  · rcases List.mem_append.mp hRest with hBody | hEnd
    · rcases List.mem_flatMap.mp hBody with ⟨_, _, hChar⟩
      exact isPlain_writePoint hChar
    · rw [List.mem_singleton.mp hEnd]
      decide

theorem isPlain_signText
    {negative : Bool}
    {c : Char}
    (hMember : c ∈ signText negative) :
    IsPlain c := by
  cases negative with
  | false =>
      cases hMember
  | true =>
      rw [List.mem_singleton.mp hMember]
      decide

/- An exponent has a letter, a sign and digits. -/
theorem isPlain_exponentText
    {power : Option Int}
    {c : Char}
    (hMember : c ∈ exponentText power) :
    IsPlain c := by
  cases power with
  | none =>
      cases hMember
  | some lead =>
      rcases List.mem_cons.mp hMember with rfl | hRest
      · decide
      · rcases List.mem_cons.mp hRest with rfl | hDigit
        · split <;> decide
        · exact isPlain_of_isDigit (isDigit_of_mem_padded hDigit)

theorem isPlain_pointText
    {part : List Char}
    (hPart : ∀ c ∈ part, c.isDigit = true)
    {c : Char}
    (hMember : c ∈ pointText part) :
    IsPlain c := by
  unfold pointText at hMember
  split at hMember
  · cases hMember
  · rcases List.mem_cons.mp hMember with rfl | hDigit
    · decide
    · exact isPlain_of_isDigit (hPart c hDigit)

theorem isDigit_of_mem_whole
    {whole : List Char}
    (hWhole : IsWhole whole)
    {c : Char}
    (hMember : c ∈ whole) :
    c.isDigit = true := by
  cases hWhole with
  | zero =>
      rw [List.mem_singleton.mp hMember]
      rfl
  | digits first rest _ hDigits =>
      exact hDigits c hMember

/- A number that is finite is spelled with plain characters. -/
theorem isPlain_codeChars
    {code : Fin (infinityCode + 1)}
    {c : Char}
    (hMember : c ∈ Binary64.codeChars code.val) :
    IsPlain c := by
  by_cases hZero : code.val = 0
  · rw [Binary64.codeChars, if_pos hZero] at hMember
    exact isPlain_of_all (by decide) hMember
  · rcases exists_spells_ofCode hZero with
      ⟨whole, part, power, hSpells, hChars⟩
    rw [hChars] at hMember
    rcases List.mem_append.mp hMember with hWhole | hRest
    · exact isPlain_of_isDigit
        (isDigit_of_mem_whole hSpells.isWhole hWhole)
    · rcases List.mem_append.mp hRest with hPart | hPower
      · exact isPlain_pointText hSpells.areDigits hPart
      · exact isPlain_exponentText hPower

/- The words for the other numbers are plain as well. -/
theorem isPlain_writeNumber
    {x : Binary64}
    {c : Char}
    (hMember : c ∈ (writeNumber x).toList) :
    IsPlain c := by
  cases x with
  | nan =>
      exact isPlain_of_all (by decide) hMember
  | signed negative code =>
      by_cases hFinite : code.val < infinityCode
      · rw [toList_writeNumber negative hFinite] at hMember
        rcases List.mem_append.mp hMember with hSign | hCode
        · exact isPlain_signText hSign
        · exact isPlain_codeChars hCode
      · rw [writeNumber, if_neg hFinite] at hMember
        cases negative with
        | false =>
            exact isPlain_of_all (by decide) hMember
        | true =>
            exact isPlain_of_all (by decide) hMember

theorem isPlain_intText
    {n : Int}
    {c : Char}
    (hMember : c ∈ (intText n).toList) :
    IsPlain c := by
  rw [toList_intText] at hMember
  rcases List.mem_append.mp hMember with hSign | hDigit
  · exact isPlain_signText hSign
  · exact isPlain_of_isDigit (isDigit_of_mem_digitChars hDigit)

------------------------------------------------------------
-- Layout
------------------------------------------------------------

/- A new line is a line feed and blanks. -/
theorem isPlain_newLine
    {level : Nat}
    {c : Char}
    (hMember : c ∈ newLine level) :
    IsPlain c := by
  rcases List.mem_cons.mp hMember with rfl | hBlank
  · decide
  · rw [List.eq_of_mem_replicate hBlank]
    decide

/- Brackets around plain pieces are plain. -/
theorem isPlain_enclose
    {first last : Char}
    (hFirst : IsPlain first)
    (hLast : IsPlain last)
    {level : Nat}
    {pieces : List (List Char)}
    (hPieces : ∀ piece ∈ pieces, ∀ c ∈ piece, IsPlain c)
    {c : Char}
    (hMember : c ∈ enclose first last level pieces) :
    IsPlain c := by
  by_cases hEmpty : pieces = []
  · rw [hEmpty] at hMember
    rcases List.mem_pair.mp hMember with rfl | rfl
    · exact hFirst
    · exact hLast
  · have hText := enclose_append first last level hEmpty []
    rw [List.append_nil] at hText
    rw [hText] at hMember
    simp only [List.mem_cons, List.mem_append, separator]
      at hMember
    rcases hMember with rfl | hLine | hJoined | hEnd
    · exact hFirst
    · exact isPlain_newLine hLine
    · rcases mem_intercalate hJoined with hMark | hPiece
      · rcases List.mem_cons.mp hMark with rfl | hBreak
        · decide
        · exact isPlain_newLine hBreak
      · rcases hPiece with ⟨piece, hIn, hChar⟩
        exact hPieces piece hIn c hChar
    · rcases hEnd with hLine | hClose
      · exact isPlain_newLine hLine
      · simp only [List.not_mem_nil, or_false] at hClose
        rw [hClose]
        exact hLast

mutual

/- A value is written in plain characters. -/
theorem isPlain_writeValue
    (level : Nat)
    (value : Value)
    (c : Char)
    (hMember : c ∈ writeValue level value) :
    IsPlain c := by
  match value, hMember with
  | .null, hIn =>
      exact isPlain_of_all (s := "null".toList) (by decide) hIn
  | .boolean true, hIn =>
      exact isPlain_of_all (s := "true".toList) (by decide) hIn
  | .boolean false, hIn =>
      exact isPlain_of_all (s := "false".toList) (by decide) hIn
  | .integer n, hIn =>
      exact isPlain_intText hIn
  | .number x, hIn =>
      exact isPlain_writeNumber hIn
  | .text s, hIn =>
      exact isPlain_writeString hIn
  | .list items, hIn =>
      exact isPlain_enclose (by decide) (by decide)
        (isPlain_writeItems (level + 1) items) hIn
  | .object fields, hIn =>
      exact isPlain_enclose (by decide) (by decide)
        (isPlain_writeFields (level + 1) fields) hIn

/- So is every item of a list. -/
theorem isPlain_writeItems
    (level : Nat)
    (items : List Value)
    (piece : List Char)
    (hPiece : piece ∈ writeItems level items)
    (c : Char)
    (hMember : c ∈ piece) :
    IsPlain c := by
  match items, hPiece with
  | item :: more, hIn =>
      rcases List.mem_cons.mp hIn with rfl | hLater
      · exact isPlain_writeValue level item c hMember
      · exact isPlain_writeItems level more piece hLater c
          hMember

/- So is every field, with its name and its colon. -/
theorem isPlain_writeFields
    (level : Nat)
    (fields : List (String × Value))
    (piece : List Char)
    (hPiece : piece ∈ writeFields level fields)
    (c : Char)
    (hMember : c ∈ piece) :
    IsPlain c := by
  match fields, hPiece with
  | (name, value) :: more, hIn =>
      rcases List.mem_cons.mp hIn with rfl | hLater
      · simp only [List.mem_append, List.mem_cons] at hMember
        rcases hMember with hName | rfl | rfl | hValue
        · exact isPlain_writeString hName
        · decide
        · decide
        · exact isPlain_writeValue level value c hValue
      · exact isPlain_writeFields level more piece hLater c
          hMember

end

------------------------------------------------------------
-- Line Ends
------------------------------------------------------------

/- No plain text has a carriage return. -/
theorem not_mem_of_isPlain
    {s : List Char}
    (hPlain : ∀ c ∈ s, IsPlain c) :
    '\r' ∉ s :=
  fun hReturn => absurd (hPlain '\r' hReturn) (by decide)

end Json

end Replay
