import Replay.Text.Utf8

/-
  This file proves which rows of bytes are the UTF-8 of a
  text, and where such a row can be cut into texts again.

  Key definitions include:
    * `Utf8.bytesOf`
    * `Utf8.IsText`

  Main results:
    * `Utf8.decode_bytesOf`
    * `Utf8.exists_error_of_not_isText`
    * `Utf8.isText_append_iff`
    * `Utf8.isText_piece_iff`
    * `Utf8.isInfix_bytesOf_iff`
-/

------------------------------------------------------------
-- Rows of Bytes
------------------------------------------------------------

namespace Replay

namespace Text

namespace Utf8

/- The bytes of a text, as a row. -/
def bytesOf (s : String) : List UInt8 :=
  (encode s).data.toList

/- A row of bytes that a text has. -/
def IsText (bytes : List UInt8) : Prop :=
  ∃ s, bytesOf s = bytes

theorem toArray_bytesOf (s : String) :
    ByteArray.mk (bytesOf s).toArray = s.toByteArray := rfl

theorem bytesOf_append (s t : String) :
    bytesOf (s ++ t) = bytesOf s ++ bytesOf t := by
  simp [bytesOf, encode, String.toUTF8_eq_toByteArray]

theorem bytesOf_injective
    {s t : String}
    (hSame : bytesOf s = bytesOf t) :
    s = t := by
  rw [← String.toByteArray_inj, ← toArray_bytesOf,
    ← toArray_bytesOf, hSame]

theorem isText_iff (bytes : List UInt8) :
    IsText bytes ↔ (ByteArray.mk bytes.toArray).IsValidUTF8 := by
  constructor
  · rintro ⟨s, rfl⟩
    exact s.isValidUTF8
  · intro hValid
    exact ⟨String.ofByteArray _ hValid, rfl⟩

/- A text is read back from its bytes. -/
theorem decode_bytesOf (s : String) :
    decode ⟨(bytesOf s).toArray⟩ = .ok s := by
  unfold decode String.fromUTF8?
  rw [dif_pos ((isText_iff _).mp ⟨s, rfl⟩)]
  rfl

/- Other bytes are not read. -/
theorem exists_error_of_not_isText
    {bytes : List UInt8}
    (hText : ¬IsText bytes) :
    ∃ failure, decode ⟨bytes.toArray⟩ = .error failure := by
  unfold decode String.fromUTF8?
  rw [dif_neg (mt (isText_iff bytes).mpr hText)]
  exact ⟨_, rfl⟩

------------------------------------------------------------
-- Cuts
------------------------------------------------------------

theorem isText_nil :
    IsText [] :=
  ⟨"", rfl⟩

/- Texts one after another are a text. -/
theorem IsText.append
    {front back : List UInt8}
    (hFront : IsText front)
    (hBack : IsText back) :
    IsText (front ++ back) := by
  rcases hFront with ⟨s, rfl⟩
  rcases hBack with ⟨t, rfl⟩
  exact ⟨s ++ t, bytesOf_append s t⟩

/- A piece of the bytes of a text, by the offsets of its ends. -/
theorem extract_bytesOf
    {s : String}
    {front piece back : List UInt8}
    (hBytes : bytesOf s = front ++ piece ++ back) :
    s.toByteArray.extract front.length (front ++ piece).length =
      ⟨piece.toArray⟩ := by
  rw [← toArray_bytesOf, hBytes]
  ext1
  simp

/- The start of a text is a text if it ends between characters. -/
theorem isValid_iff_isText
    {s : String}
    {front back : List UInt8}
    (hBytes : bytesOf s = front ++ back) :
    String.Pos.Raw.IsValid s ⟨front.length⟩ ↔ IsText front := by
  have hFront :
      s.toByteArray.extract 0 front.length = ⟨front.toArray⟩ :=
    @extract_bytesOf s [] front back (by simpa using hBytes)
  have hBound : front.length ≤ s.toByteArray.size := by
    rw [← toArray_bytesOf, hBytes]
    simp [ByteArray.size]
  rw [String.Pos.Raw.isValid_iff_isValidUTF8_extract_zero, hFront,
    isText_iff]
  constructor
  · exact And.right
  · intro hValid
    exact ⟨by simpa [String.Pos.Raw.le_iff] using hBound, hValid⟩

/-
  A piece of a text is a text itself exactly if both of its
  ends fall between characters.
-/
theorem isText_piece_iff
    {front piece back : List UInt8}
    (hWhole : IsText (front ++ piece ++ back)) :
    IsText piece ↔
      piece = [] ∨ IsText front ∧ IsText (front ++ piece) := by
  rcases hWhole with ⟨s, hBytes⟩
  have hStart :
      bytesOf s = front ++ (piece ++ back) := by
    rw [hBytes, List.append_assoc]
  have hBound : (front ++ piece).length ≤ s.toByteArray.size := by
    rw [← toArray_bytesOf, hBytes]
    simp [ByteArray.size]
  rw [isText_iff piece, ← extract_bytesOf hBytes,
    String.Pos.Raw.isValidUTF8_extract_iff
      ⟨front.length⟩ ⟨(front ++ piece).length⟩
      (by simp [String.Pos.Raw.le_iff])
      (by simpa [String.Pos.Raw.le_iff] using hBound),
    isValid_iff_isText hStart, isValid_iff_isText hBytes]
  simp

/- What follows a text is a text if both together are. -/
theorem isText_append_iff
    {front back : List UInt8}
    (hFront : IsText front) :
    IsText (front ++ back) ↔ IsText back := by
  constructor
  · intro hWhole
    have hEnd : IsText (front ++ back ++ []) := by
      rwa [List.append_nil]
    exact (isText_piece_iff hEnd).mpr (Or.inr ⟨hFront, hWhole⟩)
  · exact hFront.append

------------------------------------------------------------
-- Texts within Texts
------------------------------------------------------------

/-
  A text stands in another one exactly if its bytes stand in
  those of the other one.
-/
theorem isInfix_bytesOf_iff
    {s t : String}
    (hSome : t ≠ "") :
    bytesOf t <:+: bytesOf s ↔ t.toList <:+: s.toList := by
  constructor
  · rintro ⟨front, back, hBytes⟩
    have hPiece : bytesOf t ≠ [] := by
      intro hNil
      exact hSome (bytesOf_injective hNil)
    have hWhole : IsText (front ++ bytesOf t ++ back) :=
      ⟨s, hBytes.symm⟩
    rcases (isText_piece_iff hWhole).mp ⟨t, rfl⟩ with
      hNil | ⟨⟨before, rfl⟩, hStart⟩
    · exact absurd hNil hPiece
    · rcases (isText_append_iff hStart).mp hWhole with ⟨after, rfl⟩
      refine ⟨before.toList, after.toList, ?_⟩
      rw [← String.toList_append, ← String.toList_append]
      congr 1
      apply bytesOf_injective
      rw [bytesOf_append, bytesOf_append, hBytes]
  · rintro ⟨before, after, hChars⟩
    refine ⟨bytesOf (String.ofList before),
      bytesOf (String.ofList after), ?_⟩
    rw [← bytesOf_append, ← bytesOf_append]
    congr 1
    apply String.toList_injective
    rw [String.toList_append, String.toList_append,
      String.toList_ofList, String.toList_ofList, hChars]

/- The byte of a plain character. -/
theorem bytesOf_singleton_of_lt
    {c : Char}
    (hPlain : c.toNat < 128) :
    bytesOf (String.ofList [c]) = [UInt8.ofNat c.toNat] := by
  simp [bytesOf, encode, String.toUTF8_eq_toByteArray,
    List.utf8Encode_singleton, String.utf8EncodeChar]
  omega

/- Small bytes are plain characters, one each. -/
theorem isText_of_lt
    {bytes : List UInt8}
    (hPlain : ∀ b ∈ bytes, b.toNat < 128) :
    IsText bytes := by
  induction bytes with
  | nil =>
      exact isText_nil
  | cons b rest ih =>
      have hFirst := hPlain b List.mem_cons_self
      have hChar : (Char.ofNat b.toNat).toNat = b.toNat := by
        rw [Char.ofNat, dif_pos (Or.inl (by omega))]
        rfl
      have hSmall : (Char.ofNat b.toNat).toNat < 128 := by
        omega
      have hByte : IsText [b] := by
        refine ⟨String.ofList [Char.ofNat b.toNat], ?_⟩
        rw [bytesOf_singleton_of_lt hSmall, hChar,
          UInt8.ofNat_toNat]
      exact hByte.append
        (ih fun other hOther =>
          hPlain other (List.mem_cons_of_mem _ hOther))

end Utf8

end Text

end Replay
