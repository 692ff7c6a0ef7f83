import Mathlib.Data.List.Chain
import Replay.Text.CodePoint

/-
  This file proves how texts and strings are related: the
  text of a string is a row of characters, and the strings
  are exactly the texts without halves of surrogate pairs.
  In an unpaired text no two halves in a row make a pair.

  Key definitions include:
    * `Text.IsWhole`
    * `Text.IsUnpaired`

  Main results:
    * `CodePoint.ofCode_code`
    * `Text.ofString_append`
    * `Text.ofString_inj`
    * `Text.toString?_ofString`
    * `Text.toString?_eq_some_iff`
    * `Text.isWhole_iff`
-/

------------------------------------------------------------
-- Code Points
------------------------------------------------------------

namespace Replay

namespace CodePoint

/- The number of a code point tells which one it is. -/
theorem ofCode_code (c : CodePoint) :
    ofCode c.code = c := by
  cases c with
  | char c =>
      have hValid := c.valid
      have hWhole : ¬(0xD800 ≤ c.toNat ∧ c.toNat < 0xE000) := by
        rcases hValid with hLow | hHigh
        · exact fun hHalf => Nat.not_le_of_lt hLow hHalf.1
        · exact fun hHalf => by
            have := hHigh.1
            change 0xDFFF < c.toNat at this
            omega
      rw [code, ofCode, dif_neg hWhole, Char.ofNat_toNat]
  | half place =>
      have hHalf :
          0xD800 ≤ 0xD800 + place.val ∧
            0xD800 + place.val < 0xE000 :=
        ⟨Nat.le_add_right _ _,
          Nat.add_lt_add_left place.isLt 0xD800⟩
      rw [code, ofCode, dif_pos hHalf]
      exact congrArg half
        (Fin.ext (Nat.add_sub_cancel_left _ place.val))

/- Which numbers are those of halves. -/
theorem ofCode_eq_half_iff
    {n : Nat}
    {place : Fin 2048} :
    ofCode n = half place ↔ n = 0xD800 + place.val := by
  constructor
  · intro hHalf
    have hCode := congrArg code hHalf
    unfold ofCode at hHalf hCode
    split at hHalf
    · rename_i hRange
      rw [dif_pos hRange] at hCode
      simp only [code] at hCode
      omega
    · cases hHalf
  · rintro rfl
    exact ofCode_code (half place)

/- Different code points have different numbers. -/
theorem code_injective : Function.Injective code :=
  Function.LeftInverse.injective ofCode_code

@[simp]
theorem isIn_char
    (p : Char → Bool)
    (c : Char) :
    (char c).isIn p = p c :=
  rfl

@[simp]
theorem isIn_half
    (p : Char → Bool)
    (place : Fin 2048) :
    (half place).isIn p = false :=
  rfl

end CodePoint

------------------------------------------------------------
-- Texts of Strings
------------------------------------------------------------

namespace Text

@[simp]
theorem ofString_empty : ofString "" = [] :=
  rfl

@[simp]
theorem ofString_append
    (s t : String) :
    ofString (s ++ t) = ofString s ++ ofString t := by
  simp [ofString]

@[simp]
theorem ofString_ofList (chars : List Char) :
    ofString (String.ofList chars) = chars.map .char := by
  simp [ofString]

/- Different strings have different texts. -/
theorem ofString_injective : Function.Injective ofString := by
  intro s t hSame
  have hChars :=
    List.map_injective_iff.mpr (fun _ _ => CodePoint.char.inj)
      hSame
  exact String.toList_inj.mp hChars

@[simp]
theorem ofString_inj
    {s t : String} :
    ofString s = ofString t ↔ s = t :=
  ofString_injective.eq_iff

@[simp]
theorem ofString_eq_nil_iff
    {s : String} :
    ofString s = [] ↔ s = "" :=
  ofString_injective.eq_iff' rfl

------------------------------------------------------------
-- Whole Texts
------------------------------------------------------------

/- Every code point of a text is a character. -/
def IsWhole (s : Text) : Prop :=
  ∀ c ∈ s, ∃ ch, c = .char ch

/- A row of characters is read back as it is. -/
theorem mapM_char?_map_char (chars : List Char) :
    (chars.map CodePoint.char).mapM CodePoint.char? =
      some chars := by
  induction chars with
  | nil =>
      rfl
  | cons c rest ih =>
      rw [List.map_cons, List.mapM_cons, ih]
      rfl

/- A string is read back from its text. -/
@[simp]
theorem toString?_ofString (s : String) :
    (ofString s).toString? = some s := by
  rw [toString?, ofString, mapM_char?_map_char, Option.map_some,
    String.ofList_toList]

/- A text that is a string is the text of that string. -/
theorem toString?_eq_some_iff
    {s : Text}
    {string : String} :
    s.toString? = some string ↔ s = ofString string := by
  refine ⟨?_, fun hText => hText ▸ toString?_ofString string⟩
  intro hString
  rcases Option.map_eq_some_iff.mp hString with
    ⟨chars, hChars, rfl⟩
  rw [ofString_ofList]
  clear hString
  induction s generalizing chars with
  | nil =>
      cases hChars
      rfl
  | cons c rest ih =>
      rw [List.mapM_cons] at hChars
      cases c with
      | half place =>
          cases hChars
      | char c =>
          rcases Option.bind_eq_some_iff.mp hChars with
            ⟨_, ⟨⟩, hRest⟩
          rcases Option.bind_eq_some_iff.mp hRest with
            ⟨more, hMore, hAll⟩
          cases hAll
          rw [List.map_cons, ← ih more hMore]

/- The whole texts are the texts of strings. -/
theorem isWhole_iff
    {s : Text} :
    s.IsWhole ↔ ∃ string, s = ofString string := by
  constructor
  · intro hWhole
    induction s with
    | nil =>
        exact ⟨"", rfl⟩
    | cons c rest ih =>
        rcases hWhole c List.mem_cons_self with ⟨ch, rfl⟩
        rcases ih fun other hOther =>
          hWhole other (List.mem_cons_of_mem _ hOther) with
          ⟨string, rfl⟩
        exact ⟨String.ofList (ch :: string.toList), by
          rw [ofString_ofList, List.map_cons]
          rfl⟩
  · rintro ⟨string, rfl⟩ c hMember
    rcases List.mem_map.mp hMember with ⟨ch, _, rfl⟩
    exact ⟨ch, rfl⟩

/- The string where marks stand for halves, if there are none. -/
@[simp]
theorem replaced_ofString (s : String) :
    (ofString s).replaced = s := by
  have hChars (chars : List Char) :
      (chars.map CodePoint.char).flatMap CodePoint.replaced =
        chars := by
    induction chars with
    | nil =>
        rfl
    | cons c rest ih =>
        rw [List.map_cons, List.flatMap_cons, ih]
        rfl
  rw [replaced, ofString, hChars, String.ofList_toList]

------------------------------------------------------------
-- Pairs
------------------------------------------------------------

/- One code point and the next are the halves of a pair. -/
def JoinsWith : CodePoint → CodePoint → Prop
  | .half high, .half low => high.val < 1024 ∧ 1024 ≤ low.val
  | _, _ => False

/- No two halves in a row are those of a pair. -/
def IsUnpaired (s : Text) : Prop :=
  s.IsChain fun first second => ¬JoinsWith first second

/- A text of characters has no halves that could be a pair. -/
theorem IsWhole.isUnpaired
    {s : Text}
    (hWhole : s.IsWhole) :
    s.IsUnpaired := by
  induction s with
  | nil =>
      exact List.isChain_nil
  | cons c rest ih =>
      rcases hWhole c List.mem_cons_self with ⟨ch, rfl⟩
      exact List.isChain_cons.mpr ⟨fun _ _ => id,
        ih fun other hOther =>
          hWhole other (List.mem_cons_of_mem _ hOther)⟩

/- The text of a string has no halves, so none in pairs. -/
theorem isUnpaired_ofString (s : String) :
    (ofString s).IsUnpaired :=
  (isWhole_iff.mpr ⟨s, rfl⟩).isUnpaired

end Text

end Replay
