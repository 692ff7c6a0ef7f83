import Replay.Proofs.Json.Number
import Replay.Proofs.Json.Text
import Replay.Proofs.Text.Pieces

/-
  This file proves how the parts of a JSON text that are not
  enclosed read back.

  Key definitions include:
    * `Json.Value.document`
    * `Json.Value.IsReadable`
    * `Json.Begins`

  Main results:
    * `Json.readValue_writeNumber`
    * `Json.readValue_writeString`
    * `Json.begins_writeValue`
-/

------------------------------------------------------------
-- Values as Documents
------------------------------------------------------------

namespace Replay

namespace Json

open Number Text

namespace Value

mutual

/- The document that a value stands for. -/
def document : Value → Document
  | .null => .scalar .null
  | .boolean b => .scalar (.boolean b)
  | .integer n => .scalar (.integer n)
  | .number x => .scalar (.number x)
  | .text s => .scalar (.text s)
  | .list items => .sequence (documents items)
  | .object fields => .mapping (entries fields)

/- The documents of the items of a list. -/
def documents : List Value → List Document
  | [] => []
  | item :: rest => item.document :: documents rest

/- The entries of the fields of an object. -/
def entries : List (String × Value) → List (Scalar × Document)
  | [] => []
  | (name, value) :: rest =>
    (.text name, value.document) :: entries rest

end

mutual

/-
  A value that reads back: its integers are not too long, no
  two halves in a row of its texts make a pair, and no object
  has a field twice.
-/
def IsReadable : Value → Prop
  | .integer n => (digitChars n.natAbs).length ≤ digitLimit
  | .text s => s.IsUnpaired
  | .list items => AreReadable items
  | .object fields =>
    (fields.map Prod.fst).Nodup ∧ HaveReadable fields
  | _ => True

/- Every item reads back. -/
def AreReadable : List Value → Prop
  | [] => True
  | item :: rest => item.IsReadable ∧ AreReadable rest

/- The value of every field reads back. -/
def HaveReadable : List (String × Value) → Prop
  | [] => True
  | (_, value) :: rest => value.IsReadable ∧ HaveReadable rest

end

end Value

------------------------------------------------------------
-- Entries
------------------------------------------------------------

/- A text that is no key yet comes last. -/
theorem put_of_not_mem
    {α : Type}
    (entries : List (Scalar × α))
    (name : Text)
    (value : α)
    (hNew : ∀ entry ∈ entries, entry.1 ≠ .text name)
    (hTexts : ∀ entry ∈ entries, ∃ s, entry.1 = .text s) :
    Document.put entries (.text name) value =
      entries ++ [(.text name, value)] := by
  induction entries with
  | nil =>
      rfl
  | cons entry rest ih =>
      rcases entry with ⟨key, other⟩
      obtain ⟨s, rfl⟩ := hTexts (key, other) List.mem_cons_self
      have hOther :
          Scalar.sameKey (.text s) (.text name) = false := by
        rw [Scalar.sameKey]
        exact beq_eq_false_iff_ne.mpr
          (hNew (.text s, other) List.mem_cons_self)
      rw [Document.put, if_neg (by simp [hOther]),
        ih (fun e hMember =>
            hNew e (List.mem_cons_of_mem _ hMember))
          (fun e hMember =>
            hTexts e (List.mem_cons_of_mem _ hMember))]
      rfl

------------------------------------------------------------
-- White Space
------------------------------------------------------------

/- A text that begins neither with a blank nor with a `]`. -/
def Begins (s : List Char) : Prop :=
  ∃ c rest, s = c :: rest ∧ isSpace c = false ∧ c ≠ ']'

namespace Begins

theorem append
    {s : List Char}
    (hBegins : Begins s)
    (rest : List Char) :
    Begins (s ++ rest) := by
  rcases hBegins with ⟨c, tail, rfl, hSpace, hBracket⟩
  exact ⟨c, tail ++ rest, rfl, hSpace, hBracket⟩

/- No white space is taken from a text that begins so. -/
theorem skipSpace_eq
    {s : List Char}
    (hBegins : Begins s) :
    skipSpace s = s := by
  rcases hBegins with ⟨c, tail, rfl, hSpace, _⟩
  rw [skipSpace, List.dropWhile_cons_of_neg (by simp [hSpace])]

end Begins

/- The indentation of a line is white space. -/
theorem skipSpace_newLine
    (level : Nat)
    (s : List Char) :
    skipSpace (newLine level ++ s) = skipSpace s := by
  have hBlanks (count : Nat) :
      skipSpace (List.replicate count ' ' ++ s) =
        skipSpace s := by
    induction count with
    | zero =>
        rfl
    | succ count ih =>
        rw [List.replicate_succ, List.cons_append, ← ih]
        rfl
  rw [← hBlanks (2 * level)]
  rfl

------------------------------------------------------------
-- Words and Numbers
------------------------------------------------------------

theorem ne_of_isDigit
    {first : Char}
    (hDigit : first.isDigit = true)
    (c : Char)
    (hOther : c.isDigit = false) :
    first ≠ c := by
  rintro rfl
  rw [hDigit] at hOther
  cases hOther

/- A text that begins like a number. -/
def IsNumeral (s : List Char) : Prop :=
  ∃ negative first rest,
    s = signText negative ++ first :: rest ∧
      first.isDigit = true

namespace IsNumeral

theorem append
    {s : List Char}
    (hNumeral : IsNumeral s)
    (rest : List Char) :
    IsNumeral (s ++ rest) := by
  rcases hNumeral with ⟨negative, first, tail, rfl, hDigit⟩
  exact ⟨negative, first, tail ++ rest, by simp, hDigit⟩

/- A number begins with a minus or with a digit. -/
theorem begins
    {s : List Char}
    (hNumeral : IsNumeral s) :
    Begins s := by
  rcases hNumeral with ⟨negative, first, rest, rfl, hDigit⟩
  have hOther := ne_of_isDigit hDigit
  cases negative with
  | true =>
      exact ⟨'-', first :: rest, rfl, rfl, by decide⟩
  | false =>
      refine ⟨first, rest, rfl, ?_, hOther ']' rfl⟩
      simp [isSpace, hOther ' ' rfl, hOther '\t' rfl,
        hOther '\n' rfl, hOther '\r' rfl]

/- No number begins with a word. -/
theorem readWord?_eq_none
    {s : List Char}
    (hNumeral : IsNumeral s) :
    readWord? s = none := by
  rcases hNumeral with ⟨negative, first, rest, rfl, hDigit⟩
  have hOther (c : Char) (hNot : c.isDigit = false) :
      c ≠ first :=
    (ne_of_isDigit hDigit c hNot).symm
  cases negative with
  | true =>
      simp [readWord?, words, afterWord?, signText,
        hOther 'I' rfl]
  | false =>
      simp [readWord?, words, afterWord?, signText,
        hOther 'n' rfl, hOther 't' rfl, hOther 'f' rfl,
        hOther 'N' rfl, hOther 'I' rfl, hOther '-' rfl]

/- What begins like a number is read as one. -/
theorem readValue_eq
    {s rest : List Char}
    (hNumeral : IsNumeral s)
    {value : Scalar}
    (hNumber : readNumber s = .ok (value, rest))
    (fuel : Nat) :
    readValue (fuel + 1) s = .ok (.scalar value, rest) := by
  have hWord := hNumeral.readWord?_eq_none
  rcases hNumeral with ⟨negative, first, tail, rfl, hDigit⟩
  have hOther := ne_of_isDigit hDigit
  cases negative with
  | true =>
      simp only [signText, if_true, List.singleton_append]
        at hWord hNumber ⊢
      rw [readValue.eq_def]
      dsimp only
      rw [hWord, hNumber]
      rfl
  | false =>
      simp only [signText, if_neg Bool.false_ne_true,
        List.nil_append] at hWord hNumber ⊢
      rw [readValue.eq_def]
      dsimp only
      split
      · rename_i hQuote
        exact absurd (List.head_eq_of_cons_eq hQuote)
          (hOther _ rfl)
      · rename_i hBracket
        exact absurd (List.head_eq_of_cons_eq hBracket)
          (hOther _ rfl)
      · rename_i hBrace
        exact absurd (List.head_eq_of_cons_eq hBrace)
          (hOther _ rfl)
      · rw [hWord, hNumber]
        rfl

end IsNumeral

/- An integer begins like a number. -/
theorem isNumeral_intText (n : Int) :
    IsNumeral (intText n).toList := by
  rw [toList_intText]
  rcases Nat.eq_zero_or_pos n.natAbs with hZero | hPos
  · rw [hZero]
    exact ⟨_, '0', [], rfl, rfl⟩
  · rcases exists_digitChars_eq_cons hPos with
      ⟨first, rest, hDigits, hDigit, _⟩
    exact ⟨_, first, rest, by rw [hDigits], hDigit⟩

/- The text of a finite number: its sign and its digits. -/
theorem toList_writeNumber
    (negative : Bool)
    {code : Fin (infinityCode + 1)}
    (hFinite : code.val < infinityCode) :
    (writeNumber (.signed negative code)).toList =
      signText negative ++ Binary64.codeChars code.val := by
  cases negative <;>
    simp [writeNumber, hFinite, Binary64.text, signText]

/- So does a finite number, in any of its spellings. -/
theorem isNumeral_codeChars
    (negative : Bool)
    {code : Fin (infinityCode + 1)} :
    IsNumeral
      (signText negative ++ Binary64.codeChars code.val) := by
  by_cases hZero : code.val = 0
  · rw [Binary64.codeChars, if_pos hZero]
    exact ⟨negative, '0', ['.', '0'], rfl, rfl⟩
  · rcases exists_spells_ofCode hZero with
      ⟨whole, part, power, hSpells, hChars⟩
    rcases hSpells.isWhole.exists_eq_cons with
      ⟨first, tail, hWhole, hDigit⟩
    refine ⟨negative, first,
      tail ++ (pointText part ++ exponentText power), ?_,
      hDigit⟩
    rw [hChars, hWhole, List.cons_append]

------------------------------------------------------------
-- Scalars
------------------------------------------------------------

/- A number reads back, with the words for the others. -/
theorem readValue_writeNumber
    (x : Binary64)
    {rest : List Char}
    (hFollows : Follows rest)
    (fuel : Nat) :
    readValue (fuel + 1) ((writeNumber x).toList ++ rest) =
      .ok (.scalar (.number x), rest) := by
  cases x with
  | nan =>
      rfl
  | signed negative code =>
      by_cases hFinite : code.val < infinityCode
      · rw [toList_writeNumber negative hFinite]
        refine ((isNumeral_codeChars negative).append
          rest).readValue_eq ?_ fuel
        rw [List.append_assoc]
        exact readNumber_signed negative hFinite hFollows
      · have hCode : code = ⟨infinityCode, by decide⟩ := by
          have hBound := code.isLt
          exact Fin.ext (by dsimp only; omega)
        rw [hCode]
        cases negative <;> rfl

/- An integer that is not too long reads back. -/
theorem readValue_intText
    (n : Int)
    {rest : List Char}
    (hLength : (digitChars n.natAbs).length ≤ digitLimit)
    (hFollows : Follows rest)
    (fuel : Nat) :
    readValue (fuel + 1) ((intText n).toList ++ rest) =
      .ok (.scalar (.integer n), rest) :=
  ((isNumeral_intText n).append rest).readValue_eq
    (readNumber_intText n hLength hFollows) fuel

/- A string reads back. -/
theorem readValue_writeString
    {s : Text}
    (hUnpaired : s.IsUnpaired)
    (rest : List Char)
    (fuel : Nat) :
    readValue (fuel + 1) (writeString s ++ rest) =
      .ok (.scalar (.text s), rest) := by
  have hQuote (body : List Char) :
      readValue (fuel + 1) ('"' :: body) =
        (readString body).map
          fun parsed => (.scalar parsed.1, parsed.2) := by
    rw [readValue.eq_def]
    rfl
  rw [writeString, List.cons_append, List.append_assoc, hQuote,
    List.singleton_append, readString_writeString hUnpaired]
  rfl

/- Every value begins with a character of its own. -/
theorem begins_writeValue
    (level : Nat)
    (value : Value) :
    Begins (writeValue level value) := by
  have hEnclosed
      (first last : Char)
      (pieces : List (List Char))
      (hSpace : isSpace first = false)
      (hBracket : first ≠ ']') :
      Begins (enclose first last level pieces) := by
    unfold enclose
    split <;> exact ⟨first, _, rfl, hSpace, hBracket⟩
  cases value with
  | null =>
      exact ⟨'n', ['u', 'l', 'l'], rfl, rfl, by decide⟩
  | boolean b =>
      cases b with
      | false =>
          exact ⟨'f', ['a', 'l', 's', 'e'], rfl, rfl,
            by decide⟩
      | true =>
          exact ⟨'t', ['r', 'u', 'e'], rfl, rfl, by decide⟩
  | integer n =>
      exact (isNumeral_intText n).begins
  | number x =>
      cases x with
      | nan =>
          exact ⟨'N', ['a', 'N'], rfl, rfl, by decide⟩
      | signed negative code =>
          by_cases hFinite : code.val < infinityCode
          · rw [writeValue, toList_writeNumber negative hFinite]
            exact (isNumeral_codeChars negative).begins
          · rw [writeValue, writeNumber, if_neg hFinite]
            cases negative with
            | false =>
                exact ⟨'I', _, rfl, rfl, by decide⟩
            | true =>
                exact ⟨'-', _, rfl, rfl, by decide⟩
  | text s =>
      exact ⟨'"', _, rfl, rfl, by decide⟩
  | list items =>
      exact hEnclosed '[' ']' _ rfl (by decide)
  | object fields =>
      exact hEnclosed '\x7b' '\x7d' _ rfl (by decide)

------------------------------------------------------------
-- Layout
------------------------------------------------------------

/- The mark between two parts of a value. -/
def separator (level : Nat) : List Char :=
  ',' :: newLine level

/- Brackets around parts, and what follows them. -/
theorem enclose_append
    (first last : Char)
    (level : Nat)
    {pieces : List (List Char)}
    (hPieces : pieces ≠ [])
    (rest : List Char) :
    enclose first last level pieces ++ rest =
      first :: (newLine (level + 1) ++
        ((separator (level + 1)).intercalate pieces ++
          (newLine level ++ last :: rest))) := by
  rw [enclose, if_neg (by simpa using hPieces)]
  simp [separator]

end Json

end Replay
