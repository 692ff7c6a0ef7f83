import Mathlib.Data.List.TakeWhile
import Replay.Json.Reader
import Replay.Proofs.Validation

/-
  This file proves that the reading of JSON goes forward in
  the text, and that an integer is found too long only where
  a row of that many digits stands in the text.

  Key definitions include:
    * `Json.HasLongRow`
    * `Json.Within`
    * `Json.StaysWithin`

  Main results:
    * `Json.readNumber_within`
    * `Json.staysWithin`
    * `Json.hasLongRow_of_read`
-/

------------------------------------------------------------
-- Rows of Digits
------------------------------------------------------------

namespace Replay

namespace Json

open Number Text

/- A text has a row of so many digits, more than are converted. -/
def HasLongRow
    (count : Nat)
    (s : List Char) : Prop :=
  ∃ row,
    row <:+: s ∧
    (∀ c ∈ row, c.isDigit = true) ∧
    row.length = count ∧ digitLimit < count

/- A row in the end of a text is a row in the text. -/
theorem HasLongRow.of_suffix
    {count : Nat}
    {s t : List Char}
    (hRow : HasLongRow count s)
    (hSuffix : s <:+ t) :
    HasLongRow count t := by
  rcases hRow with ⟨row, hInfix, hDigits⟩
  exact ⟨row, hInfix.trans hSuffix.isInfix, hDigits⟩

------------------------------------------------------------
-- Reading Forward
------------------------------------------------------------

variable {α β : Type}

/-
  What reading comes to, with a text at hand: it ends inside
  of the text, and finds no integer too long but in the text.
-/
def Within
    (text : List Char) :
    Except Refusal (α × List Char) → Prop
  | .ok (_, rest) => rest <:+ text
  | .error (.tooManyDigits count) => HasLongRow count text
  | .error (.malformed _ _) => True

/- What is within the end of a text is within the text. -/
theorem Within.of_suffix
    {text whole : List Char}
    {result : Except Refusal (α × List Char)}
    (hResult : Within text result)
    (hSuffix : text <:+ whole) :
    Within whole result := by
  rcases result with (_ | count) | ⟨x, rest⟩
  · trivial
  · exact HasLongRow.of_suffix hResult hSuffix
  · exact List.IsSuffix.trans hResult hSuffix

/- One step after the other stays inside of the text. -/
theorem Within.bind
    {text : List Char}
    {first : Except Refusal (α × List Char)}
    {next : α × List Char → Except Refusal (β × List Char)}
    (hFirst : Within text first)
    (hNext :
      ∀ x rest, rest <:+ text → Within text (next (x, rest))) :
    Within text (first >>= next) := by
  rcases first with (_ | count) | ⟨x, rest⟩
  · trivial
  · exact hFirst
  · exact hNext x rest hFirst

/- White space is taken from the front. -/
theorem skipSpace_suffix (s : List Char) :
    skipSpace s <:+ s :=
  List.dropWhile_suffix _

/- What stands after a mark, with white space before it. -/
theorem suffix_of_skipSpace
    {s rest : List Char}
    {c : Char}
    (hMark : skipSpace s = c :: rest) :
    rest <:+ s := by
  have hSpace := skipSpace_suffix s
  rw [hMark] at hSpace
  exact (List.suffix_cons _ _).trans hSpace

------------------------------------------------------------
-- Strings
------------------------------------------------------------

/- Four digits are taken from the front. -/
theorem hex4?_suffix
    {s rest : List Char}
    {code : Nat}
    (hHex : hex4? s = some (code, rest)) :
    rest <:+ s := by
  unfold hex4? at hHex
  split at hHex
  · simp only [Option.bind_eq_bind, Option.bind_eq_some_iff,
      Option.some.injEq, Prod.mk.injEq] at hHex
    rcases hHex with ⟨_, _, _, _, _, _, _, _, _, rfl⟩
    exact ⟨[_, _, _, _], rfl⟩
  · cases hHex

/- So is the escape of a second half. -/
theorem lowHalf?_suffix
    {s rest : List Char}
    {low : Nat}
    (hLow : lowHalf? s = .ok (some (low, rest))) :
    rest <:+ s := by
  unfold lowHalf? at hLow
  split at hLow
  · split at hLow
    · cases hLow
    · split at hLow
      · cases hLow
      · rename_i hHex
        split at hLow
        · cases hLow
          exact (hex4?_suffix hHex).trans ⟨['\\', 'u'], rfl⟩
        · cases hLow
  · cases hLow

/-
  A string goes forward, and no integer is read in it.  By
  induction on the fuel, one code point at a time.
-/
theorem readUnits_within
    (start fuel : Nat)
    (s : List Char) :
    Within s (readUnits start fuel s) := by
  induction fuel generalizing s with
  | zero =>
      rw [readUnits]
      trivial
  | succ fuel ih =>
      -- what follows a unit is read from an end of the text
      have hNext
          {rest : List Char}
          (hRest : rest <:+ s)
          (unit : CodePoint) :
          Within s
            (readUnits start fuel rest >>= fun units =>
              .ok (unit :: units.1, units.2)) :=
        ((ih rest).of_suffix hRest).bind fun _ _ hEnd => hEnd
      rw [readUnits.eq_def]
      dsimp only
      split
      · trivial
      · trivial
      · rename_i c rest hFuel
        cases hFuel
        have hRest : rest <:+ c :: rest := List.suffix_cons _ _
        split
        · exact hRest
        · split
          · split
            · trivial
            · rename_i digits
              split
              · trivial
              · split
                · trivial
                · rename_i code after hHex
                  have hAfter : after <:+ c :: 'u' :: digits :=
                    (hex4?_suffix hHex).trans
                      ((List.suffix_cons _ _).trans hRest)
                  split
                  · split
                    · rename_i pair hPair
                      cases pair with
                      | none =>
                          exact hNext hAfter _
                      | some pair =>
                          exact hNext
                            ((lowHalf?_suffix hPair).trans hAfter) _
                    · trivial
                  · exact hNext hAfter _
            · split
              · trivial
              · exact hNext ((List.suffix_cons _ _).trans hRest) _
          · split
            · trivial
            · exact hNext hRest _

theorem readString_within (s : List Char) :
    Within s (readString s) :=
  (readUnits_within _ _ s).bind fun _ _ hRest => hRest

------------------------------------------------------------
-- Numbers
------------------------------------------------------------

/- The whole digits of a number come first. -/
theorem wholeDigits_isPrefix (s : List Char) :
    wholeDigits s <+: s := by
  unfold wholeDigits
  split
  · exact ⟨_, rfl⟩
  · exact List.takeWhile_prefix _

theorem isDigit_of_mem_wholeDigits
    {s : List Char}
    {c : Char}
    (hMem : c ∈ wholeDigits s) :
    c.isDigit = true := by
  unfold wholeDigits at hMem
  split at hMem
  · rw [List.mem_singleton.mp hMem]
    rfl
  · exact List.mem_takeWhile_imp hMem

/-
  A number goes forward.  It is too long only for its whole
  digits, and these stand in the text.
-/
theorem readNumber_within (s : List Char) :
    Within s (readNumber s) := by
  unfold readNumber
  split
  rename_i negative body hSign
  have hBody : body <:+ s := by
    split at hSign
    · cases hSign
      exact List.suffix_cons _ _
    · cases hSign
      exact List.suffix_rfl
  have hRow
      (hLong : digitLimit < (wholeDigits body).length) :
      HasLongRow (wholeDigits body).length s :=
    ⟨wholeDigits body,
      (wholeDigits_isPrefix body).isInfix.trans hBody.isInfix,
      fun _ hMem => isDigit_of_mem_wholeDigits hMem, rfl, hLong⟩
  have hDrop
      {rest : List Char}
      (hRest : rest <:+ s)
      (count : Nat) :
      rest.drop count <:+ s :=
    (List.drop_suffix _ _).trans hRest
  dsimp only
  split
  · trivial
  · split
    · split
      · split
        · rename_i hLong
          exact hRow hLong
        · exact hDrop (hDrop hBody _) _
      · exact hDrop (hDrop hBody _) _
    · split
      · split
        · rename_i hLong
          exact hRow hLong
        · exact hDrop (hDrop (hDrop hBody _) _) _
      · exact hDrop (hDrop (hDrop hBody _) _) _

/- What follows a word is the end of the text. -/
theorem afterWord?_suffix
    {word s rest : List Char}
    (hAfter : afterWord? word s = some rest) :
    rest <:+ s := by
  induction word generalizing s with
  | nil =>
      cases hAfter
      exact List.suffix_rfl
  | cons c word ih =>
      cases s with
      | nil =>
          cases hAfter
      | cons d s =>
          rw [afterWord?] at hAfter
          split at hAfter
          · exact (ih hAfter).trans (List.suffix_cons _ _)
          · cases hAfter

/- So it is for each of the words that stand for a value. -/
theorem readWord?_suffix
    {s rest : List Char}
    {value : Scalar}
    (hRead : readWord? s = some (value, rest)) :
    rest <:+ s := by
  rcases List.exists_of_findSome?_eq_some hRead with
    ⟨⟨word, found⟩, _, hWord⟩
  rcases Option.map_eq_some_iff.mp hWord with ⟨left, hAfter, hPair⟩
  cases hPair
  exact afterWord?_suffix hAfter

------------------------------------------------------------
-- Values
------------------------------------------------------------

/- As far as the fuel goes, values are read forward. -/
structure StaysWithin (fuel : Nat) : Prop where
  value : ∀ s, Within s (readValue fuel s)
  items : ∀ s, Within s (readItems fuel s)
  entries : ∀ before s, Within s (readEntries fuel before s)

namespace StaysWithin

variable {fuel : Nat}

/- A value goes forward with one more of the fuel. -/
theorem value_succ
    (hFuel : StaysWithin fuel)
    (s : List Char) :
    Within s (readValue (fuel + 1) s) := by
  rw [readValue.eq_def]
  dsimp only
  split
  · exact ((readString_within _).of_suffix
      (List.suffix_cons _ _)).bind fun _ _ hRest => hRest
  · split
    · rename_i hClosed
      exact (suffix_of_skipSpace hClosed).trans
        (List.suffix_cons _ _)
    · refine ((hFuel.items _).of_suffix ?_).bind
        fun _ _ hEnd => hEnd
      exact (skipSpace_suffix _).trans (List.suffix_cons _ _)
  · split
    · rename_i hClosed
      exact (suffix_of_skipSpace hClosed).trans
        (List.suffix_cons _ _)
    · refine ((hFuel.entries _ _).of_suffix ?_).bind
        fun _ _ hEnd => hEnd
      exact (skipSpace_suffix _).trans (List.suffix_cons _ _)
  · split
    · rename_i hWord
      exact readWord?_suffix hWord
    · exact (readNumber_within s).bind fun _ _ hRest => hRest

/- So do items, each with what is left by the one before. -/
theorem items_succ
    (hFuel : StaysWithin fuel)
    (s : List Char) :
    Within s (readItems (fuel + 1) s) := by
  rw [readItems]
  refine (hFuel.value s).bind fun item rest hRest => ?_
  dsimp only
  split
  · rename_i hClosed
    exact (suffix_of_skipSpace hClosed).trans hRest
  · rename_i hComma
    have hMore := (skipSpace_suffix _).trans
      ((suffix_of_skipSpace hComma).trans hRest)
    exact ((hFuel.items _).of_suffix hMore).bind
      fun _ _ hEnd => hEnd
  · trivial

/-
  So do entries, each with its name, its colon and its
  value.
-/
theorem entries_succ
    (hFuel : StaysWithin fuel)
    (before : List (Scalar × Document))
    (s : List Char) :
    Within s (readEntries (fuel + 1) before s) := by
  rw [readEntries.eq_def]
  dsimp only
  split
  · refine ((readString_within _).of_suffix
      (List.suffix_cons _ _)).bind fun key rest hRest => ?_
    dsimp only
    split
    · rename_i hColon
      have hValue := (skipSpace_suffix _).trans
        ((suffix_of_skipSpace hColon).trans hRest)
      refine ((hFuel.value _).of_suffix hValue).bind
        fun d rest hRest => ?_
      dsimp only
      split
      · rename_i hClosed
        exact (suffix_of_skipSpace hClosed).trans hRest
      · rename_i hComma
        have hMore := (skipSpace_suffix _).trans
          ((suffix_of_skipSpace hComma).trans hRest)
        exact (hFuel.entries _ _).of_suffix hMore
      · trivial
    · trivial
  · trivial

end StaysWithin

/- With any fuel, reading goes forward. -/
theorem staysWithin (fuel : Nat) :
    StaysWithin fuel := by
  induction fuel with
  | zero =>
      constructor
      · intro s
        trivial
      · intro s
        trivial
      · intro before s
        trivial
  | succ fuel ih =>
      exact ⟨ih.value_succ, ih.items_succ, ih.entries_succ⟩

/- An integer that is too long stands in the text. -/
theorem hasLongRow_of_read
    {text : String}
    {count : Nat}
    (hRead : read text = .error (.tooManyDigits count)) :
    HasLongRow count text.toList := by
  have hText :
      readText text.toList = .error (.tooManyDigits count) := by
    unfold read at hRead
    dsimp only at hRead
    split at hRead
    · cases hRead
    · rename_i hLong
      cases hRead
      exact hLong
    · cases hRead
  unfold readText at hText
  split at hText
  · cases hText
  · rcases Outcome.bind_eq_error_iff.mp hText with
      hValue | ⟨⟨value, rest⟩, _, hRest⟩
    · have hWithin := (staysWithin (2 * text.toList.length + 1)).value
        (skipSpace text.toList)
      rw [hValue] at hWithin
      exact HasLongRow.of_suffix hWithin (skipSpace_suffix _)
    · dsimp only at hRest
      split at hRest
      · cases hRest
      · cases hRest

end Json

end Replay
