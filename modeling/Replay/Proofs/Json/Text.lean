import Mathlib.Tactic.IntervalCases
import Mathlib.Tactic.SplitIfs
import Replay.Json.Reader
import Replay.Json.Writer
import Replay.Proofs.Text.CodePoint

/-
  This file proves that the strings of a JSON text read back
  and hold no pairs of halves: two halves that make a pair
  are one character to the reader.

  Main results:
    * `Json.hex4?_hexDigits`
    * `Json.readUnits_writeChar`
    * `Json.readUnits_writePoint`
    * `Json.readString_writeString`
    * `Json.unpaired_of_readUnits`
-/

------------------------------------------------------------
-- Hexadecimal Digits
------------------------------------------------------------

namespace Replay

namespace Json

open Text

/- A digit is worth the number that it stands for. -/
theorem hexValue?_hexDigit
    {n : Nat}
    (hSmall : n < 16) :
    hexValue? (hexDigit n) = some n := by
  interval_cases n <;> rfl

/- Four digits read back, and what follows is left. -/
theorem hex4?_hexDigits
    {code : Nat}
    (hSmall : code < 65536)
    (rest : List Char) :
    hex4? (hexDigits 4 code ++ rest) = some (code, rest) := by
  have hDigits :
      hexDigits 4 code =
        [hexDigit (code / 16 / 16 / 16 % 16),
          hexDigit (code / 16 / 16 % 16),
          hexDigit (code / 16 % 16), hexDigit (code % 16)] :=
    rfl
  have hSum :
      code / 16 / 16 / 16 % 16 * 4096 +
          code / 16 / 16 % 16 * 256 +
          code / 16 % 16 * 16 + code % 16 =
        code := by
    omega
  rw [hDigits]
  simp only [List.cons_append, List.nil_append, hex4?]
  rw [hexValue?_hexDigit (Nat.mod_lt _ (by decide)),
    hexValue?_hexDigit (Nat.mod_lt _ (by decide)),
    hexValue?_hexDigit (Nat.mod_lt _ (by decide)),
    hexValue?_hexDigit (Nat.mod_lt _ (by decide))]
  simp [hSum]

theorem length_hexDigits (width n : Nat) :
    (hexDigits width n).length = width := by
  induction width generalizing n with
  | zero =>
      rfl
  | succ width ih =>
      rw [hexDigits, List.length_append, ih]
      rfl

/- Before something else there are enough digits. -/
theorem not_length_hexDigits_lt
    (n : Nat)
    {rest : List Char}
    (hRest : rest ≠ []) :
    ¬ (hexDigits 4 n ++ rest).length < 5 := by
  have hPos := List.length_pos_iff.mpr hRest
  rw [List.length_append, length_hexDigits]
  omega

------------------------------------------------------------
-- Characters
------------------------------------------------------------

/- One code point and those after it. -/
def readBefore
    (first : CodePoint)
    (outcome : Except Refusal (Text × List Char)) :
    Except Refusal (Text × List Char) := do
  let (others, rest) ← outcome
  .ok (first :: others, rest)

/- The escape of a unit that no second half comes after. -/
theorem readUnits_escapeUnit
    (start fuel : Nat)
    {code : Nat}
    (hSmall : code < 0x10000)
    {rest : List Char}
    (hAlone :
      0xD800 ≤ code ∧ code < 0xDC00 → lowHalf? rest = .ok none)
    (hRest : rest ≠ []) :
    readUnits start (fuel + 1) (escapeUnit code ++ rest) =
      readBefore (CodePoint.ofCode code)
        (readUnits start fuel rest) := by
  rw [escapeUnit, List.cons_append, List.cons_append, readUnits,
    if_neg (by decide), if_pos rfl]
  dsimp only
  rw [if_neg (not_length_hexDigits_lt code hRest),
    hex4?_hexDigits hSmall]
  dsimp only
  split
  · rename_i hHigh
    rw [hAlone hHigh]
    rfl
  · rfl

/- The escapes of the two halves of a pair. -/
theorem readUnits_escapePair
    (start fuel : Nat)
    {high low : Nat}
    (hHigh : 0xD800 ≤ high ∧ high < 0xDC00)
    (hLow : 0xDC00 ≤ low ∧ low < 0xE000)
    {rest : List Char}
    (hRest : rest ≠ []) :
    readUnits start (fuel + 1)
        (escapeUnit high ++ (escapeUnit low ++ rest)) =
      readBefore (CodePoint.ofCode (joinPair high low))
        (readUnits start fuel rest) := by
  have hLowHalf :
      lowHalf? (escapeUnit low ++ rest) =
        .ok (some (low, rest)) := by
    rw [escapeUnit, List.cons_append, List.cons_append, lowHalf?,
      if_neg (not_length_hexDigits_lt low hRest),
      hex4?_hexDigits (by omega)]
    dsimp only
    rw [if_pos hLow]
  rw [escapeUnit, List.cons_append, List.cons_append, readUnits,
    if_neg (by decide), if_pos rfl]
  dsimp only
  rw [if_neg (not_length_hexDigits_lt high (by simp [escapeUnit])),
    hex4?_hexDigits (by omega)]
  dsimp only
  rw [if_pos hHigh, hLowHalf]
  rfl

/- A character outside of ASCII reads back. -/
theorem readUnits_escapeCode
    (start fuel : Nat)
    (c : Char)
    {rest : List Char}
    (hRest : rest ≠ []) :
    readUnits start (fuel + 1) (escapeCode c.toNat ++ rest) =
      readBefore (.char c) (readUnits start fuel rest) := by
  have hValid :
      c.toNat < 0xD800 ∨
        0xDFFF < c.toNat ∧ c.toNat < 0x110000 :=
    c.valid
  unfold escapeCode
  split
  · rename_i hSmall
    rw [readUnits_escapeUnit start fuel hSmall (by omega) hRest]
    exact congrArg (readBefore · _)
      (CodePoint.ofCode_code (.char c))
  · rename_i hLarge
    have hJoin :
        joinPair (0xD800 + (c.toNat - 0x10000) / 1024)
            (0xDC00 + (c.toNat - 0x10000) % 1024) =
          c.toNat := by
      unfold joinPair
      omega
    rw [List.append_assoc,
      readUnits_escapePair start fuel (by omega) (by omega)
        hRest, hJoin]
    exact congrArg (readBefore · _)
      (CodePoint.ofCode_code (.char c))

/- A character of a string reads back. -/
theorem readUnits_writeChar
    (start fuel : Nat)
    (c : Char)
    {rest : List Char}
    (hRest : rest ≠ []) :
    readUnits start (fuel + 1) (writeChar c ++ rest) =
      readBefore (.char c) (readUnits start fuel rest) := by
  unfold writeChar
  split_ifs with hQuote hSlash hLine hReturn hTab hFeed hBack hPlain
  · rw [hQuote]
    rfl
  · rw [hSlash]
    rfl
  · rw [hLine]
    rfl
  · rw [hReturn]
    rfl
  · rw [hTab]
    rfl
  · rw [hFeed]
    rfl
  · rw [hBack]
    rfl
  · rw [List.singleton_append, readUnits.eq_def]
    dsimp only
    rw [if_neg hQuote, if_neg hSlash, if_neg (by omega)]
    rfl
  · exact readUnits_escapeCode start fuel c hRest

------------------------------------------------------------
-- Halves
------------------------------------------------------------

/- An escape of another code is no second half. -/
theorem lowHalf?_escapeUnit
    {code : Nat}
    (hSmall : code < 0x10000)
    (hOther : ¬(0xDC00 ≤ code ∧ code < 0xE000))
    {rest : List Char}
    (hRest : rest ≠ []) :
    lowHalf? (escapeUnit code ++ rest) = .ok none := by
  rw [escapeUnit, List.cons_append, List.cons_append, lowHalf?,
    if_neg (not_length_hexDigits_lt code hRest),
    hex4?_hexDigits hSmall]
  dsimp only
  rw [if_neg hOther]

/- No character is written so that it begins with one. -/
theorem lowHalf?_writeChar
    (c : Char)
    {rest : List Char}
    (hRest : rest ≠ []) :
    lowHalf? (writeChar c ++ rest) = .ok none := by
  have hValid :
      c.toNat < 0xD800 ∨
        0xDFFF < c.toNat ∧ c.toNat < 0x110000 :=
    c.valid
  unfold writeChar
  split_ifs with hQuote hSlash hLine hReturn hTab hFeed hBack hPlain
  · rfl
  · rfl
  · rfl
  · rfl
  · rfl
  · rfl
  · rfl
  · rw [List.singleton_append, lowHalf?]
    exact fun _ hMark => absurd (List.cons.inj hMark).1 hSlash
  · unfold escapeCode
    split
    · rename_i hSmall
      exact lowHalf?_escapeUnit hSmall (by omega) hRest
    · -- the first half of a pair is written first
      rw [List.append_assoc]
      exact lowHalf?_escapeUnit (by omega) (by omega)
        (by simp [escapeUnit])

/- Nor does a half that is no second one. -/
theorem lowHalf?_writePoint
    {c : CodePoint}
    (hOther : ∀ place, c = .half place → place.val < 1024)
    {rest : List Char}
    (hRest : rest ≠ []) :
    lowHalf? (writePoint c ++ rest) = .ok none := by
  cases c with
  | char c =>
      exact lowHalf?_writeChar c hRest
  | half place =>
      have hFirst := hOther place rfl
      rw [writePoint, CodePoint.code]
      exact lowHalf?_escapeUnit (by omega) (by omega) hRest

/- What may come after a first half that stays alone. -/
theorem lowHalf?_flatMap
    {high : Fin 2048}
    (hHigh : high.val < 1024)
    {s : Text}
    (hUnpaired : Text.IsUnpaired (.half high :: s))
    (rest : List Char) :
    lowHalf? (s.flatMap writePoint ++ '"' :: rest) =
      .ok none := by
  cases s with
  | nil =>
      rfl
  | cons c s =>
      have hAlone := (List.isChain_cons_cons.mp hUnpaired).1
      rw [List.flatMap_cons, List.append_assoc]
      refine lowHalf?_writePoint ?_ (by simp)
      rintro place rfl
      exact Nat.lt_of_not_le fun hLow => hAlone ⟨hHigh, hLow⟩

/- A code point reads back before others that do not join it. -/
theorem readUnits_writePoint
    (start fuel : Nat)
    {c : CodePoint}
    {s : Text}
    (hUnpaired : Text.IsUnpaired (c :: s))
    (rest : List Char) :
    readUnits start (fuel + 1)
        (writePoint c ++
          (s.flatMap writePoint ++ '"' :: rest)) =
      readBefore c
        (readUnits start fuel
          (s.flatMap writePoint ++ '"' :: rest)) := by
  cases c with
  | char c =>
      exact readUnits_writeChar start fuel c (by simp)
  | half place =>
      have hPlace := place.isLt
      have hCode : (CodePoint.half place).code < 65536 := by
        rw [CodePoint.code]
        omega
      rw [writePoint,
        readUnits_escapeUnit start fuel hCode ?_ (by simp),
        CodePoint.ofCode_code]
      intro hHigh
      rw [CodePoint.code] at hHigh
      exact lowHalf?_flatMap (by omega) hUnpaired rest

------------------------------------------------------------
-- Strings
------------------------------------------------------------

/- The code points of a string read back, up to its end. -/
theorem readUnits_flatMap
    (start : Nat)
    {s : Text}
    (hUnpaired : s.IsUnpaired)
    {fuel : Nat}
    (hFuel : s.length < fuel)
    (rest : List Char) :
    readUnits start fuel
        (s.flatMap writePoint ++ '"' :: rest) =
      .ok (s, rest) := by
  induction s generalizing fuel with
  | nil =>
      obtain ⟨more, rfl⟩ := Nat.exists_eq_add_of_lt hFuel
      rfl
  | cons c s ih =>
      obtain ⟨more, rfl⟩ :
          ∃ more, fuel = more + 1 :=
        ⟨fuel - 1, by omega⟩
      rw [List.flatMap_cons, List.append_assoc,
        readUnits_writePoint start more hUnpaired,
        ih (List.isChain_cons.mp hUnpaired).2
          (by simpa using hFuel)]
      rfl

theorem length_writePoint_pos (c : CodePoint) :
    0 < (writePoint c).length := by
  cases c with
  | char c =>
      rw [writePoint]
      unfold writeChar escapeCode escapeUnit
      split_ifs <;> simp
  | half place =>
      simp [writePoint, escapeUnit]

/- No code point is written with nothing. -/
theorem length_le_flatMap_writePoint (s : Text) :
    s.length ≤ (s.flatMap writePoint).length := by
  induction s with
  | nil =>
      exact le_refl 0
  | cons c s ih =>
      have hPos := length_writePoint_pos c
      rw [List.flatMap_cons, List.length_append,
        List.length_cons]
      omega

/- A string reads back, after its opening quotation mark. -/
theorem readString_writeString
    {s : Text}
    (hUnpaired : s.IsUnpaired)
    (rest : List Char) :
    readString (s.flatMap writePoint ++ '"' :: rest) =
      .ok (.text s, rest) := by
  have hFuel :
      s.length <
        (s.flatMap writePoint ++ '"' :: rest).length + 1 := by
    have hLength := length_le_flatMap_writePoint s
    rw [List.length_append]
    omega
  rw [readString, readUnits_flatMap _ hUnpaired hFuel]
  rfl

------------------------------------------------------------
-- Pairs
------------------------------------------------------------

/- A second half at the start comes from its escape. -/
def BeginsAlone
    (s : List Char)
    (units : Text) : Prop :=
  ∀ place,
    units.head? = some (.half place) →
      1024 ≤ place.val →
      ∃ found, lowHalf? s = .ok (some found)

/- A character joins nothing, whatever was read after it. -/
theorem unpaired_char
    {c : Char}
    {units : Text}
    (hUnits : units.IsUnpaired)
    (s : List Char) :
    Text.IsUnpaired (.char c :: units) ∧
      BeginsAlone s (.char c :: units) := by
  refine ⟨List.isChain_cons.mpr ⟨fun _ _ => id, hUnits⟩, ?_⟩
  intro place hHead
  cases hHead

/- Two halves that are joined are a character. -/
theorem ofCode_joinPair (high low : Nat) :
    CodePoint.ofCode (joinPair high low) =
      .char (Char.ofNat (joinPair high low)) :=
  dif_neg (by unfold joinPair; omega)

/- What an escape without a second half stands for. -/
theorem unpaired_escape
    {code : Nat}
    {digits rest : List Char}
    (hLong : ¬digits.length < 5)
    (hCode : hex4? digits = some (code, rest))
    {units : Text}
    (hAlone :
      0xD800 ≤ code ∧ code < 0xDC00 → lowHalf? rest = .ok none)
    (hUnits : units.IsUnpaired)
    (hBegins : BeginsAlone rest units) :
    Text.IsUnpaired (CodePoint.ofCode code :: units) ∧
      BeginsAlone ('\\' :: 'u' :: digits)
        (CodePoint.ofCode code :: units) := by
  cases hFirst : CodePoint.ofCode code with
  | char c =>
      exact unpaired_char hUnits _
  | half place =>
      have hPlace := place.isLt
      have hHalf := CodePoint.ofCode_eq_half_iff.mp hFirst
      refine ⟨List.isChain_cons.mpr ⟨?_, hUnits⟩, ?_⟩
      · rintro (c | low) hHead hJoins
        · exact hJoins
        · -- a second half behind would have been read with it
          have hHigh : place.val < 1024 := hJoins.1
          rcases hBegins low hHead hJoins.2 with ⟨found, hFound⟩
          rw [hAlone (by omega)] at hFound
          cases hFound
      · intro first hHead hLow
        cases hHead
        have hSecond : 0xDC00 ≤ code ∧ code < 0xE000 := by
          omega
        refine ⟨(code, rest), ?_⟩
        rw [lowHalf?, if_neg hLong, hCode]
        dsimp only
        rw [if_pos hSecond]

/-
  What is read first of a string: a character, or what the
  escape of a number stands for.  A first half is read alone
  only where no second one follows.
-/
inductive ReadsFirst
    (s : List Char) : CodePoint → List Char → Prop where
  | char
      (c : Char)
      (after : List Char) :
      ReadsFirst s (.char c) after
  | escape
      {digits after : List Char}
      {code : Nat}
      (hText : s = '\\' :: 'u' :: digits)
      (hLong : ¬digits.length < 5)
      (hCode : hex4? digits = some (code, after))
      (hAlone :
        0xD800 ≤ code ∧ code < 0xDC00 →
          lowHalf? after = .ok none) :
      ReadsFirst s (.ofCode code) after

section

variable {start fuel : Nat}
variable {rest : List Char}
variable {units : Text}

/- After something that is read first the rest is read. -/
theorem exists_of_readUnits_bind
    {first : CodePoint}
    {after : List Char}
    (hRead :
      (do
        let (others, rest) ← readUnits start fuel after
        .ok (first :: others, rest) :
          Except Refusal (Text × List Char)) =
        .ok (units, rest)) :
    ∃ others : Text,
      readUnits start fuel after = .ok (others, rest) ∧
        units = first :: others := by
  cases hOthers : readUnits start fuel after with
  | error refusal =>
      rw [hOthers] at hRead
      cases hRead
  | ok found =>
      rw [hOthers] at hRead
      cases hRead
      exact ⟨found.1, rfl, rfl⟩

/- An escape of a number is read with its second half, or alone. -/
theorem exists_of_readUnits_escape
    {digits : List Char}
    (hRead :
      readUnits start (fuel + 1) ('\\' :: 'u' :: digits) =
        .ok (units, rest)) :
    ∃ first after,
      ReadsFirst ('\\' :: 'u' :: digits) first after ∧
        ∃ others : Text,
          readUnits start fuel after = .ok (others, rest) ∧
            units = first :: others := by
  rw [readUnits.eq_def] at hRead
  dsimp only at hRead
  rw [if_neg (by decide), if_pos rfl] at hRead
  split at hRead
  case h_1 =>
    cases hRead
  case h_3 hOther hSame =>
    cases hSame
    exact absurd rfl hOther
  case h_2 hSame =>
    cases hSame
    split at hRead
    · cases hRead
    · rename_i hLong
      split at hRead
      · cases hRead
      · rename_i code after hCode
        split at hRead
        · cases hLow : lowHalf? after with
          | error left =>
              rw [hLow] at hRead
              cases hRead
          | ok pair =>
              rw [hLow] at hRead
              cases pair with
              | none =>
                  exact ⟨_, after,
                    .escape rfl hLong hCode fun _ => hLow,
                    exists_of_readUnits_bind hRead⟩
              | some found =>
                  refine ⟨_, found.2, ?_,
                    exists_of_readUnits_bind hRead⟩
                  rw [ofCode_joinPair]
                  exact .char _ _
        · rename_i hOther
          exact ⟨_, after,
            .escape rfl hLong hCode
              fun hHigh => absurd hHigh hOther,
            exists_of_readUnits_bind hRead⟩

/- A string is at its end, or something is read first. -/
theorem eq_nil_or_exists_of_readUnits
    {s : List Char}
    (hRead :
      readUnits start (fuel + 1) s = .ok (units, rest)) :
    units = [] ∨
      ∃ first after,
        ReadsFirst s first after ∧
          ∃ others : Text,
            readUnits start fuel after = .ok (others, rest) ∧
              units = first :: others := by
  cases s with
  | nil =>
      rw [readUnits.eq_def] at hRead
      cases hRead
  | cons c s =>
      have hStep := hRead
      rw [readUnits.eq_def] at hStep
      dsimp only at hStep
      split at hStep
      · cases hStep
        exact Or.inl rfl
      · split at hStep
        · rename_i hSlash
          split at hStep
          · cases hStep
          · rw [hSlash] at hRead ⊢
            exact Or.inr (exists_of_readUnits_escape hRead)
          · split at hStep
            · cases hStep
            · exact Or.inr ⟨_, _, .char _ _,
                exists_of_readUnits_bind hStep⟩
        · split at hStep
          · cases hStep
          · exact Or.inr ⟨_, _, .char _ _,
              exists_of_readUnits_bind hStep⟩

end

/-
  No two halves that are read in a row make a pair, by
  induction on the fuel.  What is read next begins with a
  second half only if its escape comes next, and that is
  read together with a first half before it.
-/
theorem unpaired_of_readUnits
    {start fuel : Nat}
    {s rest : List Char}
    {units : Text}
    (hRead : readUnits start fuel s = .ok (units, rest)) :
    units.IsUnpaired ∧ BeginsAlone s units := by
  induction fuel generalizing s units with
  | zero =>
      rw [readUnits] at hRead
      cases hRead
  | succ fuel ih =>
      rcases eq_nil_or_exists_of_readUnits hRead with
        rfl | ⟨first, after, hFirst, others, hOthers, rfl⟩
      · exact ⟨List.isChain_nil, fun _ hHead => by cases hHead⟩
      · rcases ih hOthers with ⟨hUnpaired, hBegins⟩
        cases hFirst with
        | char c =>
            exact unpaired_char hUnpaired _
        | escape hText hLong hCode hAlone =>
            rw [hText]
            exact unpaired_escape hLong hCode hAlone hUnpaired
              hBegins

end Json

end Replay
