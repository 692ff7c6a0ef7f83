import Replay.Proofs.Json.Plain

/-
  This file proves that a value reads back from its text, with
  all the parts that it is made of.

  Key definitions include:
    * `Json.Precedes`

  Main results:
    * `Json.readValue_writeValue`
    * `Json.read_write`
-/

------------------------------------------------------------
-- Steps of the Reader
------------------------------------------------------------

namespace Replay

namespace Json

open Number Text

/- A bracket before parts: they are read one by one. -/
theorem readValue_bracket
    (fuel level : Nat)
    {s : List Char}
    (hBegins : Begins s) :
    readValue (fuel + 1) ('[' :: (newLine level ++ s)) =
      (readItems fuel s).map
        fun (items, rest) => (.sequence items, rest) := by
  rcases hBegins with ⟨c, tail, rfl, hSpace, hBracket⟩
  have hSkip :
      skipSpace (newLine level ++ c :: tail) = c :: tail := by
    rw [skipSpace_newLine]
    exact Begins.skipSpace_eq ⟨c, tail, rfl, hSpace, hBracket⟩
  rw [readValue, hSkip]
  split
  · rename_i hEnd
    exact absurd (List.head_eq_of_cons_eq hEnd) hBracket
  · rfl

/- A brace before fields: they are read one by one. -/
theorem readValue_brace
    (fuel level : Nat)
    (s : List Char) :
    readValue (fuel + 1)
        ('\x7b' :: (newLine level ++ '"' :: s)) =
      (readEntries fuel [] ('"' :: s)).map
        fun (entries, rest) => (.mapping entries, rest) := by
  have hSkip :
      skipSpace (newLine level ++ '"' :: s) = '"' :: s := by
    rw [skipSpace_newLine]
    rfl
  rw [readValue, hSkip]
  rfl

/- The last item, before the closing bracket. -/
theorem readItems_last
    {fuel level : Nat}
    {s rest : List Char}
    {item : Document}
    (hItem :
      readValue fuel (s ++ (newLine level ++ ']' :: rest)) =
        .ok (item, newLine level ++ ']' :: rest)) :
    readItems (fuel + 1)
        (s ++ (newLine level ++ ']' :: rest)) =
      .ok ([item], rest) := by
  rw [readItems, hItem]
  dsimp only [bind, Except.bind]
  rw [skipSpace_newLine]
  rfl

/- An item before another one. -/
theorem readItems_next
    {fuel level : Nat}
    {s more rest : List Char}
    {item : Document}
    {items : List Document}
    (hBegins : Begins more)
    (hItem :
      readValue fuel (s ++ (separator level ++ more)) =
        .ok (item, separator level ++ more))
    (hMore : readItems fuel more = .ok (items, rest)) :
    readItems (fuel + 1) (s ++ (separator level ++ more)) =
      .ok (item :: items, rest) := by
  have hComma :
      skipSpace (separator level ++ more) =
        ',' :: (newLine level ++ more) :=
    rfl
  rw [readItems, hItem]
  dsimp only [bind, Except.bind]
  simp only [hComma, skipSpace_newLine, hBegins.skipSpace_eq,
    hMore]

/- The name of a field and its value. -/
def fieldText
    (name : Text)
    (s : List Char) : List Char :=
  writeString name ++ ':' :: ' ' :: s

/- What follows a field follows its value. -/
theorem fieldText_append
    (name : Text)
    (s rest : List Char) :
    (writeString name ++ ':' :: ' ' :: s) ++ rest =
      fieldText name (s ++ rest) := by
  rw [List.append_assoc]
  rfl

/- The last field, before the closing brace. -/
theorem readEntries_last
    {fuel level : Nat}
    {name : String}
    {s rest : List Char}
    {entries : List (Scalar × Document)}
    {value : Document}
    (hBegins : Begins (s ++ (newLine level ++ '\x7d' :: rest)))
    (hValue :
      readValue fuel (s ++ (newLine level ++ '\x7d' :: rest)) =
        .ok (value, newLine level ++ '\x7d' :: rest)) :
    readEntries (fuel + 1) entries
        (fieldText name
          (s ++ (newLine level ++ '\x7d' :: rest))) =
      .ok (Document.put entries (.text name) value, rest) := by
  have hColon (t : List Char) :
      skipSpace (':' :: t) = ':' :: t :=
    rfl
  have hBlank (t : List Char) :
      skipSpace (' ' :: t) = skipSpace t :=
    rfl
  rw [fieldText, writeString, List.cons_append,
    List.append_assoc, List.singleton_append, readEntries,
    readString_writeString (Text.isUnpaired_ofString name)]
  dsimp only [bind, Except.bind]
  simp only [hColon, hBlank, hBegins.skipSpace_eq, hValue,
    skipSpace_newLine]
  rfl

/- A field before another one. -/
theorem readEntries_next
    {fuel level : Nat}
    {name : String}
    {s more : List Char}
    {entries : List (Scalar × Document)}
    {value : Document}
    (hBegins : Begins (s ++ (separator level ++ more)))
    (hMore : Begins more)
    (hValue :
      readValue fuel (s ++ (separator level ++ more)) =
        .ok (value, separator level ++ more)) :
    readEntries (fuel + 1) entries
        (fieldText name (s ++ (separator level ++ more))) =
      readEntries fuel (Document.put entries (.text name) value)
        more := by
  have hColon (t : List Char) :
      skipSpace (':' :: t) = ':' :: t :=
    rfl
  have hBlank (t : List Char) :
      skipSpace (' ' :: t) = skipSpace t :=
    rfl
  have hComma :
      skipSpace (separator level ++ more) =
        ',' :: (newLine level ++ more) :=
    rfl
  rw [fieldText, writeString, List.cons_append,
    List.append_assoc, List.singleton_append, readEntries,
    readString_writeString (Text.isUnpaired_ofString name)]
  dsimp only [bind, Except.bind]
  simp only [hColon, hBlank, hBegins.skipSpace_eq, hValue,
    hComma, skipSpace_newLine, hMore.skipSpace_eq]

------------------------------------------------------------
-- Pieces
------------------------------------------------------------

/- The pieces are shorter than the text they are enclosed in. -/
theorem length_intercalate_lt
    (first last : Char)
    (level : Nat)
    {pieces : List (List Char)}
    (hPieces : pieces ≠ []) :
    ((separator (level + 1)).intercalate pieces).length + 1 <
      (enclose first last level pieces).length := by
  have hLength :=
    congrArg List.length
      (enclose_append first last level hPieces [])
  simp only [List.append_nil, List.length_cons,
    List.length_append] at hLength
  rw [hLength]
  simp only [newLine, List.length_cons]
  omega

theorem writeItems_ne_nil
    (level : Nat)
    {items : List Value}
    (hItems : items ≠ []) :
    writeItems level items ≠ [] := by
  cases items with
  | nil =>
      exact absurd rfl hItems
  | cons item items =>
      simp [writeItems]

theorem writeFields_ne_nil
    (level : Nat)
    {fields : List (String × Value)}
    (hFields : fields ≠ []) :
    writeFields level fields ≠ [] := by
  cases fields with
  | nil =>
      exact absurd rfl hFields
  | cons field fields =>
      simp [writeFields]

/- The items of a list begin as the first of them does. -/
theorem begins_intercalate_writeItems
    (mark : List Char)
    (level : Nat)
    {items : List Value}
    (hItems : items ≠ []) :
    Begins (mark.intercalate (writeItems level items)) := by
  cases items with
  | nil =>
      exact absurd rfl hItems
  | cons item items =>
      have hBegins := begins_writeValue level item
      by_cases hMore : items = []
      · rw [hMore, writeItems, writeItems,
          List.intercalate_singleton]
        exact hBegins
      · rw [writeItems,
          List.intercalate_cons_of_ne_nil
            (writeItems_ne_nil level hMore), List.append_assoc]
        exact hBegins.append _

/- The fields of an object begin with a quotation mark. -/
theorem exists_intercalate_writeFields
    (mark : List Char)
    (level : Nat)
    {fields : List (String × Value)}
    (hFields : fields ≠ []) :
    ∃ s, mark.intercalate (writeFields level fields) = '"' :: s := by
  cases fields with
  | nil =>
      exact absurd rfl hFields
  | cons field fields =>
      by_cases hMore : fields = []
      · rw [hMore]
        exact ⟨_, rfl⟩
      · rw [writeFields,
          List.intercalate_cons_of_ne_nil
            (writeFields_ne_nil level hMore), List.append_assoc]
        exact ⟨_, rfl⟩

/-
  Entries before some fields: each has a text as its name, and
  none has the name of such a field.
-/
structure Precedes
    (before : List (Scalar × Document))
    (fields : List (String × Value)) : Prop where
  areTexts : ∀ entry ∈ before, ∃ s, entry.1 = .text s
  areOthers :
    ∀ field ∈ fields, ∀ entry ∈ before,
      entry.1 ≠ .text field.1

/- The first field joins the entries before the others. -/
theorem Precedes.next
    {before : List (Scalar × Document)}
    {name : String}
    {value : Value}
    {fields : List (String × Value)}
    (hBefore : Precedes before ((name, value) :: fields))
    (hName : name ∉ fields.map Prod.fst)
    (d : Document) :
    Precedes (before ++ [(.text name, d)]) fields := by
  constructor
  · intro entry hMember
    rcases List.mem_append.mp hMember with hOld | hLast
    · exact hBefore.areTexts entry hOld
    · rw [List.mem_singleton.mp hLast]
      exact ⟨name, rfl⟩
  · intro field hField entry hMember
    rcases List.mem_append.mp hMember with hOld | hLast
    · exact hBefore.areOthers field
        (List.mem_cons_of_mem _ hField) entry hOld
    · rw [List.mem_singleton.mp hLast]
      intro hSame
      have hOccurs : field.1 ∈ fields.map Prod.fst :=
        List.mem_map_of_mem hField
      rw [← Text.ofString_injective (Scalar.text.inj hSame)]
        at hOccurs
      exact hName hOccurs

/- The first field is put after the entries before it. -/
theorem Precedes.put
    {before : List (Scalar × Document)}
    {name : String}
    {value : Value}
    {fields : List (String × Value)}
    (hBefore : Precedes before ((name, value) :: fields))
    (d : Document) :
    Document.put before (.text name) d =
      before ++ [(.text name, d)] :=
  put_of_not_mem before name d
    (hBefore.areOthers (name, value) List.mem_cons_self)
    hBefore.areTexts

------------------------------------------------------------
-- Values
------------------------------------------------------------

mutual

/-
  A value reads back, and what follows it is left.  The fuel
  is counted by the characters that are written.
-/
theorem readValue_writeValue
    (value : Value)
    (hReadable : value.IsReadable)
    (level fuel : Nat)
    (hFuel : (writeValue level value).length ≤ fuel)
    (rest : List Char)
    (hFollows : Follows rest) :
    readValue fuel (writeValue level value ++ rest) =
      .ok (value.document, rest) := by
  obtain ⟨fuel, rfl⟩ :
      ∃ less, fuel = less + 1 := by
    rcases begins_writeValue level value with
      ⟨c, tail, hText, _⟩
    rw [hText, List.length_cons] at hFuel
    exact ⟨fuel - 1, by omega⟩
  match value, hReadable, hFuel with
  | .null, _, _ =>
      rfl
  | .boolean true, _, _ =>
      rfl
  | .boolean false, _, _ =>
      rfl
  | .integer n, hLength, _ =>
      exact readValue_intText n hLength hFollows fuel
  | .number x, _, _ =>
      exact readValue_writeNumber x hFollows fuel
  | .text s, hUnpaired, _ =>
      exact readValue_writeString hUnpaired rest fuel
  | .list [], _, _ =>
      rfl
  | .list (item :: items), hItems, hLong =>
      have hPieces :=
        writeItems_ne_nil (level + 1)
          (List.cons_ne_nil item items)
      have hLess := length_intercalate_lt '[' ']' level hPieces
      have hBegins :=
        begins_intercalate_writeItems (separator (level + 1))
          (level + 1) (List.cons_ne_nil item items)
      rw [writeValue] at hLong
      rw [writeValue, enclose_append _ _ _ hPieces,
        readValue_bracket _ _ (hBegins.append _),
        readItems_writeItems (item :: items) (by simp) hItems
          (level + 1) level fuel (by omega) rest]
      rfl
  | .object [], _, _ =>
      rfl
  | .object (field :: fields), hFields, hLong =>
      have hPieces :=
        writeFields_ne_nil (level + 1)
          (List.cons_ne_nil field fields)
      have hLess :=
        length_intercalate_lt '\x7b' '\x7d' level hPieces
      rw [writeValue] at hLong
      rcases exists_intercalate_writeFields (separator (level + 1))
          (level + 1) (List.cons_ne_nil field fields) with
        ⟨s, hText⟩
      have hRead :=
        readEntries_writeFields (field :: fields) (by simp)
          hFields.2 hFields.1 (level + 1) level fuel (by omega)
          [] ⟨by simp, by simp⟩ rest
      rw [hText, List.cons_append] at hRead
      rw [writeValue, enclose_append _ _ _ hPieces, hText,
        List.cons_append, readValue_brace, hRead]
      rfl

/- The items of a list read back, up to its last bracket. -/
theorem readItems_writeItems
    (items : List Value)
    (hItems : items ≠ [])
    (hReadable : Value.AreReadable items)
    (level outer fuel : Nat)
    (hFuel :
      ((separator level).intercalate
        (writeItems level items)).length < fuel)
    (rest : List Char) :
    readItems fuel
        ((separator level).intercalate (writeItems level items) ++
          (newLine outer ++ ']' :: rest)) =
      .ok (Value.documents items, rest) := by
  obtain ⟨fuel, rfl⟩ :
      ∃ less, fuel = less + 1 :=
    ⟨fuel - 1, by omega⟩
  match items, hItems, hReadable, hFuel with
  | [item], _, hItem, hShort =>
      rw [writeItems, writeItems, List.intercalate_singleton]
        at hShort ⊢
      exact readItems_last
        (readValue_writeValue item hItem.1 level fuel (by omega)
          _ (.newLine _))
  | item :: next :: more, _, hMany, hShort =>
      have hPieces :=
        writeItems_ne_nil level (List.cons_ne_nil next more)
      have hBegins :=
        begins_intercalate_writeItems (separator level) level
          (List.cons_ne_nil next more)
      rw [writeItems, List.intercalate_cons_of_ne_nil hPieces,
        List.append_assoc] at hShort ⊢
      simp only [List.length_append, separator,
        List.length_cons] at hShort
      rw [List.append_assoc]
      exact readItems_next (hBegins.append _)
        (readValue_writeValue item hMany.1 level fuel (by omega)
          _ (.comma _))
        (readItems_writeItems (next :: more) (by simp) hMany.2
          level outer fuel (by rw [separator]; omega) rest)

/-
  The fields of an object read back, up to its last brace, and
  are entered after those before.
-/
theorem readEntries_writeFields
    (fields : List (String × Value))
    (hFields : fields ≠ [])
    (hReadable : Value.HaveReadable fields)
    (hDistinct : (fields.map Prod.fst).Nodup)
    (level outer fuel : Nat)
    (hFuel :
      ((separator level).intercalate
        (writeFields level fields)).length < fuel)
    (before : List (Scalar × Document))
    (hBefore : Precedes before fields)
    (rest : List Char) :
    readEntries fuel before
        ((separator level).intercalate (writeFields level fields) ++
          (newLine outer ++ '\x7d' :: rest)) =
      .ok (before ++ Value.entries fields, rest) := by
  obtain ⟨fuel, rfl⟩ :
      ∃ less, fuel = less + 1 :=
    ⟨fuel - 1, by omega⟩
  match fields, hFields, hReadable, hDistinct, hBefore, hFuel with
  | [(name, value)], _, hValue, _, hEarlier, hShort =>
      rw [writeFields, writeFields, List.intercalate_singleton]
        at hShort ⊢
      simp only [List.length_append, List.length_cons] at hShort
      rw [fieldText_append,
        readEntries_last ((begins_writeValue level value).append _)
          (readValue_writeValue value hValue.1 level fuel
            (by omega) _ (.newLine _)),
        hEarlier.put]
      rfl
  | (name, value) :: next :: more, _, hMany, hNames, hEarlier,
      hShort =>
      have hPieces :=
        writeFields_ne_nil level (List.cons_ne_nil next more)
      rcases exists_intercalate_writeFields (separator level) level
          (List.cons_ne_nil next more) with
        ⟨s, hText⟩
      have hBegins :
          Begins
            ((separator level).intercalate
                (writeFields level (next :: more)) ++
              (newLine outer ++ '\x7d' :: rest)) := by
        rw [hText]
        exact ⟨'"', _, rfl, rfl, by decide⟩
      rw [List.map_cons, List.nodup_cons] at hNames
      rw [writeFields, List.intercalate_cons_of_ne_nil hPieces,
        List.append_assoc] at hShort ⊢
      simp only [List.length_append, separator,
        List.length_cons] at hShort
      rw [List.append_assoc, fieldText_append,
        readEntries_next ((begins_writeValue level value).append _)
          hBegins
          (readValue_writeValue value hMany.1 level fuel
            (by omega) _ (.comma _)),
        hEarlier.put,
        readEntries_writeFields (next :: more) (by simp)
          hMany.2 hNames.2 level outer fuel
          (by rw [separator]; omega) _
          (hEarlier.next hNames.1 value.document) rest,
        List.append_assoc]
      rfl

end

------------------------------------------------------------
-- Texts
------------------------------------------------------------

/- What is written reads back. -/
theorem read_write
    {value : Value}
    (hReadable : value.IsReadable) :
    read (write value) = .ok value.document := by
  have hBegins := begins_writeValue 0 value
  have hValue :=
    readValue_writeValue value hReadable 0
      (2 * (writeValue 0 value).length + 1) (by omega) [] .nothing
  have hText :
      readText (writeValue 0 value) = .ok value.document := by
    unfold readText
    split
    · rename_i hMark
      have hPlain :=
        isPlain_writeValue 0 value '\uFEFF' (by simp [hMark])
      exact absurd hPlain (by decide)
    · rw [hBegins.skipSpace_eq]
      rw [List.append_nil] at hValue
      rw [hValue]
      rfl
  rw [read, write, String.toList_ofList, hText]

end Json

end Replay
