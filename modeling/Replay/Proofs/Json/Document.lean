import Replay.Proofs.Json.Text
import Replay.Proofs.Validation

/-
  This file proves what holds of all documents that are read
  from JSON text: they are values of JSON, and no two halves
  in a row make a pair in their texts.

  Key definitions include:
    * `Scalar.IsKey`
    * `Scalar.IsJson`
    * `Document.IsJson`
    * `Document.IsUnpaired`
    * `Json.IsKept`
    * `Json.Keeps`

  Main results:
    * `Document.IsJson.put`
    * `Document.IsJson.of_find?`
    * `Json.holds_of_read`
    * `Json.isJson_of_read`
    * `Json.isUnpaired_of_read`
-/

------------------------------------------------------------
-- Documents
------------------------------------------------------------

namespace Replay

/- Can it stand as a string, and so as a key? -/
def Scalar.IsKey : Scalar → Prop
  | text _ => True
  | _ => False

/- Can it stand as a value? -/
def Scalar.IsJson : Scalar → Prop
  | bytes _ => False
  | moment _ _ => False
  | _ => True

/- What can be a key can be a value. -/
theorem Scalar.IsKey.isJson
    {key : Scalar}
    (hKey : key.IsKey) :
    key.IsJson := by
  cases key <;> trivial

namespace Document

/- A value of JSON: the keys of an object are distinct. -/
inductive IsJson : Document → Prop where
  | scalar
      {value : Scalar}
      (hValue : value.IsJson) :
      IsJson (.scalar value)
  | sequence
      {items : List Document}
      (hItems : ∀ item ∈ items, IsJson item) :
      IsJson (.sequence items)
  | mapping
      {entries : List (Scalar × Document)}
      (hKeys : ∀ entry ∈ entries, entry.1.IsKey)
      (hDistinct : (entries.map (·.1)).Nodup)
      (hValues : ∀ entry ∈ entries, IsJson entry.2) :
      IsJson (.mapping entries)

@[simp]
theorem isJson_scalar_iff (value : Scalar) :
    IsJson (.scalar value) ↔ value.IsJson :=
  ⟨fun hJson => by cases hJson; assumption, .scalar⟩

@[simp]
theorem isJson_sequence_iff (items : List Document) :
    IsJson (.sequence items) ↔ ∀ item ∈ items, IsJson item :=
  ⟨fun hJson => by cases hJson; assumption, .sequence⟩

@[simp]
theorem isJson_mapping_iff (entries : List (Scalar × Document)) :
    IsJson (.mapping entries) ↔
      (∀ entry ∈ entries, entry.1.IsKey) ∧
      (entries.map (·.1)).Nodup ∧
      ∀ entry ∈ entries, IsJson entry.2 := by
  constructor
  · intro hJson
    cases hJson with
    | mapping hKeys hDistinct hValues =>
        exact ⟨hKeys, hDistinct, hValues⟩
  · rintro ⟨hKeys, hDistinct, hValues⟩
    exact .mapping hKeys hDistinct hValues

/- The value of a field is a value of JSON. -/
theorem IsJson.of_find?
    {entries : List (Scalar × Document)}
    {name : String}
    {value : Document}
    (hJson : IsJson (.mapping entries))
    (hFind : find? entries name = some value) :
    value.IsJson := by
  rw [isJson_mapping_iff] at hJson
  rcases Option.map_eq_some_iff.mp hFind with
    ⟨entry, hEntry, rfl⟩
  exact hJson.2.2 entry (List.mem_of_find?_eq_some hEntry)

------------------------------------------------------------
-- Entering Values
------------------------------------------------------------

/- A key is the same as itself. -/
theorem sameKey_self
    {key : Scalar}
    (hKey : key.IsKey) :
    key.sameKey key = true := by
  cases key with
  | text s =>
      simp [Scalar.sameKey, Scalar.numeric?]
  | _ => exact hKey.elim

/- What stands among entries after a value is entered. -/
theorem mem_put
    {α : Type}
    {entries : List (Scalar × α)}
    {key : Scalar}
    {value : α}
    {entry : Scalar × α}
    (hMember : entry ∈ put entries key value) :
    (entry.1 = key ∨ entry.1 ∈ entries.map (·.1)) ∧
      (entry.2 = value ∨ entry ∈ entries) := by
  induction entries with
  | nil =>
      rw [put, List.mem_singleton] at hMember
      subst hMember
      exact ⟨Or.inl rfl, Or.inl rfl⟩
  | cons first rest ih =>
      rcases first with ⟨k, v⟩
      rw [put] at hMember
      split at hMember
      · rcases List.mem_cons.mp hMember with rfl | hLater
        · simp
        · exact ⟨Or.inr (List.mem_map_of_mem
            (List.mem_cons_of_mem _ hLater)),
            Or.inr (List.mem_cons_of_mem _ hLater)⟩
      · rcases List.mem_cons.mp hMember with rfl | hLater
        · simp
        · rcases ih hLater with ⟨hKey, hValue⟩
          exact ⟨hKey.imp_right (List.mem_cons_of_mem _),
            hValue.imp_right (List.mem_cons_of_mem _)⟩

/- A value that is entered under a key adds that key at most. -/
theorem nodup_put
    {α : Type}
    {entries : List (Scalar × α)}
    {key : Scalar}
    (hKey : key.IsKey)
    (hDistinct : (entries.map (·.1)).Nodup)
    (value : α) :
    ((put entries key value).map (·.1)).Nodup := by
  induction entries with
  | nil =>
      simp [put]
  | cons first rest ih =>
      rcases first with ⟨k, v⟩
      rw [put]
      split
      · exact hDistinct
      · rename_i hOther
        rw [List.map_cons, List.nodup_cons] at hDistinct ⊢
        refine ⟨fun hOld => ?_, ih hDistinct.2⟩
        rcases List.mem_map.mp hOld with ⟨entry, hEntry, rfl⟩
        rcases (mem_put hEntry).1 with rfl | hRest
        · exact hOther (sameKey_self hKey)
        · exact hDistinct.1 hRest

/- A mapping stays a value of JSON when one is entered. -/
theorem IsJson.put
    {entries : List (Scalar × Document)}
    {key : Scalar}
    {value : Document}
    (hEntries : IsJson (.mapping entries))
    (hKey : key.IsKey)
    (hValue : value.IsJson) :
    IsJson (.mapping (Document.put entries key value)) := by
  cases hEntries with
  | mapping hKeys hDistinct hValues =>
      refine .mapping ?keys (nodup_put hKey hDistinct value) ?values
      case keys =>
        intro entry hEntry
        rcases (mem_put hEntry).1 with hNew | hOld
        · rwa [hNew]
        · rcases List.mem_map.mp hOld with ⟨other, hOther, hSame⟩
          exact hSame ▸ hKeys other hOther
      case values =>
        intro entry hEntry
        rcases (mem_put hEntry).2 with hNew | hOld
        · rwa [hNew]
        · exact hValues entry hOld

/- In the texts of a document no two halves make a pair. -/
inductive IsUnpaired : Document → Prop where
  | scalar
      {value : Scalar}
      (hText : ∀ s, value = .text s → s.IsUnpaired) :
      IsUnpaired (.scalar value)
  | sequence
      {items : List Document}
      (hItems : ∀ item ∈ items, IsUnpaired item) :
      IsUnpaired (.sequence items)
  | mapping
      {entries : List (Scalar × Document)}
      (hValues : ∀ entry ∈ entries, IsUnpaired entry.2) :
      IsUnpaired (.mapping entries)

/- The value of a field is unpaired if the whole record is. -/
theorem IsUnpaired.of_find?
    {entries : List (Scalar × Document)}
    {name : String}
    {value : Document}
    (hUnpaired : IsUnpaired (.mapping entries))
    (hFind : find? entries name = some value) :
    value.IsUnpaired := by
  rcases Option.map_eq_some_iff.mp hFind with
    ⟨entry, hEntry, rfl⟩
  cases hUnpaired with
  | mapping hValues =>
      exact hValues entry (List.mem_of_find?_eq_some hEntry)

end Document

------------------------------------------------------------
-- Reading
------------------------------------------------------------

namespace Json

open Document Outcome

/- What a string is read as. -/
theorem exists_of_readString
    {s rest : List Char}
    {key : Scalar}
    (hRead : readString s = .ok (key, rest)) :
    ∃ text : Text, key = .text text ∧ text.IsUnpaired := by
  rcases bind_eq_ok_iff.mp hRead with ⟨⟨units, _⟩, hUnits, hKey⟩
  cases hKey
  exact ⟨units, rfl, (unpaired_of_readUnits hUnits).1⟩

/- The words stand for values of JSON that are no texts. -/
theorem isJson_of_readWord?
    {s rest : List Char}
    {value : Scalar}
    (hRead : readWord? s = some (value, rest)) :
    value.IsJson ∧ ∀ text, value ≠ .text text := by
  rcases List.exists_of_findSome?_eq_some hRead with
    ⟨⟨word, found⟩, hWord, hAfter⟩
  rcases Option.map_eq_some_iff.mp hAfter with ⟨_, _, hPair⟩
  cases hPair
  have hWords :
      ∀ pair ∈ words,
        pair.2.IsJson ∧ ∀ text, pair.2 ≠ .text text := by
    simp [words, Scalar.IsJson]
  exact hWords _ hWord

/- So do numbers. -/
theorem isJson_of_readNumber
    {s rest : List Char}
    {value : Scalar}
    (hRead : readNumber s = .ok (value, rest)) :
    value.IsJson ∧ ∀ text, value ≠ .text text := by
  unfold readNumber at hRead
  dsimp only at hRead
  repeat' split at hRead
  all_goals cases hRead
  all_goals exact ⟨trivial, nofun⟩

------------------------------------------------------------
-- Steps of Reading
------------------------------------------------------------

/-
  What each step of the reader keeps: it holds of scalars that
  stand in a text, and of what is put together from parts of
  which it holds.
-/
structure IsKept (holds : Document → Prop) : Prop where
  text : ∀ s : Text, s.IsUnpaired → holds (.scalar (.text s))
  other :
    ∀ value : Scalar,
      value.IsJson → (∀ s, value ≠ .text s) →
        holds (.scalar value)
  sequence :
    ∀ items, (∀ item ∈ items, holds item) →
      holds (.sequence items)
  empty : holds (.mapping [])
  put :
    ∀ entries (key : Text) value,
      holds (.mapping entries) → holds value →
        holds (.mapping (Document.put entries (.text key) value))

/- As far as the fuel goes, it holds of what is read. -/
structure Keeps
    (holds : Document → Prop)
    (fuel : Nat) : Prop where
  value :
    ∀ {s d rest},
      readValue fuel s = .ok (d, rest) → holds d
  items :
    ∀ {s items rest},
      readItems fuel s = .ok (items, rest) →
        ∀ item ∈ items, holds item
  entries :
    ∀ {before s entries rest},
      holds (.mapping before) →
        readEntries fuel before s = .ok (entries, rest) →
          holds (.mapping entries)

namespace Keeps

variable {holds : Document → Prop} (hKept : IsKept holds)
variable {fuel : Nat} (hFuel : Keeps holds fuel)
variable {s rest : List Char}

include hKept hFuel

/- A value, by the character that it begins with. -/
theorem value_succ
    {d : Document}
    (hRead : readValue (fuel + 1) s = .ok (d, rest)) :
    holds d := by
  rw [readValue.eq_def] at hRead
  dsimp only at hRead
  split at hRead
  · rcases bind_eq_ok_iff.mp hRead with
      ⟨⟨value, left⟩, hValue, hRead⟩
    cases hRead
    rcases exists_of_readString hValue with
      ⟨text, rfl, hUnpaired⟩
    exact hKept.text text hUnpaired
  · split at hRead
    · cases hRead
      exact hKept.sequence [] (by simp)
    · rcases bind_eq_ok_iff.mp hRead with
        ⟨⟨items, left⟩, hItems, hRead⟩
      cases hRead
      exact hKept.sequence items (hFuel.items hItems)
  · split at hRead
    · cases hRead
      exact hKept.empty
    · rcases bind_eq_ok_iff.mp hRead with
        ⟨⟨entries, left⟩, hEntries, hRead⟩
      cases hRead
      exact hFuel.entries hKept.empty hEntries
  · split at hRead
    · rename_i hWord
      cases hRead
      rcases isJson_of_readWord? hWord with ⟨hJson, hOther⟩
      exact hKept.other _ hJson hOther
    · rcases bind_eq_ok_iff.mp hRead with
        ⟨⟨value, left⟩, hValue, hRead⟩
      cases hRead
      rcases isJson_of_readNumber hValue with ⟨hJson, hOther⟩
      exact hKept.other _ hJson hOther

omit hKept in
/- The first item, and those after its comma. -/
theorem items_succ
    {items : List Document}
    (hRead : readItems (fuel + 1) s = .ok (items, rest)) :
    ∀ item ∈ items, holds item := by
  rw [readItems] at hRead
  rcases bind_eq_ok_iff.mp hRead with
    ⟨⟨item, left⟩, hItem, hRead⟩
  have hFirst := hFuel.value hItem
  dsimp only at hRead
  split at hRead
  · cases hRead
    simpa using hFirst
  · rcases bind_eq_ok_iff.mp hRead with
      ⟨⟨others, left⟩, hOthers, hRead⟩
    cases hRead
    exact List.forall_mem_cons.mpr ⟨hFirst, hFuel.items hOthers⟩
  · cases hRead

/- The first entry is put to those before, and then the others. -/
theorem entries_succ
    {before entries : List (Scalar × Document)}
    (hBefore : holds (.mapping before))
    (hRead :
      readEntries (fuel + 1) before s = .ok (entries, rest)) :
    holds (.mapping entries) := by
  rw [readEntries.eq_def] at hRead
  dsimp only at hRead
  split at hRead
  · rcases bind_eq_ok_iff.mp hRead with
      ⟨⟨key, left⟩, hKey, hRead⟩
    rcases exists_of_readString hKey with ⟨text, rfl, _⟩
    dsimp only at hRead
    split at hRead
    · rcases bind_eq_ok_iff.mp hRead with
        ⟨⟨value, left⟩, hValue, hRead⟩
      have hAfter :=
        hKept.put before text value hBefore (hFuel.value hValue)
      dsimp only at hRead
      split at hRead
      · cases hRead
        exact hAfter
      · exact hFuel.entries hAfter hRead
      · cases hRead
    · cases hRead
  · cases hRead

end Keeps

/- What every step keeps holds with any fuel. -/
theorem keeps
    {holds : Document → Prop}
    (hKept : IsKept holds)
    (fuel : Nat) :
    Keeps holds fuel := by
  induction fuel with
  | zero =>
      constructor
      · intro s d rest hRead
        cases hRead
      · intro s items rest hRead
        cases hRead
      · intro before s entries rest _ hRead
        cases hRead
  | succ fuel ih =>
      exact ⟨ih.value_succ hKept, ih.items_succ,
        ih.entries_succ hKept⟩

/- So it holds of the document that a text holds. -/
theorem holds_of_read
    {holds : Document → Prop}
    (hKept : IsKept holds)
    {text : String}
    {d : Document}
    (hRead : read text = .ok d) :
    holds d := by
  have hText : readText text.toList = .ok d := by
    unfold read at hRead
    dsimp only at hRead
    split at hRead
    · rename_i hOk
      cases hRead
      exact hOk
    · cases hRead
    · cases hRead
  unfold readText at hText
  split at hText
  · cases hText
  · rcases bind_eq_ok_iff.mp hText with
      ⟨⟨value, left⟩, hValue, hText⟩
    dsimp only at hText
    split at hText
    · cases hText
      exact (keeps hKept _).value hValue
    · cases hText

------------------------------------------------------------
-- What Is Kept
------------------------------------------------------------

/- What a JSON text holds is a value of JSON. -/
theorem isJson_of_read
    {text : String}
    {d : Document}
    (hRead : read text = .ok d) :
    d.IsJson :=
  holds_of_read
    { text := fun _ _ => .scalar trivial
      other := fun _ hJson _ => .scalar hJson
      sequence := fun _ hItems => .sequence hItems
      empty := .mapping (by simp) (by simp) (by simp)
      put := fun _ _ _ hEntries hValue =>
        hEntries.put trivial hValue } hRead

/- Two halves that make a pair are read as one character. -/
theorem isUnpaired_of_read
    {text : String}
    {d : Document}
    (hRead : read text = .ok d) :
    d.IsUnpaired := by
  refine holds_of_read
    { text := fun s hUnpaired => .scalar ?text
      other := fun value _ hOther =>
        .scalar fun s hText => absurd hText (hOther s)
      sequence := fun _ hItems => .sequence hItems
      empty := .mapping (by simp)
      put := fun entries key value hEntries hValue =>
        .mapping ?put } hRead
  case text =>
    rintro _ ⟨⟩
    exact hUnpaired
  case put =>
    intro entry hEntry
    cases hEntries with
    | mapping hValues =>
        rcases (mem_put hEntry).2 with hNew | hOld
        · rwa [hNew]
        · exact hValues entry hOld

end Json

end Replay
