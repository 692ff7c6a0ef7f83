import Mathlib.Data.List.Forall2
import Mathlib.Data.List.Nodup
import Replay.Proofs.Text.CodePoint
import Replay.Validation

/-
  This file proves when the checks of documents succeed, and
  with what.  There is one lemma for each way to put checks
  together.

  Key definitions include:
    * `Checked.Passes`

  Main results:
    * `Checked.required_eq_ok_iff`
    * `Checked.closed_eq_ok_iff`
    * `Checked.bind_tagged_eq_ok_iff`
    * `Checked.listOf_eq_ok_iff`
    * `Checked.passes_textKeys_iff`
    * `Checked.nodup_of_textKeys`
    * `Checked.forall₂_of_textKeys`
-/

------------------------------------------------------------
-- Outcomes
------------------------------------------------------------

namespace Replay

open Number Text

namespace Outcome

variable {ε α β : Type}

theorem map_eq_ok_iff
    {first : Except ε α}
    {f : α → β}
    {y : β} :
    first.map f = .ok y ↔ ∃ x, first = .ok x ∧ f x = y := by
  cases first with
  | error cause =>
      simp [Except.map]
  | ok x =>
      simp [Except.map]

/- Two steps succeed if both do, one after the other. -/
theorem bind_eq_ok_iff
    {first : Except ε α}
    {next : α → Except ε β}
    {y : β} :
    first >>= next = .ok y ↔
      ∃ x, first = .ok x ∧ next x = .ok y := by
  cases first with
  | error cause =>
      simp [bind, Except.bind]
  | ok x =>
      simp [bind, Except.bind]

theorem map_eq_error_iff
    {first : Except ε α}
    {f : α → β}
    {cause : ε} :
    first.map f = .error cause ↔ first = .error cause := by
  cases first with
  | error other =>
      simp [Except.map]
  | ok x =>
      simp [Except.map]

/- Two steps fail where the first one does, or the second. -/
theorem bind_eq_error_iff
    {first : Except ε α}
    {next : α → Except ε β}
    {cause : ε} :
    first >>= next = .error cause ↔
      first = .error cause ∨
        ∃ x, first = .ok x ∧ next x = .error cause := by
  cases first with
  | error other =>
      simp [bind, Except.bind]
  | ok x =>
      simp [bind, Except.bind]

end Outcome

------------------------------------------------------------
-- Checks
------------------------------------------------------------

namespace Checked

open Outcome

variable {α β : Type}

/- The check succeeds. -/
def Passes (check : Checked α) : Prop :=
  ∃ x, check = .ok x

@[simp]
theorem passes_ok (x : α) :
    Passes (.ok x) :=
  ⟨x, rfl⟩

@[simp]
theorem not_passes_error (rejection : Rejection) :
    ¬Passes (α := α) (.error rejection) := by
  rintro ⟨x, hOk⟩
  cases hOk

@[simp]
theorem not_passes_fail (mismatch : Mismatch) :
    ¬Passes (α := α) (fail mismatch) :=
  not_passes_error _

theorem within_eq_ok_iff
    {place : String}
    {check : Checked α}
    {x : α} :
    within place check = .ok x ↔ check = .ok x := by
  unfold within
  split
  · simp
  · rfl

/- Two checks pass together if each one does. -/
theorem both_eq_ok_iff
    {a : Checked α}
    {b : Checked β}
    {pair : α × β} :
    both a b = .ok pair ↔ a = .ok pair.1 ∧ b = .ok pair.2 := by
  rcases pair with ⟨x, y⟩
  cases a with
  | error first =>
      cases first <;> rcases b with (_ | _) | _ <;> simp [both]
  | ok first =>
      rcases b with (_ | _) | _ <;> simp [both]

/- A check beside another one adds no value. -/
theorem alongWith_eq_ok_iff
    {a : Checked α}
    {b : Checked Unit}
    {x : α} :
    alongWith a b = .ok x ↔ a = .ok x ∧ b = .ok () := by
  rw [alongWith, map_eq_ok_iff]
  constructor
  · rintro ⟨⟨y, _⟩, hBoth, rfl⟩
    exact both_eq_ok_iff.mp hBoth
  · exact fun hBoth => ⟨(x, ()), both_eq_ok_iff.mpr hBoth, rfl⟩

/- Checks of a list succeed one by one. -/
theorem all_eq_ok_iff
    {checks : List (Checked α)}
    {xs : List α} :
    all checks = .ok xs ↔
      List.Forall₂ (fun check x => check = .ok x) checks xs := by
  induction checks generalizing xs with
  | nil =>
      rw [List.forall₂_nil_left_iff, all, Except.ok.injEq, eq_comm]
  | cons check rest ih =>
      rw [all, map_eq_ok_iff, List.forall₂_cons_left_iff]
      constructor
      · rintro ⟨⟨x, more⟩, hBoth, rfl⟩
        rcases both_eq_ok_iff.mp hBoth with ⟨hFirst, hRest⟩
        exact ⟨x, more, hFirst, ih.mp hRest, rfl⟩
      · rintro ⟨x, more, hFirst, hRest, rfl⟩
        exact ⟨(x, more),
          both_eq_ok_iff.mpr ⟨hFirst, ih.mpr hRest⟩, rfl⟩

@[simp]
theorem passes_map_iff
    (check : Checked α)
    (f : α → β) :
    Passes (check.map f) ↔ Passes check := by
  cases check <;> simp [Except.map]

@[simp]
theorem passes_within_iff
    (place : String)
    (check : Checked α) :
    Passes (within place check) ↔ Passes check :=
  exists_congr fun _ => within_eq_ok_iff

@[simp]
theorem passes_both_iff
    (a : Checked α)
    (b : Checked β) :
    Passes (both a b) ↔ Passes a ∧ Passes b := by
  constructor
  · rintro ⟨⟨x, y⟩, hBoth⟩
    rcases both_eq_ok_iff.mp hBoth with ⟨hFirst, hSecond⟩
    exact ⟨⟨x, hFirst⟩, ⟨y, hSecond⟩⟩
  · rintro ⟨⟨x, hFirst⟩, ⟨y, hSecond⟩⟩
    exact ⟨(x, y), both_eq_ok_iff.mpr ⟨hFirst, hSecond⟩⟩

@[simp]
theorem passes_alongWith_iff
    (a : Checked α)
    (b : Checked Unit) :
    Passes (alongWith a b) ↔ Passes a ∧ Passes b := by
  rw [alongWith, passes_map_iff, passes_both_iff]

/- Checks pass together if every one does. -/
@[simp]
theorem passes_all_iff (checks : List (Checked α)) :
    Passes (all checks) ↔ ∀ check ∈ checks, Passes check := by
  induction checks with
  | nil =>
      simp [all]
  | cons check rest ih =>
      rw [all, passes_map_iff, passes_both_iff, ih,
        List.forall_mem_cons]

------------------------------------------------------------
-- Lists
------------------------------------------------------------

/- Items are read one by one, wherever they stand. -/
theorem all_itemsFrom_eq_ok_iff
    (check : Document → Checked α)
    (place : Nat)
    (items : List Document)
    (xs : List α) :
    all (itemsFrom check place items) = .ok xs ↔
      List.Forall₂ (fun d x => check d = .ok x) items xs := by
  rw [all_eq_ok_iff]
  induction items generalizing place xs with
  | nil =>
      rw [itemsFrom, List.forall₂_nil_left_iff,
        List.forall₂_nil_left_iff]
  | cons item rest ih =>
      simp only [itemsFrom, List.forall₂_cons_left_iff, ih,
        within_eq_ok_iff]

/- A list passes item by item. -/
theorem listOf_eq_ok_iff
    {check : Document → Checked α}
    {d : Document}
    {xs : List α} :
    listOf check d = .ok xs ↔
      ∃ items,
        items? d = some items ∧
        List.Forall₂ (fun d x => check d = .ok x) items xs := by
  unfold listOf
  cases items? d with
  | none =>
      simp [fail]
  | some items =>
      simp [all_itemsFrom_eq_ok_iff]

theorem passes_all_itemsFrom_iff
    (check : Document → Checked α)
    (place : Nat)
    (items : List Document) :
    Passes (all (itemsFrom check place items)) ↔
      ∀ item ∈ items, Passes (check item) := by
  rw [passes_all_iff]
  induction items generalizing place with
  | nil =>
      simp [itemsFrom]
  | cons item rest ih =>
      rw [itemsFrom, List.forall_mem_cons, List.forall_mem_cons,
        ih, passes_within_iff]

------------------------------------------------------------
-- Entries
------------------------------------------------------------

/-
  Entries pass if every key is a text and every value
  passes.
-/
theorem passes_textKeys_iff
    (check : α → Checked β)
    (entries : List (Scalar × α)) :
    Passes (textKeys check entries) ↔
      ∀ entry ∈ entries,
        Passes (asText (.scalar entry.1)) ∧
          Passes (check entry.2) := by
  unfold textKeys
  simp only [passes_map_iff, passes_all_iff, List.forall_mem_map,
    passes_within_iff, passes_both_iff]

/- What is put under a new name comes last. -/
theorem put_of_not_mem
    {kept : List (Text × β)}
    {name : Text}
    (hNew : name ∉ kept.map (·.1))
    (value : β) :
    textKeys.put kept name value = kept ++ [(name, value)] := by
  induction kept with
  | nil =>
      rfl
  | cons pair rest ih =>
      rcases pair with ⟨other, kept⟩
      rw [List.map_cons, List.mem_cons, not_or] at hNew
      rw [textKeys.put, if_neg (Ne.symm hNew.1), ih hNew.2,
        List.cons_append]

/- Under different names the pairs keep their order. -/
theorem foldl_put_of_nodup
    (kept pairs : List (Text × β))
    (hNew : ((kept ++ pairs).map (·.1)).Nodup) :
    pairs.foldl
        (fun kept pair => textKeys.put kept pair.1 pair.2) kept =
      kept ++ pairs := by
  induction pairs generalizing kept with
  | nil =>
      rw [List.foldl_nil, List.append_nil]
  | cons pair rest ih =>
      have hFirst : pair.1 ∉ kept.map (·.1) := by
        rw [List.map_append, List.map_cons] at hNew
        exact fun hOld => List.disjoint_of_nodup_append hNew hOld
          List.mem_cons_self
      rw [List.foldl_cons, put_of_not_mem hFirst,
        ih _ (by simpa using hNew), List.append_assoc,
        List.singleton_append]

/- A name that is there already keeps its place. -/
theorem keys_put_of_mem
    {kept : List (Text × β)}
    {name : Text}
    (hOld : name ∈ kept.map (·.1))
    (value : β) :
    (textKeys.put kept name value).map (·.1) =
      kept.map (·.1) := by
  induction kept with
  | nil =>
      cases hOld
  | cons pair rest ih =>
      rcases pair with ⟨other, kept⟩
      rw [textKeys.put]
      split
      · rfl
      · rename_i hOther
        rcases List.mem_cons.mp hOld with hSame | hRest
        · exact absurd hSame.symm hOther
        · rw [List.map_cons, List.map_cons, ih hRest]

/- What is put leaves every name there once. -/
theorem nodup_put
    {kept : List (Text × β)}
    (hKept : (kept.map (·.1)).Nodup)
    (name : Text)
    (value : β) :
    ((textKeys.put kept name value).map (·.1)).Nodup := by
  by_cases hOld : name ∈ kept.map (·.1)
  · rwa [keys_put_of_mem hOld]
  · rw [put_of_not_mem hOld, List.map_append, List.map_singleton,
      ← List.concat_eq_append]
    exact hKept.concat hOld

/- No name is entered twice. -/
theorem nodup_foldl_put
    {kept : List (Text × β)}
    (hKept : (kept.map (·.1)).Nodup)
    (pairs : List (Text × β)) :
    ((pairs.foldl
        (fun kept pair => textKeys.put kept pair.1 pair.2)
        kept).map (·.1)).Nodup := by
  induction pairs generalizing kept with
  | nil =>
      exact hKept
  | cons pair rest ih =>
      exact ih (nodup_put hKept pair.1 pair.2)

/- The entries as they are checked, before equal keys meet. -/
theorem textKeys_eq_ok_iff
    {check : α → Checked β}
    {entries : List (Scalar × α)}
    {pairs : List (Text × β)} :
    textKeys check entries = .ok pairs ↔
      ∃ found : List (Text × β),
        List.Forall₂
          (fun entry pair =>
            asText (.scalar entry.1) = .ok pair.1 ∧
              check entry.2 = .ok pair.2)
          entries found ∧
        found.foldl
          (fun kept pair => textKeys.put kept pair.1 pair.2) [] =
            pairs := by
  unfold textKeys
  simp only [map_eq_ok_iff, all_eq_ok_iff,
    List.forall₂_map_left_iff, within_eq_ok_iff, both_eq_ok_iff]

/- Checked entries have distinct names. -/
theorem nodup_of_textKeys
    {check : α → Checked β}
    {entries : List (Scalar × α)}
    {pairs : List (Text × β)}
    (hCheck : textKeys check entries = .ok pairs) :
    (pairs.map (·.1)).Nodup := by
  rcases textKeys_eq_ok_iff.mp hCheck with ⟨found, _, rfl⟩
  have hNone : (([] : List (Text × β)).map (·.1)).Nodup :=
    List.nodup_nil
  exact nodup_foldl_put hNone found

/- Keys that are texts are kept as they are. -/
theorem keys_of_forall₂
    {check : α → Checked β}
    {entries : List (Scalar × α)}
    {found : List (Text × β)}
    (hTexts : ∀ entry ∈ entries, ∃ s, entry.1 = .text s)
    (hFound :
      List.Forall₂
        (fun entry pair =>
          asText (.scalar entry.1) = .ok pair.1 ∧
            check entry.2 = .ok pair.2)
        entries found) :
    List.Forall₂
      (fun entry pair =>
        entry.1 = .text pair.1 ∧ check entry.2 = .ok pair.2)
      entries found := by
  induction hFound with
  | nil =>
      exact .nil
  | @cons entry pair _ _ hFirst _ ih =>
      rw [List.forall_mem_cons] at hTexts
      rcases hTexts with ⟨⟨s, hKey⟩, hRest⟩
      rw [hKey] at hFirst
      cases hFirst.1
      exact .cons ⟨hKey, hFirst.2⟩ (ih hRest)

/- Entries under distinct texts are kept in their order. -/
theorem forall₂_of_textKeys
    {check : α → Checked β}
    {entries : List (Scalar × α)}
    {pairs : List (Text × β)}
    (hDistinct : (entries.map (·.1)).Nodup)
    (hTexts : ∀ entry ∈ entries, ∃ s, entry.1 = .text s)
    (hCheck : textKeys check entries = .ok pairs) :
    List.Forall₂
      (fun entry pair =>
        entry.1 = .text pair.1 ∧ check entry.2 = .ok pair.2)
      entries pairs := by
  rcases textKeys_eq_ok_iff.mp hCheck with ⟨found, hFound, rfl⟩
  have hEach := keys_of_forall₂ hTexts hFound
  have hKeys :
      entries.map (·.1) =
        (found.map (·.1)).map Scalar.text := by
    rw [List.map_map, ← List.forall₂_eq_eq_eq,
      List.forall₂_map_left_iff, List.forall₂_map_right_iff]
    exact hEach.imp fun _ _ hPair => hPair.1
  have hNames : ((([] : List (Text × β)) ++ found).map
      (·.1)).Nodup :=
    List.Nodup.of_map Scalar.text (hKeys ▸ hDistinct)
  rwa [foldl_put_of_nodup [] found hNames]

------------------------------------------------------------
-- Fields
------------------------------------------------------------

section

variable {entries : List (Scalar × Document)}
variable {name : String}
variable {check : Document → Checked α}

/- A field that must be there is found and passes. -/
theorem required_eq_ok_iff
    {x : α} :
    required entries name check = .ok x ↔
      ∃ value,
        Document.find? entries name = some value ∧
          check value = .ok x := by
  rw [required, within_eq_ok_iff]
  cases Document.find? entries name <;> simp [fail]

/- A field that may be left out passes if it is found. -/
theorem optionalField_eq_ok_iff
    {default x : α} :
    optionalField entries name default check = .ok x ↔
      (Document.find? entries name = none ∧ x = default) ∨
        ∃ value,
          Document.find? entries name = some value ∧
            check value = .ok x := by
  unfold optionalField
  cases Document.find? entries name with
  | none =>
      simp [eq_comm]
  | some value =>
      simp [within_eq_ok_iff]

/- What is not null is checked as if it had to be there. -/
theorem optional_eq_ok_iff
    {d : Document}
    {x : Option α}
    (hNull : d ≠ .scalar .null) :
    Checked.optional check d = .ok x ↔
      ∃ y, check d = .ok y ∧ some y = x := by
  rw [Checked.optional, map_eq_ok_iff]
  exact hNull

end

/- A key is not halved exactly if it is no text or a string. -/
theorem not_isHalved_text_iff
    {s : Text} :
    isHalved (.text s) = false ↔ ∃ name : String, s = name := by
  rw [isHalved, Option.isNone_eq_false_iff,
    Option.isSome_iff_exists]
  exact exists_congr fun _ => Text.toString?_eq_some_iff

/- Without halved keys every other name is found. -/
theorem noOthers_eq_ok_iff
    {entries : List (Scalar × Document)}
    (hWhole : ∀ entry ∈ entries, isHalved entry.1 = false)
    (names : List String) :
    noOthers entries names = .ok () ↔
      ∀ entry ∈ entries, ∃ name ∈ names, entry.1 = .text name := by
  unfold noOthers
  dsimp only
  rw [ite_eq_left_iff]
  simp only [reduceCtorEq, imp_false, not_not, List.isEmpty_iff,
    List.filterMap_eq_nil_iff]
  refine forall₂_congr fun entry hEntry => ?_
  have hKey := hWhole entry hEntry
  rcases entry with ⟨key, value⟩
  cases key with
  | text s =>
      rcases not_isHalved_text_iff.mp hKey with ⟨name, rfl⟩
      simp
  | _ => simp

/- A record that has no other fields has the right ones. -/
theorem closed_eq_ok_iff
    {entries : List (Scalar × Document)}
    {names : List String}
    {fields : Checked α}
    {x : α} :
    closed entries names fields = .ok x ↔
      fields = .ok x ∧
        ∀ entry ∈ entries, ∃ name ∈ names, entry.1 = .text name := by
  unfold closed
  split
  · rename_i hHalved
    rcases List.any_eq_true.mp hHalved with ⟨entry, hEntry, hKey⟩
    have hNone :
        ¬∀ entry ∈ entries, ∃ name ∈ names, entry.1 = .text name := by
      intro hNames
      rcases hNames entry hEntry with ⟨name, _, hName⟩
      rw [hName, not_isHalved_text_iff.mpr ⟨name, rfl⟩] at hKey
      cases hKey
    simp only [hNone, and_false, iff_false]
    split <;> simp [fail]
  · rename_i hWhole
    rw [alongWith_eq_ok_iff, noOthers_eq_ok_iff]
    simpa using hWhole

/-
  A closed record passes if its fields do and no other is
  there.
-/
@[simp]
theorem passes_closed_iff
    (entries : List (Scalar × Document))
    (names : List String)
    (fields : Checked α) :
    Passes (closed entries names fields) ↔
      Passes fields ∧
        ∀ entry ∈ entries, ∃ name ∈ names, entry.1 = .text name := by
  simp only [Passes, closed_eq_ok_iff, exists_and_right]

/- The string of a value tells which value it is. -/
theorem string?_eq_some_iff
    {d : Document}
    {s : String} :
    d.string? = some s ↔ d = .scalar (.text s) := by
  constructor
  · intro hString
    unfold Document.string? at hString
    split at hString
    · rw [Text.toString?_eq_some_iff.mp hString]
    · cases hString
  · rintro rfl
    exact Text.toString?_ofString s

/- The kind of a record is one of the tags. -/
theorem tagged_eq_ok_iff
    {field : String}
    {tags : List String}
    {d : Document}
    {kind : String × List (Scalar × Document)} :
    tagged field tags d = .ok kind ↔
      d = .mapping kind.2 ∧
      Document.find? kind.2 field = some (.scalar (.text kind.1)) ∧
      kind.1 ∈ tags := by
  rcases kind with ⟨tag, entries⟩
  constructor
  · intro hTagged
    unfold tagged at hTagged
    split at hTagged
    · split at hTagged
      · cases hTagged
      · rename_i value hFind
        split at hTagged
        · rename_i other hString
          split at hTagged
          · rename_i hKnown
            cases hTagged
            rw [string?_eq_some_iff.mp hString] at hFind
            exact ⟨rfl, hFind, List.contains_iff_mem.mp hKnown⟩
          · cases hTagged
        · cases hTagged
    · cases hTagged
  · rintro ⟨rfl, hFind, hKnown⟩
    dsimp only at hFind hKnown
    unfold tagged
    simp only [hFind, string?_eq_some_iff.mpr rfl]
    rw [if_pos (List.contains_iff_mem.mpr hKnown)]

/- A record is read as its kind tells. -/
theorem bind_tagged_eq_ok_iff
    {field : String}
    {tags : List String}
    {d : Document}
    {readKind : String → List (Scalar × Document) → Checked α}
    {x : α} :
    (do
      let (tag, entries) ← tagged field tags d
      within tag (readKind tag entries)) = .ok x ↔
      ∃ entries, ∃ tag : String,
        d = .mapping entries ∧
        Document.find? entries field =
          some (.scalar (.text tag)) ∧
        tag ∈ tags ∧
        readKind tag entries = .ok x := by
  rw [bind_eq_ok_iff]
  constructor
  · rintro ⟨⟨tag, entries⟩, hTagged, hKind⟩
    rcases tagged_eq_ok_iff.mp hTagged with
      ⟨hMapping, hTag, hKnown⟩
    exact ⟨entries, tag, hMapping, hTag, hKnown,
      within_eq_ok_iff.mp hKind⟩
  · rintro ⟨entries, tag, hMapping, hTag, hKnown, hKind⟩
    exact ⟨(tag, entries),
      tagged_eq_ok_iff.mpr ⟨hMapping, hTag, hKnown⟩,
      within_eq_ok_iff.mpr hKind⟩

end Checked

end Replay
