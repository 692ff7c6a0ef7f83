import Replay.Cookie
import Replay.Proofs.Validation

/-
  This file proves which checks of documents find faults at
  worst, and where a check that ends before its end does so.

  Key definitions include:
    * `Checked.FaultsOnly`

  Main results:
    * `Checked.both_eq_overrun_iff`
    * `Checked.required_eq_overrun_iff`
    * `Checked.bind_tagged_eq_overrun_iff`
    * `Cookie.read_faultsOnly`
-/

------------------------------------------------------------
-- Checks
------------------------------------------------------------

namespace Replay

open Number Text

namespace Checked

open Outcome

variable {α β : Type}

/- The check succeeds, or goes on to its end and finds faults. -/
def FaultsOnly (check : Checked α) : Prop :=
  ∀ cause, check ≠ .error (.overrun cause)

theorem faultsOnly_ok (x : α) :
    FaultsOnly (.ok x) := by
  intro cause hOverrun
  cases hOverrun

theorem faultsOnly_fail (mismatch : Mismatch) :
    FaultsOnly (α := α) (fail mismatch) := by
  intro cause hOverrun
  cases hOverrun

/- What such a check refuses has faults. -/
theorem FaultsOnly.exists_faults
    {check : Checked α}
    (hCheck : FaultsOnly check)
    {rejection : Rejection}
    (hError : check = .error rejection) :
    ∃ faults, rejection = .faults faults := by
  cases rejection with
  | faults faults =>
      exact ⟨faults, rfl⟩
  | overrun cause =>
      exact absurd hError (hCheck cause)

/- An overrun is the same wherever it happens. -/
theorem within_eq_overrun_iff
    {place : String}
    {check : Checked α}
    {cause : Overrun} :
    within place check = .error (.overrun cause) ↔
      check = .error (.overrun cause) := by
  unfold within
  split
  · simp
  · rfl

/- Of two checks the first one overruns, if only it can. -/
theorem both_eq_overrun_iff
    {a : Checked α}
    {b : Checked β}
    {cause : Overrun}
    (hB : FaultsOnly b) :
    both a b = .error (.overrun cause) ↔
      a = .error (.overrun cause) := by
  rcases b with (faults | other) | y
  · rcases a with (_ | _) | _ <;> simp [both]
  · exact absurd rfl (hB other)
  · rcases a with (_ | _) | _ <;> simp [both]

/- A check that only finds faults adds no overrun. -/
theorem alongWith_eq_overrun_iff
    {a : Checked α}
    {b : Checked Unit}
    {cause : Overrun}
    (hB : FaultsOnly b) :
    alongWith a b = .error (.overrun cause) ↔
      a = .error (.overrun cause) := by
  rw [alongWith, map_eq_error_iff, both_eq_overrun_iff hB]

namespace FaultsOnly

theorem within
    {check : Checked α}
    (hCheck : FaultsOnly check)
    (place : String) :
    FaultsOnly (Checked.within place check) := by
  intro cause hOverrun
  exact hCheck cause (within_eq_overrun_iff.mp hOverrun)

theorem map
    {check : Checked α}
    (hCheck : FaultsOnly check)
    (f : α → β) :
    FaultsOnly (check.map f) := by
  intro cause hOverrun
  exact hCheck cause (map_eq_error_iff.mp hOverrun)

/- Two checks find faults only if each one does. -/
theorem both
    {a : Checked α}
    {b : Checked β}
    (hA : FaultsOnly a)
    (hB : FaultsOnly b) :
    FaultsOnly (Checked.both a b) := by
  intro cause hOverrun
  exact hA cause ((both_eq_overrun_iff hB).mp hOverrun)

/- So do two checks one after the other. -/
theorem bind
    {first : Checked α}
    {next : α → Checked β}
    (hFirst : FaultsOnly first)
    (hNext : ∀ x, FaultsOnly (next x)) :
    FaultsOnly (first >>= next) := by
  intro cause hOverrun
  rcases bind_eq_error_iff.mp hOverrun with hEarly | ⟨x, _, hLate⟩
  · exact hFirst cause hEarly
  · exact hNext x cause hLate

/- So do any checks. -/
theorem all
    {checks : List (Checked α)}
    (hChecks : ∀ check ∈ checks, FaultsOnly check) :
    FaultsOnly (Checked.all checks) := by
  induction checks with
  | nil =>
      exact faultsOnly_ok []
  | cons check rest ih =>
      rw [List.forall_mem_cons] at hChecks
      exact (hChecks.1.both (ih hChecks.2)).map _

end FaultsOnly

------------------------------------------------------------
-- Scalars
------------------------------------------------------------

/- To want a text finds faults only. -/
theorem asText_faultsOnly (d : Document) :
    FaultsOnly (asText d) := by
  unfold asText
  split
  · exact faultsOnly_ok _
  · split
    · exact faultsOnly_ok _
    · exact faultsOnly_fail _
  · exact faultsOnly_fail _

theorem optional_faultsOnly
    {check : Document → Checked α}
    (hCheck : ∀ d, FaultsOnly (check d))
    (d : Document) :
    FaultsOnly (Checked.optional check d) := by
  unfold Checked.optional
  split
  · exact faultsOnly_ok none
  · exact (hCheck d).map some

/- The string of a scalar is there or has faults. -/
theorem stringOf?_faultsOnly
    {mismatch : Mismatch}
    {d : Document}
    {outcome : Checked String}
    (hString : stringOf? mismatch d = some outcome) :
    FaultsOnly outcome := by
  unfold stringOf? at hString
  split at hString
  · split at hString
    · cases hString
      exact faultsOnly_ok _
    · cases hString
      exact faultsOnly_fail _
  · split at hString
    · cases hString
      exact faultsOnly_ok _
    · cases hString
      exact faultsOnly_fail _
  · cases hString

theorem booleanOfInteger_faultsOnly (n : Int) :
    FaultsOnly (booleanOfInteger n) := by
  unfold booleanOfInteger
  split
  · exact faultsOnly_ok false
  · split
    · exact faultsOnly_ok true
    · exact faultsOnly_fail _

/- To want a truth value finds faults only. -/
theorem asBoolean_faultsOnly (d : Document) :
    FaultsOnly (asBoolean d) := by
  unfold asBoolean
  split
  · rename_i hString
    intro cause hOverrun
    cases hOverrun
    exact stringOf?_faultsOnly hString cause rfl
  · split
    · exact faultsOnly_ok _
    · exact faultsOnly_fail _
  · split
    · exact faultsOnly_ok _
    · split
      · exact booleanOfInteger_faultsOnly _
      · exact faultsOnly_fail _
    · split
      · exact booleanOfInteger_faultsOnly _
      · exact faultsOnly_fail _
    · exact faultsOnly_fail _

/-
  The nearest number is named by a variable here, so that no
  step tries to compute it.
-/
theorem asNumber_faultsOnly (d : Document) :
    FaultsOnly (asNumber d) := by
  intro cause hOverrun
  unfold asNumber at hOverrun
  obtain ⟨toNumber, hNumber⟩ :
      ∃ toNumber, toNumber = Binary64.ofInt? :=
    ⟨_, rfl⟩
  rw [← hNumber] at hOverrun
  clear hNumber
  cases hText : stringOf? .notNumberText d with
  | some outcome =>
      rw [hText] at hOverrun
      cases outcome with
      | error rejection =>
          cases hOverrun
          exact stringOf?_faultsOnly hText cause rfl
      | ok s =>
          cases hRead : readPlainNumber? s <;>
            simp [hRead, fail] at hOverrun
  | none =>
      rw [hText] at hOverrun
      cases d with
      | scalar value =>
          cases value with
          | integer n =>
              cases hNearest : toNumber n <;>
                simp [hNearest, fail] at hOverrun
          | _ => cases hOverrun
      | _ => cases hOverrun

------------------------------------------------------------
-- Collections
------------------------------------------------------------

/- The items of a list are no cause of an overrun. -/
theorem listOf_faultsOnly
    {check : Document → Checked α}
    (hCheck : ∀ d, FaultsOnly (check d))
    (d : Document) :
    FaultsOnly (listOf check d) := by
  have hItems
      (place : Nat)
      (items : List Document) :
      ∀ item ∈ itemsFrom check place items, FaultsOnly item := by
    induction items generalizing place with
    | nil =>
        exact fun item hNone => absurd hNone List.not_mem_nil
    | cons item rest ih =>
        rw [itemsFrom, List.forall_mem_cons]
        exact ⟨(hCheck item).within _, ih (place + 1)⟩
  unfold listOf
  split
  · exact FaultsOnly.all (hItems 0 _)
  · exact faultsOnly_fail _

/- Neither are keys that must be texts. -/
theorem textKeys_faultsOnly
    {check : α → Checked β}
    (hCheck : ∀ x, FaultsOnly (check x))
    (entries : List (Scalar × α)) :
    FaultsOnly (textKeys check entries) := by
  unfold textKeys
  apply FaultsOnly.map
  apply FaultsOnly.all
  intro pair hPair
  rcases List.mem_map.mp hPair with ⟨⟨key, value⟩, _, rfl⟩
  have hKey := (asText_faultsOnly (.scalar key)).within "[key]"
  exact (hKey.both (hCheck value)).within _

section

variable {entries : List (Scalar × Document)}
variable {name : String}
variable {check : Document → Checked α}

/- A field that must be there overruns where its value does. -/
theorem required_eq_overrun_iff
    {cause : Overrun} :
    required entries name check = .error (.overrun cause) ↔
      ∃ value,
        Document.find? entries name = some value ∧
          check value = .error (.overrun cause) := by
  rw [required, within_eq_overrun_iff]
  cases Document.find? entries name <;> simp [fail]

/- Neither is a field that must be there. -/
theorem required_faultsOnly
    (hCheck : ∀ d, FaultsOnly (check d)) :
    FaultsOnly (required entries name check) := by
  intro cause hOverrun
  rcases required_eq_overrun_iff.mp hOverrun with
    ⟨value, _, hValue⟩
  exact hCheck value cause hValue

/- Neither is a field that may be left out. -/
theorem optionalField_faultsOnly
    (hCheck : ∀ d, FaultsOnly (check d))
    (default : α) :
    FaultsOnly (optionalField entries name default check) := by
  unfold optionalField
  split
  · exact (hCheck _).within name
  · exact faultsOnly_ok default

end

theorem noOthers_faultsOnly
    (entries : List (Scalar × Document))
    (names : List String) :
    FaultsOnly (noOthers entries names) := by
  unfold noOthers
  dsimp only
  split
  · exact faultsOnly_ok ()
  · intro cause hOverrun
    cases hOverrun

/- To look for the kind of a record finds faults only. -/
theorem tagged_faultsOnly
    (field : String)
    (tags : List String)
    (d : Document) :
    FaultsOnly (tagged field tags d) := by
  unfold tagged
  split
  · split
    · exact faultsOnly_fail _
    · split
      · split
        · exact faultsOnly_ok _
        · exact faultsOnly_fail _
      · exact faultsOnly_fail _
  · exact faultsOnly_fail _

/- A record without other fields overruns where its fields do. -/
theorem closed_eq_overrun_iff
    {entries : List (Scalar × Document)}
    {names : List String}
    {fields : Checked α}
    {cause : Overrun} :
    closed entries names fields = .error (.overrun cause) ↔
      fields = .error (.overrun cause) := by
  unfold closed
  split
  · rcases fields with (_ | _) | _ <;> simp [fail]
  · exact alongWith_eq_overrun_iff (noOthers_faultsOnly _ _)

/- Other fields than the known ones are faults. -/
theorem closed_faultsOnly
    (entries : List (Scalar × Document))
    (names : List String)
    {fields : Checked α}
    (hFields : FaultsOnly fields) :
    FaultsOnly (closed entries names fields) :=
  fun cause hOverrun =>
    hFields cause (closed_eq_overrun_iff.mp hOverrun)

end Checked

------------------------------------------------------------
-- Cookies
------------------------------------------------------------

namespace Cookie

open Checked

/- An expiry that is none is a fault. -/
theorem readExpiry_faultsOnly (d : Document) :
    FaultsOnly (readExpiry d) := by
  unfold readExpiry
  split
  · exact faultsOnly_ok none
  · exact optional_faultsOnly asNumber_faultsOnly d

theorem readSameSite_faultsOnly (d : Document) :
    FaultsOnly (readSameSite d) := by
  unfold readSameSite
  split
  · split
    · split
      · exact faultsOnly_ok _
      · exact faultsOnly_fail _
    · exact faultsOnly_fail _
  · exact faultsOnly_fail _

/- Neither is a field with two names. -/
theorem eitherField_faultsOnly
    {α : Type}
    {check : Document → Checked α}
    (hCheck : ∀ d, FaultsOnly (check d))
    (entries : List (Scalar × Document))
    (first second : String)
    (default : α) :
    FaultsOnly (eitherField entries first second default check) := by
  unfold eitherField
  split
  · exact (hCheck _).within first
  · exact optionalField_faultsOnly hCheck default

/- The record of a cookie has faults at worst. -/
theorem read_faultsOnly (d : Document) :
    FaultsOnly (read d) := by
  unfold read
  split
  · apply FaultsOnly.map
    -- the fields, in the order in which they are checked
    refine (required_faultsOnly asText_faultsOnly).both ?_
    refine (required_faultsOnly asText_faultsOnly).both ?_
    refine (required_faultsOnly asText_faultsOnly).both ?_
    refine (optionalField_faultsOnly asText_faultsOnly _).both ?_
    refine (optionalField_faultsOnly readExpiry_faultsOnly _).both ?_
    refine (eitherField_faultsOnly asBoolean_faultsOnly
      _ _ _ _).both ?_
    refine (optionalField_faultsOnly asBoolean_faultsOnly _).both ?_
    exact eitherField_faultsOnly
      (optional_faultsOnly readSameSite_faultsOnly) _ _ _ _
  · exact faultsOnly_fail _

end Cookie

end Replay
