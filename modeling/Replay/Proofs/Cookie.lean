import Replay.Jar
import Replay.Proofs.Json.Document
import Replay.Proofs.Json.RoundTrip

/-
  This file proves what the record of a cookie reads back as,
  and that a list of cookies is restored from its records if
  none of them expired before time began.

  Key definitions include:
    * `Cookie.IsLasting`
    * `Cookie.HasPlainExpiry`
    * `Cookie.IsUnpaired`
    * `Cookie.IsWhole`
    * `Cookie.settled`
    * `Jar.AreRead`

  Main results:
    * `Cookie.isLasting_of_read`
    * `Cookie.isUnpaired_of_read`
    * `Cookie.read_record`
    * `Jar.readJson_writeJson_eq`
    * `Jar.readJson_writeJson`
    * `Jar.json_restores_iff`

  A JSON text tells halves of surrogate pairs by escapes, and
  two escapes in a row that make a pair are one character.
-/

------------------------------------------------------------
-- Expiry
------------------------------------------------------------

namespace Replay

open Number

namespace Cookie

open Checked

/- The time of expiry, if there is one, is not below zero. -/
def IsLasting (c : Cookie) : Prop :=
  ∀ x, c.expires = some x → x.isNegative = false

/- The time of expiry is left out, null or a number. -/
def HasPlainExpiry (d : Document) : Prop :=
  match d.field? "expires" with
  | none => True
  | some (.scalar .null) => True
  | some (.scalar (.integer _)) => True
  | some (.scalar (.number _)) => True
  | _ => False

/- The nearest number to an integer has its sign. -/
theorem isNegative_of_ofInt?
    {n : Int}
    {x : Binary64}
    (hNumber : Binary64.ofInt? n = some x)
    (hSign : 0 ≤ n) :
    x.isNegative = false := by
  unfold Binary64.ofInt? at hNumber
  dsimp only at hNumber
  split at hNumber
  · cases hNumber
    simp [Binary64.ofCode, Binary64.isNegative, hSign]
  · cases hNumber

/-
  An integer counts as the number nearest to it.  The nearest
  number is named by a variable here, so that no step tries
  to compute it.
-/
theorem toNumber_of_asNumber
    {toNumber : Int → Option Binary64}
    (hFunction : toNumber = Binary64.ofInt?)
    {d : Document}
    {n : Int}
    {x : Binary64}
    (hNumber : asNumber d = .ok x)
    (hInteger : d = .scalar (.integer n)) :
    toNumber n = some x := by
  unfold asNumber at hNumber
  rw [← hFunction] at hNumber
  clear hFunction
  subst hInteger
  cases hSome : toNumber n with
  | none =>
      simp [stringOf?, hSome, fail] at hNumber
  | some y =>
      simpa [stringOf?, hSome] using hNumber

/-
  An expiry that is read is a number that was not below
  zero.
-/
theorem ok_of_readExpiry
    {d : Document}
    {x : Binary64}
    (hRead : readExpiry d = .ok (some x)) :
    isBelowZero d = false ∧ asNumber d = .ok x := by
  unfold readExpiry at hRead
  split at hRead
  · cases hRead
  · rename_i hBelow
    refine ⟨by simpa using hBelow, ?_⟩
    unfold Checked.optional at hRead
    split at hRead
    · cases hRead
    · cases hNumber : asNumber d with
      | error rejection =>
          rw [hNumber] at hRead
          cases hRead
      | ok y =>
          rw [hNumber] at hRead
          cases hRead
          rfl

/- A plain time of expiry is read as one not below zero. -/
theorem isNegative_of_readExpiry
    {d : Document}
    {x : Binary64}
    (hRead : readExpiry d = .ok (some x))
    (hPlain :
      d = .scalar .null ∨ (∃ n, d = .scalar (.integer n)) ∨
        ∃ y, d = .scalar (.number y)) :
    x.isNegative = false := by
  rcases ok_of_readExpiry hRead with ⟨hBelow, hNumber⟩
  rcases hPlain with hNull | ⟨n, hInteger⟩ | ⟨y, hOther⟩
  · rw [hNull] at hNumber
    cases hNumber
  · have hNearest := toNumber_of_asNumber rfl hNumber hInteger
    rw [hInteger] at hBelow
    exact isNegative_of_ofInt? hNearest
      (by simpa [isBelowZero] using hBelow)
  · rw [hOther] at hNumber hBelow
    cases hNumber
    exact hBelow

/- What the field with the time of expiry was read as. -/
theorem expires_of_read
    {entries : List (Scalar × Document)}
    {c : Cookie}
    (hRead : read (.mapping entries) = .ok c) :
    optionalField entries "expires" none readExpiry =
      .ok c.expires := by
  unfold read at hRead
  rcases Outcome.map_eq_ok_iff.mp hRead with
    ⟨fields, hFields, hCookie⟩
  have hFromValue := (both_eq_ok_iff.mp hFields).2
  have hFromDomain := (both_eq_ok_iff.mp hFromValue).2
  have hFromPath := (both_eq_ok_iff.mp hFromDomain).2
  have hFromExpires := (both_eq_ok_iff.mp hFromPath).2
  rw [← hCookie]
  exact (both_eq_ok_iff.mp hFromExpires).1

/- The cookie of a record with a plain expiry is lasting. -/
theorem isLasting_of_read
    {d : Document}
    {c : Cookie}
    (hRead : read d = .ok c)
    (hPlain : HasPlainExpiry d) :
    c.IsLasting := by
  intro x hExpires
  cases d with
  | mapping entries =>
      have hField := expires_of_read hRead
      rw [hExpires] at hField
      unfold optionalField at hField
      unfold HasPlainExpiry Document.field? at hPlain
      cases hFind : Document.find? entries "expires" with
      | none =>
          rw [hFind] at hField
          cases hField
      | some value =>
          simp only [hFind] at hField hPlain
          refine isNegative_of_readExpiry
            (within_eq_ok_iff.mp hField) ?_
          split at hPlain
          · rename_i hNone
            cases hNone
          · rename_i hNull
            exact Or.inl (Option.some.inj hNull)
          · rename_i n hInteger
            exact Or.inr (Or.inl
              ⟨n, Option.some.inj hInteger⟩)
          · rename_i y hNumber
            exact Or.inr (Or.inr ⟨y, Option.some.inj hNumber⟩)
          · exact hPlain.elim
  | _ => cases hRead

------------------------------------------------------------
-- Texts
------------------------------------------------------------

/- No two halves in a row make a pair in any of its texts. -/
structure IsUnpaired (c : Cookie) : Prop where
  name : c.name.IsUnpaired
  value : c.value.IsUnpaired
  domain : c.domain.IsUnpaired
  path : c.path.IsUnpaired

/- All of its texts are rows of characters. -/
structure IsWhole (c : Cookie) : Prop where
  name : c.name.IsWhole
  value : c.value.IsWhole
  domain : c.domain.IsWhole
  path : c.path.IsWhole

theorem IsWhole.isUnpaired
    {c : Cookie}
    (hWhole : c.IsWhole) :
    c.IsUnpaired :=
  ⟨hWhole.name.isUnpaired, hWhole.value.isUnpaired,
    hWhole.domain.isUnpaired, hWhole.path.isUnpaired⟩

/- A text is taken as it is; bytes become characters. -/
theorem isUnpaired_of_asText
    {d : Document}
    {s : Text}
    (hUnpaired : d.IsUnpaired)
    (hText : asText d = .ok s) :
    s.IsUnpaired := by
  unfold asText at hText
  split at hText
  · cases hText
    cases hUnpaired with
    | scalar hScalar =>
        exact hScalar s rfl
  · split at hText
    · cases hText
      exact Text.isUnpaired_ofString _
    · cases hText
  · cases hText

/- Nothing in the texts of a cookie is not in its record. -/
theorem isUnpaired_of_read
    {d : Document}
    {c : Cookie}
    (hUnpaired : d.IsUnpaired)
    (hRead : read d = .ok c) :
    c.IsUnpaired := by
  cases d with
  | mapping entries =>
      have hRequired
          {name : String}
          {s : Text}
          (hField : required entries name asText = .ok s) :
          s.IsUnpaired := by
        rcases required_eq_ok_iff.mp hField with
          ⟨value, hFind, hText⟩
        exact isUnpaired_of_asText (hUnpaired.of_find? hFind) hText
      have hOptional
          {name default : String}
          {s : Text}
          (hField :
            optionalField entries name (Text.ofString default)
              asText = .ok s) :
          s.IsUnpaired := by
        rcases optionalField_eq_ok_iff.mp hField with
          ⟨_, rfl⟩ | ⟨value, hFind, hText⟩
        · exact Text.isUnpaired_ofString default
        · exact isUnpaired_of_asText (hUnpaired.of_find? hFind)
            hText
      unfold read at hRead
      rcases Outcome.map_eq_ok_iff.mp hRead with
        ⟨fields, hFields, rfl⟩
      rcases both_eq_ok_iff.mp hFields with ⟨hName, hFields⟩
      rcases both_eq_ok_iff.mp hFields with ⟨hValue, hFields⟩
      rcases both_eq_ok_iff.mp hFields with ⟨hDomain, hFields⟩
      rcases both_eq_ok_iff.mp hFields with ⟨hPath, _⟩
      exact ⟨hRequired hName, hRequired hValue,
        hRequired hDomain, hOptional hPath⟩
  | _ => cases hRead

------------------------------------------------------------
-- Records
------------------------------------------------------------

/-
  The cookie as its record tells it: a time of expiry below
  zero marks a session cookie.
-/
def settled (c : Cookie) : Cookie :=
  { c with expires := c.expires.filter fun x => !x.isNegative }

/- A lasting cookie is settled already, and no other one is. -/
theorem settled_eq_self_iff (c : Cookie) :
    c.settled = c ↔ c.IsLasting := by
  rcases c with
    ⟨name, value, domain, path, expires, httpOnly, secure,
      sameSite⟩
  cases expires with
  | none =>
      simp [settled, IsLasting]
  | some x =>
      simp [settled, IsLasting, Option.filter_eq_some_iff]

theorem readExpiry_number (x : Binary64) :
    readExpiry (.scalar (.number x)) =
      .ok ((some x).filter fun x => !x.isNegative) := by
  have hBelow :
      isBelowZero (.scalar (.number x)) = x.isNegative := rfl
  rw [readExpiry, hBelow, Option.filter_some]
  cases x.isNegative <;> rfl

/- A field of an object is a field of its document. -/
theorem find?_entries
    (fields : List (String × Json.Value))
    (name : String) :
    Document.find? (Json.Value.entries fields) name =
      (fields.lookup name).map Json.Value.document := by
  induction fields with
  | nil =>
      rfl
  | cons field rest ih =>
      rcases field with ⟨other, value⟩
      unfold Document.find? at ih ⊢
      rw [Json.Value.entries, List.find?_cons, List.lookup_cons]
      by_cases hSame : name = other
      · rw [hSame]
        simp
      · have hKey :
            (Scalar.text other == Scalar.text name) = false := by
          simpa using Ne.symm hSame
        have hName : (name == other) = false := by
          simpa using hSame
        simp only [hKey, hName]
        exact ih

/- The fields of a record, by their names. -/
theorem lookup_record (c : Cookie) :
    c.record.lookup "name" = some (.text c.name) ∧
    c.record.lookup "value" = some (.text c.value) ∧
    c.record.lookup "domain" = some (.text c.domain) ∧
    c.record.lookup "path" = some (.text c.path) ∧
    c.record.lookup "expires" = c.expires.map .number ∧
    c.record.lookup "httpOnly" = some (.boolean c.httpOnly) ∧
    c.record.lookup "http_only" = none ∧
    c.record.lookup "secure" = some (.boolean c.secure) ∧
    c.record.lookup "sameSite" =
      c.sameSite.map (fun choice => .text choice.text) ∧
    c.record.lookup "same_site" = none := by
  rcases c with
    ⟨name, value, domain, path, expires, httpOnly, secure,
      sameSite⟩
  cases expires <;> cases sameSite <;>
    exact ⟨rfl, rfl, rfl, rfl, rfl, rfl, rfl, rfl, rfl, rfl⟩

/- The record of a cookie reads as that cookie, settled. -/
theorem read_record (c : Cookie) :
    read (.mapping (Json.Value.entries c.record)) =
      .ok c.settled := by
  rcases lookup_record c with
    ⟨hName, hValue, hDomain, hPath, hExpires, hHttpOnly, _,
      hSecure, hSameSite, hNoOther⟩
  have hExpiry :
      optionalField (Json.Value.entries c.record) "expires" none
        readExpiry = .ok c.settled.expires := by
    unfold optionalField settled
    rw [find?_entries, hExpires]
    cases c.expires with
    | none =>
        rfl
    | some x =>
        exact congrArg (within "expires") (readExpiry_number x)
  have hChoice :
      eitherField (Json.Value.entries c.record) "sameSite"
        "same_site" none (Checked.optional readSameSite) =
          .ok c.sameSite := by
    unfold eitherField optionalField
    rw [find?_entries, find?_entries, hSameSite, hNoOther]
    cases c.sameSite with
    | none =>
        rfl
    | some choice =>
        cases choice <;> rfl
  unfold read
  dsimp only
  rw [hExpiry, hChoice]
  simp only [required, optionalField, eitherField, find?_entries,
    hName, hValue, hDomain, hPath, hHttpOnly, hSecure]
  rfl

/- The fields of a record are distinct, and none is too long. -/
theorem isReadable_record
    {c : Cookie}
    (hUnpaired : c.IsUnpaired) :
    (Json.Value.object c.record).IsReadable := by
  rcases c with
    ⟨name, value, domain, path, expires, httpOnly, secure,
      sameSite⟩
  rcases hUnpaired with ⟨hName, hValue, hDomain, hPath⟩
  have hTexts :=
    And.intro hName (And.intro hValue (And.intro hDomain hPath))
  cases expires <;> cases sameSite <;>
    simpa [record, Json.Value.IsReadable, Json.Value.HaveReadable,
      Text.isUnpaired_ofString] using hTexts

end Cookie

------------------------------------------------------------
-- Lists of Records
------------------------------------------------------------

namespace Jar

/- What is paired with a member of a list. -/
theorem exists_of_forall₂
    {α β : Type}
    {R : α → β → Prop}
    {as : List α}
    {bs : List β}
    (hPairs : List.Forall₂ R as bs)
    {a : α}
    (hMember : a ∈ as) :
    ∃ b ∈ bs, R a b := by
  induction hPairs with
  | nil =>
      exact absurd hMember List.not_mem_nil
  | cons hFirst _ ih =>
      rcases List.mem_cons.mp hMember with rfl | hLater
      · exact ⟨_, List.mem_cons_self, hFirst⟩
      · rcases ih hLater with ⟨b, hIn, hPair⟩
        exact ⟨b, List.mem_cons_of_mem _ hIn, hPair⟩

/- The records are read as the cookies, one by one. -/
abbrev AreRead
    (records : List Document)
    (cookies : List Cookie) : Prop :=
  List.Forall₂ (fun d c => Cookie.read d = .ok c) records cookies

namespace AreRead

variable {records : List Document}
variable {cookies : List Cookie}

/- Every cookie is that of a record. -/
theorem exists_of_mem
    (hRead : AreRead records cookies)
    {c : Cookie}
    (hMember : c ∈ cookies) :
    ∃ d ∈ records, Cookie.read d = .ok c :=
  exists_of_forall₂ hRead.flip hMember

/- What can be read is lasting if its expiry is plain. -/
theorem isLasting
    (hRead : AreRead records cookies)
    (hPlain : ∀ d ∈ records, Cookie.HasPlainExpiry d) :
    ∀ c ∈ cookies, c.IsLasting := by
  intro c hMember
  rcases hRead.exists_of_mem hMember with ⟨d, hRecord, hCookie⟩
  exact Cookie.isLasting_of_read hCookie (hPlain d hRecord)

/- The cookies of unpaired records are unpaired. -/
theorem isUnpaired
    (hRead : AreRead records cookies)
    (hUnpaired : ∀ d ∈ records, d.IsUnpaired) :
    ∀ c ∈ cookies, c.IsUnpaired := by
  intro c hMember
  rcases hRead.exists_of_mem hMember with ⟨d, hRecord, hCookie⟩
  exact Cookie.isUnpaired_of_read (hUnpaired d hRecord) hCookie

end AreRead

/- Cookies are read from their records one by one. -/
theorem areRead_of_readRecords
    {records : List Document}
    {cookies : List Cookie}
    (hRead : readRecords records = .ok cookies) :
    AreRead records cookies := by
  induction records generalizing cookies with
  | nil =>
      cases hRead
      exact .nil
  | cons d rest ih =>
      rw [readRecords] at hRead
      split at hRead
      · rename_i c hFirst
        rcases Outcome.map_eq_ok_iff.mp hRead with
          ⟨others, hRest, rfl⟩
        exact .cons hFirst (ih hRest)
      · cases hRead
      · cases hRead

/- The cookies of a jar are those of its records. -/
theorem exists_records_of_readJson
    {text : String}
    {cookies : List Cookie}
    (hRead : readJson text = .ok cookies) :
    ∃ records,
      Json.read text = .ok (.sequence records) ∧
        AreRead records cookies := by
  unfold readJson at hRead
  split at hRead
  · cases hRead
  · cases hRead
  · rename_i records hRecords
    exact ⟨records, hRecords, areRead_of_readRecords hRead⟩
  · cases hRead

------------------------------------------------------------
-- Jars
------------------------------------------------------------

/- The records of cookies are read as the settled cookies. -/
theorem readRecords_records (cookies : List Cookie) :
    readRecords
        (Json.Value.documents
          (cookies.map fun c => .object c.record)) =
      .ok (cookies.map Cookie.settled) := by
  induction cookies with
  | nil =>
      rfl
  | cons c rest ih =>
      rw [List.map_cons, Json.Value.documents,
        Json.Value.document, readRecords, Cookie.read_record]
      dsimp only
      rw [ih]
      rfl

/- The records of unpaired cookies can be read back. -/
theorem areReadable_records
    {cookies : List Cookie}
    (hUnpaired : ∀ c ∈ cookies, c.IsUnpaired) :
    Json.Value.AreReadable
      (cookies.map fun c => .object c.record) := by
  induction cookies with
  | nil =>
      trivial
  | cons c rest ih =>
      rw [List.forall_mem_cons] at hUnpaired
      exact ⟨Cookie.isReadable_record hUnpaired.1,
        ih hUnpaired.2⟩

/- The cookies of a jar are read back settled. -/
theorem readJson_writeJson_eq
    {cookies : List Cookie}
    (hUnpaired : ∀ c ∈ cookies, c.IsUnpaired) :
    readJson (writeJson cookies) =
      .ok (cookies.map Cookie.settled) := by
  have hText :
      Json.read (writeJson cookies) =
        .ok (.sequence (Json.Value.documents
          (cookies.map fun c => .object c.record))) :=
    Json.read_write (areReadable_records hUnpaired)
  rw [readJson, hText]
  exact readRecords_records cookies

theorem map_settled_eq_self_iff (cookies : List Cookie) :
    cookies.map Cookie.settled = cookies ↔
      ∀ c ∈ cookies, c.IsLasting := by
  induction cookies with
  | nil =>
      simp
  | cons c rest ih =>
      rw [List.map_cons, List.cons.injEq, ih,
        Cookie.settled_eq_self_iff, List.forall_mem_cons]

/- Lasting cookies read back from their jar. -/
theorem readJson_writeJson
    {cookies : List Cookie}
    (hUnpaired : ∀ c ∈ cookies, c.IsUnpaired)
    (hLasting : ∀ c ∈ cookies, c.IsLasting) :
    readJson (writeJson cookies) = .ok cookies := by
  rw [readJson_writeJson_eq hUnpaired,
    (map_settled_eq_self_iff cookies).mpr hLasting]

/- The cookies that are read from a text are unpaired. -/
theorem isUnpaired_of_readJson
    {text : String}
    {cookies : List Cookie}
    (hRead : readJson text = .ok cookies) :
    ∀ c ∈ cookies, c.IsUnpaired := by
  rcases exists_records_of_readJson hRead with
    ⟨records, hText, hAll⟩
  cases Json.isUnpaired_of_read hText with
  | sequence hItems =>
      exact hAll.isUnpaired hItems

/-
  A list of cookies is what its jar reads as, in all of its
  fields, if and only if every cookie of it is lasting and
  unpaired.  Cookies of whole texts need to be lasting only.
-/
theorem json_restores_iff (cookies : List Cookie) :
    (readJson (writeJson cookies) = .ok cookies ↔
      ∀ c ∈ cookies, c.IsLasting ∧ c.IsUnpaired) ∧
    ((∀ c ∈ cookies, c.IsWhole) →
      (readJson (writeJson cookies) = .ok cookies ↔
        ∀ c ∈ cookies, c.IsLasting)) := by
  have hSettled (hUnpaired : ∀ c ∈ cookies, c.IsUnpaired) :
      readJson (writeJson cookies) = .ok cookies ↔
        ∀ c ∈ cookies, c.IsLasting := by
    rw [readJson_writeJson_eq hUnpaired, Except.ok.injEq,
      map_settled_eq_self_iff]
  refine ⟨?all, ?whole⟩
  case all =>
    constructor
    · intro hRestored
      have hUnpaired := isUnpaired_of_readJson hRestored
      exact fun c hMember =>
        ⟨(hSettled hUnpaired).mp hRestored c hMember,
          hUnpaired c hMember⟩
    · intro hBoth
      exact (hSettled fun c hMember => (hBoth c hMember).2).mpr
        fun c hMember => (hBoth c hMember).1
  case whole =>
    exact fun hWhole => hSettled fun c hMember =>
      (hWhole c hMember).isUnpaired

/- A cookie whose value is no ASCII and whose expiry is none. -/
def wholeCookie : Cookie where
  name := "word"
  value := "grün"
  domain := "d"
  path := "/"
  expires := none
  httpOnly := true
  secure := false
  sameSite := some .lax

/- A cookie of whole texts comes back from its jar. -/
theorem json_restores_iff_of_wholeCookie :
    (∀ c ∈ [wholeCookie], c.IsWhole) ∧
    readJson (writeJson [wholeCookie]) = .ok [wholeCookie] := by
  have hWhole : ∀ c ∈ [wholeCookie], c.IsWhole := by
    intro c hMember
    rw [List.mem_singleton.mp hMember]
    exact ⟨Text.isWhole_iff.mpr ⟨_, rfl⟩,
      Text.isWhole_iff.mpr ⟨_, rfl⟩,
      Text.isWhole_iff.mpr ⟨_, rfl⟩,
      Text.isWhole_iff.mpr ⟨_, rfl⟩⟩
  refine ⟨hWhole, ((json_restores_iff _).2 hWhole).mpr ?_⟩
  intro c hMember x hExpires
  rw [List.mem_singleton.mp hMember] at hExpires
  cases hExpires

end Jar

end Replay
