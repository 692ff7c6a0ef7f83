import Replay.Proofs.Jar.Refusal

/-
  This file proves which records of cookies let an expiry below
  zero in, and that such an expiry is gone after the cookies
  are written and read once.

  Key definitions include:
    * `Cookie.HasNegativeText`

  Main results:
    * `Cookie.isNegative_iff_of_readExpiry`
    * `Cookie.isLasting_iff_of_read`
    * `Jar.expiry_of_accepted`
-/

------------------------------------------------------------
-- Expiry
------------------------------------------------------------

namespace Replay

open Number Checked Outcome

namespace Cookie

/- A text is read as a number below zero. -/
def IsNegativeText (d : Document) : Prop :=
  ∃ s x,
    stringOf? .notNumberText d = some (.ok s) ∧
    readPlainNumber? s = some x ∧
    x.isNegative = true

/- The time of expiry is such a text. -/
def HasNegativeText (d : Document) : Prop :=
  ∃ value, d.field? "expires" = some value ∧ IsNegativeText value

/-
  What is read of a text.  The nearest number to an integer is
  named by a variable here, so that no step tries to compute
  it.
-/
theorem readPlainNumber?_of_asNumber
    {d : Document}
    {text : Checked String}
    {x : Binary64}
    (hText : stringOf? .notNumberText d = some text)
    (hNumber : asNumber d = .ok x) :
    ∃ s, text = .ok s ∧ readPlainNumber? s = some x := by
  unfold asNumber at hNumber
  generalize Binary64.ofInt? = toNumber at hNumber
  rw [hText] at hNumber
  cases text with
  | error rejection =>
      cases hNumber
  | ok s =>
      refine ⟨s, rfl, ?_⟩
      cases hRead : readPlainNumber? s with
      | none =>
          simp [hRead, fail] at hNumber
      | some y =>
          simpa [hRead] using hNumber

/- Of what is no text, no number below zero is left. -/
theorem isNegative_of_stringOf?_eq_none
    {d : Document}
    {x : Binary64}
    (hRead : readExpiry d = .ok (some x))
    (hText : stringOf? .notNumberText d = none) :
    x.isNegative = false := by
  rcases ok_of_readExpiry hRead with ⟨_, hNumber⟩
  cases d with
  | scalar value =>
      cases value with
      | null =>
          cases hNumber
      | boolean b =>
          cases hNumber
          rfl
      | integer n =>
          exact isNegative_of_readExpiry hRead
            (Or.inr (Or.inl ⟨n, rfl⟩))
      | number y =>
          exact isNegative_of_readExpiry hRead
            (Or.inr (Or.inr ⟨y, rfl⟩))
      | text s =>
          unfold stringOf? at hText
          dsimp only at hText
          split at hText <;> cases hText
      | bytes data =>
          unfold stringOf? at hText
          dsimp only at hText
          split at hText <;> cases hText
      | _ => cases hNumber
  | _ => cases hNumber

/- No text marks a session cookie. -/
theorem stringOf?_of_readExpiry
    {d : Document}
    (hRead : readExpiry d = .ok none) :
    stringOf? .notNumberText d = none := by
  unfold readExpiry at hRead
  split at hRead
  · rename_i hBelow
    unfold isBelowZero at hBelow
    split at hBelow
    · rfl
    · rfl
    · cases hBelow
  · unfold Checked.optional at hRead
    split at hRead
    · rfl
    · rcases map_eq_ok_iff.mp hRead with ⟨x, _, hSome⟩
      cases hSome

theorem isNegative_iff_of_readExpiry
    {d : Document}
    {x : Binary64}
    (hRead : readExpiry d = .ok (some x)) :
    x.isNegative = true ↔ IsNegativeText d := by
  cases hText : stringOf? .notNumberText d with
  | none =>
      have hSign := isNegative_of_stringOf?_eq_none hRead hText
      refine iff_of_false (by simp [hSign]) ?_
      rintro ⟨s, y, hOther, _⟩
      rw [hText] at hOther
      cases hOther
  | some text =>
      have hNumber := (ok_of_readExpiry hRead).2
      rcases readPlainNumber?_of_asNumber hText hNumber with
        ⟨s, rfl, hPlain⟩
      constructor
      · exact fun hNegative => ⟨s, x, hText, hPlain, hNegative⟩
      · rintro ⟨other, y, hOther, hY, hNegative⟩
        rw [hText] at hOther
        cases hOther
        rw [hPlain] at hY
        cases hY
        exact hNegative

/- Exactly such a text makes a cookie that is not lasting. -/
theorem isLasting_iff_of_read
    {d : Document}
    {c : Cookie}
    (hRead : read d = .ok c) :
    c.IsLasting ↔ ¬HasNegativeText d := by
  cases d with
  | mapping entries =>
      have hField := expires_of_read hRead
      rcases optionalField_eq_ok_iff.mp hField with
        ⟨hNone, hExpires⟩ | ⟨value, hFind, hValue⟩
      · refine iff_of_true ?_ ?_
        · intro x hSome
          rw [hExpires] at hSome
          cases hSome
        · rintro ⟨value, hFind, _⟩
          rw [Document.field?, hNone] at hFind
          cases hFind
      · have hText :
            HasNegativeText (.mapping entries) ↔
              IsNegativeText value := by
          constructor
          · rintro ⟨other, hOther, hNegative⟩
            rw [Document.field?, hFind] at hOther
            cases hOther
            exact hNegative
          · exact fun hNegative => ⟨value, hFind, hNegative⟩
        rw [hText, IsLasting]
        cases hExpires : c.expires with
        | none =>
            rw [hExpires] at hValue
            have hNone := stringOf?_of_readExpiry hValue
            refine iff_of_true (by simp) ?_
            rintro ⟨s, x, hSome, _⟩
            rw [hNone] at hSome
            cases hSome
        | some x =>
            rw [hExpires] at hValue
            rw [← isNegative_iff_of_readExpiry hValue]
            simp
  | _ => cases hRead

end Cookie

------------------------------------------------------------
-- Jars
------------------------------------------------------------

namespace Jar

theorem settled_settled (c : Cookie) :
    c.settled.settled = c.settled := by
  rw [Cookie.settled_eq_self_iff]
  intro x hExpires
  simpa [Cookie.settled, Option.filter_eq_some_iff] using
    (Option.filter_eq_some_iff.mp hExpires).2

/- The texts of a cookie are not touched. -/
theorem isUnpaired_settled
    {c : Cookie}
    (hUnpaired : c.IsUnpaired) :
    c.settled.IsUnpaired :=
  ⟨hUnpaired.name, hUnpaired.value, hUnpaired.domain,
    hUnpaired.path⟩

/- Lasting cookies come of the records without such texts. -/
theorem forall_isLasting_iff
    {records : List Document}
    {cookies : List Cookie}
    (hRead : AreRead records cookies) :
    (∀ c ∈ cookies, c.IsLasting) ↔
      ∀ d ∈ records, ¬Cookie.HasNegativeText d := by
  induction hRead with
  | nil =>
      simp
  | cons hFirst _ ih =>
      rw [List.forall_mem_cons, List.forall_mem_cons, ih,
        Cookie.isLasting_iff_of_read hFirst]

/-
  A record that is accepted gives a lasting cookie, unless its
  expiry is a text of a number below zero.  From what a jar is
  read as, writing and reading take such an expiry away and
  nothing else; so they change nothing exactly if there is no
  such text, and nothing at all the second time.
-/
theorem expiry_of_accepted
    {text : String}
    {cookies : List Cookie}
    (hRead : readJson text = .ok cookies) :
    (∀ d c,
      Cookie.read d = .ok c →
        (c.IsLasting ↔ ¬Cookie.HasNegativeText d)) ∧
    ∃ records,
      Json.read text = .ok (.sequence records) ∧
      AreRead records cookies ∧
      ((∀ c ∈ cookies, c.IsLasting) ↔
        ∀ d ∈ records, ¬Cookie.HasNegativeText d) ∧
      readJson (writeJson cookies) =
        .ok (cookies.map Cookie.settled) ∧
      (readJson (writeJson cookies) = .ok cookies ↔
        ∀ d ∈ records, ¬Cookie.HasNegativeText d) ∧
      readJson (writeJson (cookies.map Cookie.settled)) =
        .ok (cookies.map Cookie.settled) := by
  rcases exists_records_of_readJson hRead with
    ⟨records, hRecords, hAll⟩
  have hLasting := forall_isLasting_iff hAll
  have hUnpaired := isUnpaired_of_readJson hRead
  have hOnce := readJson_writeJson_eq hUnpaired
  refine ⟨fun d c => Cookie.isLasting_iff_of_read, records,
    hRecords, hAll, hLasting, hOnce, ?_, ?_⟩
  · rw [hOnce, Except.ok.injEq, map_settled_eq_self_iff, hLasting]
  · have hSettled :
        ∀ c ∈ cookies.map Cookie.settled, c.IsUnpaired := by
      intro c hMember
      rcases List.mem_map.mp hMember with ⟨d, hIn, rfl⟩
      exact isUnpaired_settled (hUnpaired d hIn)
    rw [readJson_writeJson_eq hSettled, List.map_map]
    exact congrArg Except.ok
      (List.map_congr_left fun c _ => settled_settled c)

/- A jar with an expiry below zero in quotation marks. -/
def quotedJar : String :=
  "[\x7b\"name\": \"a\", \"value\": \"b\", " ++
    "\"domain\": \"d\", \"expires\": \"-1\"\x7d]"

/- The cookie that it is read as. -/
def quotedCookie : Cookie :=
  { name := "a"
    value := "b"
    domain := "d"
    path := "/"
    expires := some (.ofFraction true ⟨1, 1⟩)
    httpOnly := false
    secure := false
    sameSite := none }

theorem readJson_quotedJar :
    readJson quotedJar = .ok [quotedCookie] := by
  decide +kernel

/- Written and read again, it is a session cookie. -/
theorem expiry_of_accepted_quotedJar :
    readJson quotedJar = .ok [quotedCookie] ∧
      readJson (writeJson [quotedCookie]) =
        .ok [{ quotedCookie with expires := none }] := by
  rcases expiry_of_accepted readJson_quotedJar with
    ⟨_, _, _, _, _, hOnce, _⟩
  refine ⟨readJson_quotedJar, hOnce.trans ?_⟩
  decide +kernel

/-
  The expiry is below zero, and the jar is not stable.
-/
theorem quotedJar_not_stable :
    readJson quotedJar = .ok [quotedCookie] ∧
      ¬quotedCookie.IsLasting ∧
      readJson (writeJson [quotedCookie]) ≠ .ok [quotedCookie] := by
  have hNegative : ¬quotedCookie.IsLasting := by
    intro hLasting
    have hSign := hLasting _ rfl
    revert hSign
    decide +kernel
  refine ⟨readJson_quotedJar, hNegative, fun hStable => ?_⟩
  rw [readJson_writeJson_eq
      (isUnpaired_of_readJson readJson_quotedJar),
    Except.ok.injEq, map_settled_eq_self_iff] at hStable
  exact hNegative (hStable _ List.mem_cons_self)

end Jar

end Replay
