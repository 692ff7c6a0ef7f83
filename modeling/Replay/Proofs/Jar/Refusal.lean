import Replay.Failure
import Replay.Proofs.Jar.Netscape
import Replay.Proofs.Json.Digits
import Replay.Proofs.Validation.Overrun
import Replay.Proofs.Window

/-
  This file proves what the ways to get cookies are refused
  for: the JSON form, the Netscape form, and the export from
  a browser.

  Key definitions include:
    * `Jar.FirstRefused`
    * `Jar.HasDistantExpiry`
    * `Jar.FirstDistant`

  Main results:
    * `Jar.readJson_refusal`
    * `Jar.readLines_eq_error_iff`
    * `Jar.readNetscape_refusal`
    * `Jar.refusals_of_imports`
-/

------------------------------------------------------------
-- Records
------------------------------------------------------------

namespace Replay

open Number Text Checked

namespace Jar

/- The first record of a list that is no cookie has faults. -/
def FirstRefused
    (records : List Document)
    (faults : List Replay.Fault) : Prop :=
  ∃ before record after cookies,
    records = before ++ record :: after ∧
    AreRead before cookies ∧
    Cookie.read record = .error (.faults faults)

/- Either all records are cookies, or a first one is not. -/
theorem areRead_or_firstRefused (records : List Document) :
    (∃ cookies, AreRead records cookies) ∨
      ∃ faults, FirstRefused records faults := by
  induction records with
  | nil =>
      exact Or.inl ⟨[], .nil⟩
  | cons record rest ih =>
      cases hRead : Cookie.read record with
      | error rejection =>
          rcases (Cookie.read_faultsOnly record).exists_faults hRead
            with ⟨faults, rfl⟩
          exact Or.inr ⟨faults, [], record, rest, [], rfl, .nil,
            hRead⟩
      | ok cookie =>
          rcases ih with ⟨cookies, hRest⟩ |
            ⟨faults, before, bad, after, cookies, rfl, hBefore,
              hBad⟩
          · exact Or.inl ⟨cookie :: cookies, .cons hRead hRest⟩
          · exact Or.inr ⟨faults, record :: before, bad, after,
              cookie :: cookies, rfl, .cons hRead hBefore, hBad⟩

section

variable {records : List Document}
variable {cookies : List Cookie}
variable {faults : List Replay.Fault}

theorem readRecords_of_areRead
    (hRead : AreRead records cookies) :
    readRecords records = .ok cookies := by
  induction hRead with
  | nil =>
      rfl
  | cons hFirst _ ih =>
      rw [readRecords, hFirst]
      dsimp only
      rw [ih]
      rfl

theorem readRecords_of_firstRefused
    (hRefused : FirstRefused records faults) :
    readRecords records = .error (.malformed (.entry faults)) := by
  rcases hRefused with
    ⟨before, record, after, cookies, rfl, hBefore, hRecord⟩
  induction hBefore with
  | nil =>
      rw [List.nil_append, readRecords, hRecord]
  | cons hFirst _ ih =>
      rw [List.cons_append, readRecords, hFirst]
      dsimp only
      rw [ih]
      rfl

theorem checkCookies_of_areRead
    (hRead : AreRead records cookies)
    (w : World) :
    (Window.checkCookies records).run w = .ok cookies w := by
  induction hRead with
  | nil =>
      rfl
  | cons hFirst _ ih =>
      rw [Window.checkCookies, hFirst]
      dsimp only
      rw [EStateM.run_bind, ih]
      rfl

theorem checkCookies_of_firstRefused
    (hRefused : FirstRefused records faults)
    (w : World) :
    (Window.checkCookies records).run w =
      .error (.rejected (.faults faults)) w := by
  rcases hRefused with
    ⟨before, record, after, cookies, rfl, hBefore, hRecord⟩
  induction hBefore with
  | nil =>
      rw [List.nil_append, Window.checkCookies, hRecord]
      rfl
  | cons hFirst _ ih =>
      rw [List.cons_append, Window.checkCookies, hFirst]
      dsimp only
      rw [EStateM.run_bind, ih]

end

/- The records that are reported are checked. -/
theorem run_exportCookies
    {w : World}
    (hReported : w.browser.breakdowns.lookup .cookies = none) :
    Window.exportCookies.run w =
      (Window.checkCookies w.browser.cookies).run
        { w with trace := w.trace ++ [.listCookies] } := by
  unfold Window.exportCookies Window.call
  simp only [EStateM.run_bind, Play.run_record, EStateM.run_get,
    hReported, Play.breakDown, EStateM.run_pure]

------------------------------------------------------------
-- The JSON Form
------------------------------------------------------------

/-
  A JSON jar is refused for its form, or because of an integer
  with more digits than are converted.
-/
theorem readJson_refusal
    {text : String}
    {refusal : Refusal}
    (hRead : readJson text = .error refusal) :
    (∃ fault, refusal = .malformed fault) ∨
      ∃ count,
        refusal = .tooManyDigits count ∧
        Json.read text = .error (.tooManyDigits count) := by
  unfold readJson at hRead
  split at hRead
  · cases hRead
    exact Or.inl ⟨_, rfl⟩
  · rename_i count hLong
    cases hRead
    exact Or.inr ⟨count, rfl, hLong⟩
  · rename_i records _
    rcases areRead_or_firstRefused records with
      ⟨cookies, hAll⟩ | ⟨faults, hRefused⟩
    · rw [readRecords_of_areRead hAll] at hRead
      cases hRead
    · rw [readRecords_of_firstRefused hRefused] at hRead
      cases hRead
      exact Or.inl ⟨_, rfl⟩
  · cases hRead
    exact Or.inl ⟨_, rfl⟩

------------------------------------------------------------
-- The Netscape Form
------------------------------------------------------------

/-
  The fault of an integer without a nearest number, below the
  place of an expiry.
-/
def distantExpiry : Rejection :=
  .faults [⟨["expires"], .notNumber⟩]

/-
  An integer without a nearest number is none.  As before, a
  variable stands for the function that finds it.
-/
theorem asNumber_of_ofInt?_eq_none
    {toNumber : Int → Option Binary64}
    (hFunction : toNumber = Binary64.ofInt?)
    {d : Document}
    {n : Int}
    (hInteger : d = .scalar (.integer n))
    (hNumber : toNumber n = none) :
    asNumber d = fail .notNumber := by
  unfold asNumber
  rw [← hFunction]
  clear hFunction
  subst hInteger
  simp [stringOf?, hNumber]

theorem expiryOf_eq_error_iff
    {n : Int}
    {rejection : Rejection} :
    expiryOf n = .error rejection ↔
      (Binary64.overflowLimit : Int) ≤ n ∧
        rejection = distantExpiry := by
  have hPositive := Binary64.overflowLimit_pos
  by_cases hSign : n ≤ 0
  · rw [expiryOf_of_nonpos hSign]
    refine iff_of_false (by simp) fun hBoth => ?_
    omega
  · cases hNumber : Binary64.ofInt? n with
    | some x =>
        rw [expiryOf_of_pos (by omega) hNumber]
        refine iff_of_false (by simp) fun hBoth => ?_
        have hNone := Binary64.ofInt?_eq_none_iff.mpr
          (show Binary64.overflowLimit ≤ n.natAbs by omega)
        rw [hNone] at hNumber
        cases hNumber
    | none =>
        have hLimit := Binary64.ofInt?_eq_none_iff.mp hNumber
        have hNone := asNumber_of_ofInt?_eq_none rfl rfl hNumber
        have hBelow :
            Cookie.isBelowZero (.scalar (.integer n)) = false := by
          simp [Cookie.isBelowZero]
          omega
        have hExpiry : expiryOf n = .error distantExpiry := by
          unfold expiryOf Cookie.readExpiry
          rw [if_neg (by omega), hBelow,
            if_neg Bool.false_ne_true, Checked.optional, hNone]
          · rfl
          · exact fun hNull => by cases hNull
        rw [hExpiry]
        constructor
        · rintro hSame
          cases hSame
          exact ⟨by omega, rfl⟩
        · rintro ⟨_, rfl⟩
          rfl

/-
  The line of a cookie whose expiry is an integer, but rounded
  to no number of 64 bits.
-/
def HasDistantExpiry (line : Text) : Prop :=
  ∃ first subdomains path secure expires name value more n,
    line.splitOn (.char '\t') =
      first :: subdomains :: path :: secure :: expires :: name ::
        value :: more ∧
    readSeconds? expires = some n ∧
    (Binary64.overflowLimit : Int) ≤ n

/- A line is refused as malformed, or for its distant expiry. -/
theorem readLine_refusal
    {line : Text}
    {refusal : Refusal}
    (hRead : readLine line = .error refusal) :
    (∃ fault, refusal = .malformed fault) ∨
      refusal = .rejected distantExpiry ∧
        HasDistantExpiry line := by
  unfold readLine at hRead
  split at hRead
  · rename_i hFields
    split at hRead
    · cases hRead
      exact Or.inl ⟨_, rfl⟩
    · rename_i seconds hSeconds
      split at hRead
      · rename_i rejection hExpiry
        cases hRead
        rcases expiryOf_eq_error_iff.mp hExpiry with
          ⟨hLimit, rfl⟩
        exact Or.inr ⟨rfl, _, _, _, _, _, _, _, _, _,
          hFields, hSeconds, hLimit⟩
      · cases hRead
  · cases hRead
    exact Or.inl ⟨_, rfl⟩

theorem readLine_of_hasDistantExpiry
    {line : Text}
    (hDistant : HasDistantExpiry line) :
    readLine line = .error (.rejected distantExpiry) := by
  rcases hDistant with
    ⟨first, subdomains, path, secure, expires, name, value, more,
      n, hFields, hSeconds, hLimit⟩
  have hExpiry : expiryOf n = .error distantExpiry :=
    expiryOf_eq_error_iff.mpr ⟨hLimit, rfl⟩
  rw [readLine, hFields]
  dsimp only
  rw [hSeconds]
  dsimp only
  rw [hExpiry]

/- Lines after lines that are read are read on their own. -/
theorem readLines_append
    {before after : List Text}
    {cookies : List Cookie}
    (hBefore : readLines before = .ok cookies) :
    readLines (before ++ after) =
      (readLines after).map (cookies ++ ·) := by
  induction before generalizing cookies with
  | nil =>
      cases hBefore
      rw [List.nil_append]
      cases readLines after <;> rfl
  | cons line rest ih =>
      rw [List.cons_append]
      cases hIdle :
          isIdle (dropTrailing (· == .char '\r') line) with
      | true =>
          rw [readLines, if_pos hIdle] at hBefore ⊢
          exact ih hBefore
      | false =>
          rcases (readLines_cons_eq_ok_iff hIdle _ _).mp hBefore
            with ⟨cookie, others, hLine, hRest, rfl⟩
          rw [readLines, if_neg (by simp [hIdle]), hLine]
          dsimp only
          rw [ih hRest]
          cases readLines after <;> rfl

/-
  A jar is refused in the first line that cannot be read.  The
  lines before it are those of cookies, or say nothing.
-/
theorem readLines_eq_error_iff
    {lines : List Text}
    {refusal : Refusal} :
    readLines lines = .error refusal ↔
      ∃ before line after cookies,
        lines = before ++ line :: after ∧
        readLines before = .ok cookies ∧
        isIdle (dropTrailing (· == .char '\r') line) = false ∧
        readLine (dropTrailing (· == .char '\r') line) =
          .error refusal := by
  constructor
  · intro hRead
    induction lines with
    | nil =>
        cases hRead
    | cons line rest ih =>
        cases hIdle :
          isIdle (dropTrailing (· == .char '\r') line) with
        | true =>
            rw [readLines, if_pos hIdle] at hRead
            rcases ih hRead with
              ⟨before, bad, after, cookies, rfl, hBefore, hBad⟩
            refine ⟨line :: before, bad, after, cookies, rfl,
              ?_, hBad⟩
            rw [readLines, if_pos hIdle, hBefore]
        | false =>
            cases hLine :
                readLine (dropTrailing (· == .char '\r') line) with
            | error other =>
                rw [readLines, if_neg (by simp [hIdle]), hLine]
                  at hRead
                cases hRead
                exact ⟨[], line, rest, [], rfl, rfl, hIdle, hLine⟩
            | ok cookie =>
                rw [readLines, if_neg (by simp [hIdle]), hLine]
                  at hRead
                rcases ih (Outcome.map_eq_error_iff.mp hRead) with
                  ⟨before, bad, after, cookies, rfl, hBefore,
                    hBad⟩
                refine ⟨line :: before, bad, after,
                  cookie :: cookies, rfl, ?_, hBad⟩
                exact (readLines_cons_eq_ok_iff hIdle _ _).mpr
                  ⟨cookie, cookies, hLine, hBefore, rfl⟩
  · rintro ⟨before, line, after, cookies, rfl, hBefore, hBusy,
      hLine⟩
    rw [readLines_append hBefore, readLines,
      if_neg (by simp [hBusy]), hLine]
    rfl

/- The first line that cannot be read has a distant expiry. -/
def FirstDistant (text : Text) : Prop :=
  ∃ before line after cookies,
    text.splitOn (.char '\n') = before ++ line :: after ∧
    readLines before = .ok cookies ∧
    isIdle (dropTrailing (· == .char '\r') line) = false ∧
    HasDistantExpiry (dropTrailing (· == .char '\r') line)

/-
  A Netscape jar is refused for its form, or because of an
  expiry that is rounded to no number.
-/
theorem readNetscape_refusal
    {text : Text}
    {refusal : Refusal}
    (hRead : readNetscape text = .error refusal) :
    (∃ fault, refusal = .malformed fault) ∨
      refusal = .rejected distantExpiry ∧ FirstDistant text := by
  rcases readLines_eq_error_iff.mp hRead with
    ⟨before, line, after, cookies, hLines, hBefore, hBusy, hLine⟩
  rcases readLine_refusal hLine with hFault | ⟨hRefusal, hDistant⟩
  · exact Or.inl hFault
  · exact Or.inr ⟨hRefusal, before, line, after, cookies, hLines,
      hBefore, hBusy, hDistant⟩

/- The first distant expiry refuses the whole text. -/
theorem readNetscape_of_firstDistant
    {text : Text}
    (hFirst : FirstDistant text) :
    readNetscape text = .error (.rejected distantExpiry) := by
  rcases hFirst with
    ⟨before, line, after, cookies, hLines, hBefore, hBusy,
      hDistant⟩
  exact readLines_eq_error_iff.mpr
    ⟨before, line, after, cookies, hLines, hBefore, hBusy,
      readLine_of_hasDistantExpiry hDistant⟩

------------------------------------------------------------
-- All Ways
------------------------------------------------------------

/-
  Each way to get cookies has its own refusals.  A JSON jar is
  refused for its form, or for an integer with more digits
  than are converted, which stands in the text.  A Netscape
  jar is refused for its form, or for the first expiry that is
  rounded to no number.  The export from a browser is refused
  for the faults of the first record that is no cookie, where
  the JSON form of the same records names their entry.
-/
theorem refusals_of_imports
    (text : String)
    (jar : Text)
    (w : World)
    (hReported : w.browser.breakdowns.lookup .cookies = none) :
    (∀ refusal,
      readJson text = .error refusal →
        (∃ fault, refusal = .malformed fault) ∨
          ∃ count,
            refusal = .tooManyDigits count ∧
            Json.read text = .error (.tooManyDigits count) ∧
            Json.HasLongRow count text.toList) ∧
    (∀ refusal,
      readNetscape jar = .error refusal →
        (∃ fault, refusal = .malformed fault) ∨
          refusal = .rejected distantExpiry) ∧
    (readNetscape jar = .error (.rejected distantExpiry) ↔
      FirstDistant jar) ∧
    ((∃ cookies w',
        AreRead w.browser.cookies cookies ∧
        readRecords w.browser.cookies = .ok cookies ∧
        Window.exportCookies.run w = .ok cookies w') ∨
      ∃ faults w',
        FirstRefused w.browser.cookies faults ∧
        readRecords w.browser.cookies =
          .error (.malformed (.entry faults)) ∧
        Window.exportCookies.run w =
          .error (.rejected (.faults faults)) w') := by
  refine ⟨fun refusal hRead => ?_, fun refusal hRead => ?_,
    ⟨fun hRead => ?_, readNetscape_of_firstDistant⟩, ?_⟩
  · rcases readJson_refusal hRead with
      hFault | ⟨count, hRefusal, hLong⟩
    · exact Or.inl hFault
    · exact Or.inr ⟨count, hRefusal, hLong,
        Json.hasLongRow_of_read hLong⟩
  · exact (readNetscape_refusal hRead).imp_right And.left
  · rcases readNetscape_refusal hRead with
      ⟨fault, hFault⟩ | ⟨_, hFirst⟩
    · cases hFault
    · exact hFirst
  · rw [run_exportCookies hReported]
    rcases areRead_or_firstRefused w.browser.cookies with
      ⟨cookies, hAll⟩ | ⟨faults, hRefused⟩
    · exact Or.inl ⟨cookies, _, hAll, readRecords_of_areRead hAll,
        checkCookies_of_areRead hAll _⟩
    · exact Or.inr ⟨faults, _, hRefused,
        readRecords_of_firstRefused hRefused,
        checkCookies_of_firstRefused hRefused _⟩

/- A world whose browser reports one record without fields. -/
def namelessWorld : World :=
  { World.start .empty .blank with
    browser := { Browser.blank with cookies := [.mapping []] } }

/- Its export is refused, and not as the JSON form would be. -/
theorem refusals_of_imports_of_namelessWorld :
    namelessWorld.browser.breakdowns.lookup .cookies = none ∧
      ∃ faults w',
        readRecords namelessWorld.browser.cookies =
          .error (.malformed (.entry faults)) ∧
        Window.exportCookies.run namelessWorld =
          .error (.rejected (.faults faults)) w' := by
  refine ⟨rfl, ?_⟩
  rcases (refusals_of_imports "" "" namelessWorld rfl).2.2.2 with
    ⟨cookies, _, _, hRecords, _⟩ | ⟨faults, w', _, hBoth⟩
  · cases hRecords
  · exact ⟨faults, w', hBoth⟩

/- The line of a cookie that expires after 10 ^ 309 seconds. -/
def distantLine : Text :=
  Text.ofString "d\tFALSE\t/\tFALSE\t1" ++
    List.replicate 309 (.char '0') ++ Text.ofString "\tn\tv"

/- The jar with this line alone. -/
def distantJar : Text :=
  distantLine ++ [.char '\n']

/- Its refusal does not say that the form of a jar is wrong. -/
theorem readNetscape_rejects_distantJar :
    readNetscape distantJar = .error (.rejected distantExpiry) ∧
      ¬∃ fault,
        readNetscape distantJar = .error (.malformed fault) := by
  have hLines :
      distantJar.splitOn (.char '\n') = [distantLine, []] := by
    decide +kernel
  have hWhole :
      dropTrailing (· == .char '\r') distantLine = distantLine := by
    decide +kernel
  have hFields :
      distantLine.splitOn (.char '\t') =
        ["d", "FALSE", "/", "FALSE", intText (10 ^ 309), "n",
          "v"] := by
    decide +kernel
  have hLimit :
      (Binary64.overflowLimit : Int) ≤ 10 ^ 309 := by
    decide +kernel
  have hRead :
      readNetscape distantJar = .error (.rejected distantExpiry) := by
    refine readNetscape_of_firstDistant
      ⟨[], distantLine, [[]], [], hLines, rfl, ?_, ?_⟩
    · rw [hWhole]
      decide +kernel
    · rw [hWhole]
      exact ⟨_, _, _, _, _, _, _, _, _, hFields,
        readSeconds?_intText (by decide +kernel), hLimit⟩
  refine ⟨hRead, ?_⟩
  simp [hRead]

end Jar

end Replay
