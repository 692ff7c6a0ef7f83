import Replay.Jar.Netscape
import Replay.Proofs.Number.Integer
import Replay.Proofs.Number.Truncation
import Replay.Proofs.Text.CodePoint

/-
  This file proves which cookies read back from one line of
  a jar.

  Key definitions include:
    * `Cookie.HasFields`
    * `Cookie.FitsLine`
    * `Cookie.InSeconds`
    * `Jar.Rereads`

  Main results:
    * `Jar.hasFields_of_readLine`
    * `Jar.readLine_fieldsOf`
    * `Jar.rereads_iff_of_hasFields`
    * `Jar.rereads_inSeconds_iff`
-/

------------------------------------------------------------
-- Cookies of Lines
------------------------------------------------------------

namespace Replay

open Number Text

namespace Cookie

/- A text that can be one field of a line. -/
def FitsField (s : Text) : Prop :=
  .char '\t' ∉ s ∧ .char '\n' ∉ s

instance (s : Text) : Decidable (FitsField s) := by
  unfold FitsField
  infer_instance

/-
  A cookie whose texts are fields of a line, with a path, and
  with a domain that makes no comment of the line.
-/
structure HasFields (c : Cookie) : Prop where
  name : FitsField c.name
  value : FitsField c.value
  domain : FitsField c.domain
  path : FitsField c.path
  hasPath : c.path ≠ []
  isNoComment :
    c.httpOnly = false → c.domain.head? ≠ some (.char '#')

/-
  Beside that, no carriage return ends the value, which is
  the end of the line, and a time of expiry is a finite number
  of one second at least.
-/
structure FitsLine (c : Cookie) : Prop extends HasFields c where
  noReturn : c.value.getLast? ≠ some (.char '\r')
  hasSeconds :
    ∀ x, c.expires = some x → ∃ r, x.rat? = some r ∧ 1 ≤ r

/- The same time of expiry, truncated to whole seconds. -/
inductive ExpiryInSeconds :
    Option Binary64 → Option Binary64 → Prop where
  | none : ExpiryInSeconds none none
  | some
      {x y : Binary64}
      {r : Rat}
      (hExact : x.rat? = some r)
      (hWhole : y.rat? = some (wholePart r : Rat)) :
      ExpiryInSeconds (some x) (some y)

/-
  The same cookie with its time of expiry in whole seconds and
  without its choice about other sites.
-/
structure InSeconds (c d : Cookie) : Prop where
  name : d.name = c.name
  value : d.value = c.value
  domain : d.domain = c.domain
  path : d.path = c.path
  httpOnly : d.httpOnly = c.httpOnly
  secure : d.secure = c.secure
  sameSite : d.sameSite = none
  expires : ExpiryInSeconds c.expires d.expires

end Cookie

namespace Jar

open Cookie

------------------------------------------------------------
-- What Is Read
------------------------------------------------------------

/- The pieces between the tabs of a line are fields. -/
theorem fitsField_of_mem_splitOn
    {row piece : Text}
    (hRow : .char '\n' ∉ row)
    (hPiece : piece ∈ row.splitOn (.char '\t')) :
    FitsField piece :=
  ⟨not_mem_of_mem_splitOn hPiece,
    fun hBreak => hRow (mem_of_mem_splitOn hPiece hBreak)⟩

/- What begins a line and has no tab begins its first field. -/
theorem prefix_of_prefix_append
    {start first tail : Text}
    (hTab : .char '\t' ∉ start)
    (hPrefix : start <+: first ++ .char '\t' :: tail) :
    start <+: first := by
  rcases List.prefix_or_prefix_of_prefix hPrefix
      (List.prefix_append first (.char '\t' :: tail)) with
    hShort | ⟨more, hLong⟩
  · exact hShort
  · cases more with
    | nil =>
        rw [List.append_nil] at hLong
        rw [hLong]
    | cons c more =>
        rw [← hLong, List.prefix_append_right_inj,
          List.cons_prefix_cons] at hPrefix
        refine absurd ?_ hTab
        rw [← hLong, ← hPrefix.1]
        simp

/- The first field of a line that is no comment. -/
theorem head?_of_splitOn
    {line first : Text}
    {rest : List Text}
    (hSplit : line.splitOn (.char '\t') = first :: rest)
    (hBusy : isIdle line = false)
    (hMark : httpOnlyMark.isPrefixOf first = false) :
    first.head? ≠ some (.char '#') := by
  intro hHash
  rw [isIdle, Bool.or_eq_false_iff] at hBusy
  rcases eq_or_exists_of_splitOn hSplit with
    rfl | ⟨tail, rfl⟩
  · simp [hHash, hMark] at hBusy
  · have hLine :
        (first ++ .char '\t' :: tail).head? =
          some (.char '#') := by
      rw [List.head?_append, hHash]
      rfl
    have hPrefix :
        httpOnlyMark.isPrefixOf (first ++ .char '\t' :: tail) =
          true := by
      simpa [hLine] using hBusy.1
    have hFirst :=
      prefix_of_prefix_append (by decide)
        (List.isPrefixOf_iff_prefix.mp hPrefix)
    rw [List.isPrefixOf_iff_prefix.mpr hFirst] at hMark
    cases hMark

/- The fields of a cookie that was read from a line. -/
theorem hasFields_of_readLine
    {line : Text}
    {c : Cookie}
    (hBreak : .char '\n' ∉ line)
    (hBusy : isIdle line = false)
    (hRead : readLine line = .ok c) :
    c.HasFields := by
  unfold readLine at hRead
  split at hRead
  · rename_i first _ path secure expires name value more hSplit
    have hField
        {piece : Text}
        (hPiece : piece ∈ line.splitOn (.char '\t')) :
        FitsField piece :=
      fitsField_of_mem_splitOn hBreak hPiece
    rw [hSplit] at hField
    have hFirst : FitsField first :=
      hField (by simp)
    split at hRead
    · cases hRead
    · split at hRead
      · cases hRead
      · cases hRead
        constructor
        case name =>
          exact hField (by simp)
        case value =>
          exact hField (by simp)
        case domain =>
          dsimp only
          split
          · exact ⟨fun hTab => hFirst.1 (List.mem_of_mem_drop hTab),
              fun hBreak => hFirst.2 (List.mem_of_mem_drop hBreak)⟩
          · exact hFirst
        case path =>
          dsimp only
          split
          · decide
          · exact hField (by simp)
        case hasPath =>
          dsimp only
          split
          · decide
          · rename_i hPath
            exact hPath
        case isNoComment =>
          dsimp only
          intro hMark
          rw [if_neg (by simp [hMark])]
          exact head?_of_splitOn hSplit hBusy hMark
  · cases hRead

------------------------------------------------------------
-- What Is Written
------------------------------------------------------------

/- The seconds that are written for a time of expiry. -/
def secondsOf : Option Binary64 → Option Int
  | none => some 0
  | some x => x.truncate?

/- The domain of a cookie, behind the mark if it has one. -/
def domainField (c : Cookie) : Text :=
  if c.httpOnly then httpOnlyMark ++ c.domain else c.domain

/- The fields of the line of a cookie. -/
def fieldsOf
    (c : Cookie)
    (seconds : Int) : List Text :=
  [domainField c,
    choiceText (c.domain.head? == some (.char '.')),
    c.path,
    choiceText c.secure,
    intText seconds,
    c.name,
    c.value]

/-
  A cookie is written as a line if its expiry counts
  seconds.
-/
theorem writeLine_eq_ok_iff
    {c : Cookie}
    {line : Text} :
    writeLine c = .ok line ↔
      ∃ n,
        secondsOf c.expires = some n ∧
          line = [.char '\t'].intercalate (fieldsOf c n) := by
  unfold writeLine secondsText secondsOf fieldsOf
  cases c.expires with
  | none =>
      constructor
      · intro hLine
        exact ⟨0, rfl, (Except.ok.inj hLine).symm⟩
      · rintro ⟨n, hSeconds, rfl⟩
        cases hSeconds
        rfl
  | some x =>
      dsimp only
      cases hWhole : x.truncate? with
      | none =>
          constructor
          · intro hLine
            cases hLine
          · rintro ⟨n, hSeconds, _⟩
            cases hSeconds
      | some n =>
          constructor
          · intro hLine
            exact ⟨n, rfl, (Except.ok.inj hLine).symm⟩
          · rintro ⟨_, hSeconds, rfl⟩
            cases hSeconds
            rfl

/- The seconds of a number have few enough digits. -/
theorem length_digitChars_of_secondsOf
    {expires : Option Binary64}
    {n : Int}
    (hSeconds : secondsOf expires = some n) :
    (digitChars n.natAbs).length ≤ digitLimit := by
  cases expires with
  | none =>
      rw [← Option.some.inj hSeconds]
      decide
  | some x =>
      have hPow (bits : Nat) : 2 ^ bits ≤ 10 ^ bits :=
        Nat.pow_le_pow_left (by decide) bits
      have hFewer : (digitChars n.natAbs).length ≤ 1024 :=
        length_digitChars_le (by decide)
          ((Binary64.natAbs_lt_of_truncate? hSeconds).trans_le
            (hPow 1024))
      exact hFewer.trans (by decide)

/- The mark tells which cookies are kept from scripts. -/
theorem isPrefixOf_domainField
    {c : Cookie}
    (hFields : c.HasFields) :
    httpOnlyMark.isPrefixOf (domainField c) = c.httpOnly := by
  unfold domainField
  cases hMark : c.httpOnly with
  | true =>
      exact List.isPrefixOf_iff_prefix.mpr
        (List.prefix_append _ _)
  | false =>
      have hNoHash := hFields.isNoComment hMark
      rw [Bool.eq_false_iff]
      intro hPrefix
      rcases List.isPrefixOf_iff_prefix.mp hPrefix with
        ⟨rest, hDomain⟩
      rw [if_neg Bool.false_ne_true] at hDomain
      exact hNoHash (by rw [← hDomain]; rfl)

/- Without its mark the first field is the domain. -/
theorem drop_domainField (c : Cookie) :
    (if c.httpOnly then (domainField c).drop httpOnlyMark.length
      else domainField c) =
      c.domain := by
  unfold domainField
  cases c.httpOnly with
  | true =>
      rw [if_pos rfl, if_pos rfl, List.drop_left]
  | false =>
      rw [if_neg Bool.false_ne_true, if_neg Bool.false_ne_true]

theorem fitsField_intText (n : Int) :
    FitsField (intText n) := by
  constructor
  all_goals
    intro hMember
    rcases List.mem_map.mp hMember with ⟨c, hChar, ⟨⟩⟩
    rcases mem_intText hChar with hMinus | hDigit
    · exact absurd hMinus (by decide)
    · exact absurd hDigit (by decide)

/- No field of a line holds what separates fields or lines. -/
theorem fitsField_of_mem_fieldsOf
    {c : Cookie}
    (hFields : c.HasFields)
    (n : Int)
    {piece : Text}
    (hPiece : piece ∈ fieldsOf c n) :
    FitsField piece := by
  have hChoice (choice : Bool) : FitsField (choiceText choice) := by
    cases choice <;> decide
  have hFirst : FitsField (domainField c) := by
    have hMark : FitsField httpOnlyMark := by
      decide
    unfold domainField
    split
    · simp only [FitsField, List.mem_append, not_or]
      exact ⟨⟨hMark.1, hFields.domain.1⟩,
        ⟨hMark.2, hFields.domain.2⟩⟩
    · exact hFields.domain
  simp only [fieldsOf, List.mem_cons, List.not_mem_nil,
    or_false] at hPiece
  rcases hPiece with
    rfl | rfl | rfl | rfl | rfl | rfl | rfl
  · exact hFirst
  · exact hChoice _
  · exact hFields.path
  · exact hChoice _
  · exact fitsField_intText n
  · exact hFields.name
  · exact hFields.value

/- The fields of a line are split as they were joined. -/
theorem splitOn_fieldsOf
    {c : Cookie}
    (hFields : c.HasFields)
    (n : Int) :
    ([.char '\t'].intercalate (fieldsOf c n)).splitOn
        (.char '\t') =
      fieldsOf c n :=
  List.splitOn_intercalate _
    (fun _ hPiece => (fitsField_of_mem_fieldsOf hFields n hPiece).1)
    (List.cons_ne_nil _ _)

/- No line feed gets into a line. -/
theorem not_mem_of_writeLine
    {c : Cookie}
    (hFields : c.HasFields)
    {line : Text}
    (hLine : writeLine c = .ok line) :
    .char '\n' ∉ line := by
  rcases writeLine_eq_ok_iff.mp hLine with ⟨n, _, rfl⟩
  intro hBreak
  rcases mem_intercalate hBreak with hTab | ⟨piece, hPiece, hIn⟩
  · exact absurd hTab (by decide)
  · exact (fitsField_of_mem_fieldsOf hFields n hPiece).2 hIn

/- A written line says something. -/
theorem isIdle_fieldsOf
    {c : Cookie}
    (hFields : c.HasFields)
    (n : Int) :
    isIdle ([.char '\t'].intercalate (fieldsOf c n)) = false := by
  have hLetter :
      CodePoint.char 'E' ∈
        [.char '\t'].intercalate (fieldsOf c n) := by
    have hPiece : choiceText c.secure ∈ fieldsOf c n := by
      simp [fieldsOf]
    refine mem_intercalate_of_mem _ hPiece ?_
    cases c.secure <;> decide
  have hNotBlank :
      ([.char '\t'].intercalate (fieldsOf c n)).all
          (CodePoint.isIn isBlank) =
        false := by
    rw [List.all_eq_false]
    exact ⟨.char 'E', hLetter, by decide⟩
  have hNoComment :
      ([.char '\t'].intercalate (fieldsOf c n)).head? =
          some (.char '#') →
        httpOnlyMark.isPrefixOf
          ([.char '\t'].intercalate (fieldsOf c n)) = true := by
    rw [fieldsOf,
      List.intercalate_cons_of_ne_nil (List.cons_ne_nil _ _),
      List.append_assoc, List.isPrefixOf_iff_prefix]
    intro hHash
    have hMark := isPrefixOf_domainField hFields
    cases hKept : c.httpOnly with
    | true =>
        rw [hKept] at hMark
        exact (List.isPrefixOf_iff_prefix.mp hMark).trans
          (List.prefix_append _ _)
    | false =>
        have hNoHash := hFields.isNoComment hKept
        rw [domainField, if_neg (by simp [hKept])] at hHash
        cases hDomain : c.domain with
        | nil =>
            rw [hDomain] at hHash
            exact absurd (Option.some.inj hHash) (by decide)
        | cons first rest =>
            rw [hDomain] at hHash hNoHash
            exact absurd hHash hNoHash
  rw [isIdle, hNotBlank, Bool.or_false, Bool.and_eq_false_imp]
  intro hHash
  rw [hNoComment (by simpa using hHash)]
  rfl

/- A written number of seconds is read as itself. -/
theorem readSeconds?_intText
    {n : Int}
    (hLength : (digitChars n.natAbs).length ≤ digitLimit) :
    readSeconds? (intText n) = some n := by
  have hSome : (Text.ofString (intText n)).isEmpty = false := by
    rw [List.isEmpty_eq_false_iff, Ne, Text.ofString_eq_nil_iff]
    exact intText_ne_empty n
  rw [readSeconds?, hSome, if_neg Bool.false_ne_true,
    readInteger_intText hLength]
  rfl

/- A written line is read as its cookie. -/
theorem readLine_fieldsOf
    {c : Cookie}
    (hFields : c.HasFields)
    {n : Int}
    (hLength : (digitChars n.natAbs).length ≤ digitLimit) :
    readLine ([.char '\t'].intercalate (fieldsOf c n)) =
      match expiryOf n with
      | .error rejection => .error (.rejected rejection)
      | .ok expires =>
        .ok { c with expires := expires, sameSite := none } := by
  have hSecure :
      (choiceText c.secure == Text.ofString "TRUE") =
        c.secure := by
    cases c.secure <;> rfl
  cases hExpiry : expiryOf n
  all_goals
    unfold readLine
    rw [splitOn_fieldsOf hFields]
    simp only [fieldsOf]
    rw [readSeconds?_intText hLength]
    simp only [hSecure, if_neg hFields.hasPath,
      isPrefixOf_domainField hFields, drop_domainField, hExpiry]

------------------------------------------------------------
-- What Reads Back
------------------------------------------------------------

/- The cookie that is read from the written line of another. -/
def Rereads (c d : Cookie) : Prop :=
  ∃ line,
    writeLine c = .ok line ∧
      readLine (dropTrailing (· == .char '\r') line) = .ok d

/- Returns at the end of a line are those of the value. -/
theorem dropTrailing_fieldsOf
    (c : Cookie)
    (n : Int) :
    dropTrailing (· == .char '\r')
        ([.char '\t'].intercalate (fieldsOf c n)) =
      [.char '\t'].intercalate (fieldsOf
        { c with
          value := dropTrailing (· == .char '\r') c.value } n) := by
  have hLast (before value : Text) :
      dropTrailing (· == .char '\r')
          (before ++ .char '\t' :: value) =
        before ++
          .char '\t' :: dropTrailing (· == .char '\r') value :=
    dropTrailing_append before (by decide) value
  have hRow (value : Text) (a b d e f g : Text) :
      [CodePoint.char '\t'].intercalate
          [a, b, d, e, f, g, value] =
        [CodePoint.char '\t'].intercalate [a, b, d, e, f, g] ++
          .char '\t' :: value := by
    simp [List.intercalate]
  simp only [fieldsOf, domainField, hRow, hLast]

theorem hasFields_of_value
    {c : Cookie}
    (hFields : c.HasFields) :
    HasFields
      { c with
        value := dropTrailing (· == .char '\r') c.value } where
  name := hFields.name
  value :=
    ⟨fun hTab => hFields.value.1 (mem_of_mem_dropTrailing hTab),
      fun hBreak =>
        hFields.value.2 (mem_of_mem_dropTrailing hBreak)⟩
  domain := hFields.domain
  path := hFields.path
  hasPath := hFields.hasPath
  isNoComment := hFields.isNoComment

/- What is read from the line of a cookie that has fields. -/
theorem rereads_iff_of_hasFields
    {c d : Cookie}
    (hFields : c.HasFields) :
    Rereads c d ↔
      ∃ n expires,
        secondsOf c.expires = some n ∧
        expiryOf n = .ok expires ∧
        d =
          { c with
            value := dropTrailing (· == .char '\r') c.value
            expires := expires
            sameSite := none } := by
  have hRead {n : Int} (hSeconds : secondsOf c.expires = some n) :=
    readLine_fieldsOf (hasFields_of_value hFields)
      (length_digitChars_of_secondsOf hSeconds)
  constructor
  · rintro ⟨line, hLine, hCookie⟩
    rcases writeLine_eq_ok_iff.mp hLine with
      ⟨n, hSeconds, rfl⟩
    rw [dropTrailing_fieldsOf, hRead hSeconds] at hCookie
    cases hExpiry : expiryOf n with
    | error rejection =>
        rw [hExpiry] at hCookie
        cases hCookie
    | ok expires =>
        rw [hExpiry] at hCookie
        exact ⟨n, expires, hSeconds, hExpiry,
          (Except.ok.inj hCookie).symm⟩
  · rintro ⟨n, expires, hSeconds, hExpiry, rfl⟩
    refine ⟨_, writeLine_eq_ok_iff.mpr ⟨n, hSeconds, rfl⟩, ?_⟩
    rw [dropTrailing_fieldsOf, hRead hSeconds, hExpiry]

theorem expiryOf_of_nonpos
    {n : Int}
    (hSign : n ≤ 0) :
    expiryOf n = .ok none := by
  unfold expiryOf
  by_cases hZero : n = 0
  · rw [if_pos hZero]
  · have hNegative : n < 0 := by
      omega
    rw [if_neg hZero, readExpiry, isBelowZero,
      if_pos (by simpa using hNegative)]
    rfl

/-
  An integer is the number nearest to it.  The nearest number
  is named by a variable here, so that no step tries to
  compute it.
-/
theorem asNumber_integer
    {toNumber : Int → Option Binary64}
    (hFunction : toNumber = Binary64.ofInt?)
    {d : Document}
    {n : Int}
    {y : Binary64}
    (hInteger : d = .scalar (.integer n))
    (hNumber : toNumber n = some y) :
    Checked.asNumber d = .ok y := by
  unfold Checked.asNumber
  rw [← hFunction]
  clear hFunction
  subst hInteger
  simp [Checked.stringOf?, hNumber]

theorem expiryOf_of_pos
    {n : Int}
    {y : Binary64}
    (hSign : 0 < n)
    (hNumber : Binary64.ofInt? n = some y) :
    expiryOf n = .ok (some y) := by
  have hInteger := asNumber_integer rfl rfl hNumber
  have hBelow : isBelowZero (.scalar (.integer n)) = false := by
    simpa [isBelowZero] using hSign.le
  unfold expiryOf readExpiry
  rw [if_neg hSign.ne', hBelow, if_neg Bool.false_ne_true,
    Checked.optional, hInteger]
  · rfl
  · exact fun hNull => by cases hNull

/- A time of expiry reads back in seconds if it is no less. -/
theorem expiry_inSeconds_iff
    (expires : Option Binary64) :
    (∃ n other,
      secondsOf expires = some n ∧
      expiryOf n = .ok other ∧
      ExpiryInSeconds expires other) ↔
      ∀ x, expires = some x → ∃ r, x.rat? = some r ∧ 1 ≤ r := by
  constructor
  · rintro ⟨n, other, hSeconds, hExpiry, hSame⟩ x rfl
    cases hSame with
    | some hExact hWhole =>
        rename_i y r
        refine ⟨r, hExact, one_le_of_one_le_wholePart ?_⟩
        have hPart : n = wholePart r :=
          Option.some.inj
            (hSeconds.symm.trans (Binary64.truncate?_of_rat? hExact))
        by_contra hSmall
        rw [expiryOf_of_nonpos (by omega)] at hExpiry
        cases hExpiry
  · intro hRange
    cases expires with
    | none =>
        exact ⟨0, none, rfl, rfl, .none⟩
    | some x =>
        rcases hRange x rfl with ⟨r, hExact, hOne⟩
        have hPart := one_le_wholePart hOne
        rcases Binary64.exists_ofInt?_wholePart hExact with
          ⟨y, hNumber, hWhole⟩
        exact ⟨wholePart r, some y,
          Binary64.truncate?_of_rat? hExact,
          expiryOf_of_pos (by omega) hNumber,
          .some hExact hWhole⟩

/- A cookie that has fields reads back if it fits a line. -/
theorem rereads_inSeconds_iff
    {c : Cookie}
    (hFields : c.HasFields) :
    (∃ d, Rereads c d ∧ c.InSeconds d) ↔ c.FitsLine := by
  have hValue :
      dropTrailing (· == .char '\r') c.value = c.value ↔
        c.value.getLast? ≠ some (.char '\r') := by
    rw [dropTrailing_eq_rdropWhile, List.rdropWhile_eq_self_iff]
    constructor
    · intro hStays hReturn
      rcases List.getLast?_eq_some_iff.mp hReturn with
        ⟨before, hValue⟩
      exact hStays (by simp [hValue]) (by simp [hValue])
    · intro hNoReturn hSome hLast
      rw [List.getLast?_eq_some_getLast hSome, eq_of_beq hLast]
        at hNoReturn
      exact hNoReturn rfl
  constructor
  · rintro ⟨d, hRereads, hSame⟩
    rcases (rereads_iff_of_hasFields hFields).mp hRereads with
      ⟨n, expires, hSeconds, hExpiry, rfl⟩
    exact
      { hFields with
        noReturn := hValue.mp hSame.value
        hasSeconds := (expiry_inSeconds_iff c.expires).mp
          ⟨n, expires, hSeconds, hExpiry, hSame.expires⟩ }
  · intro hFits
    rcases (expiry_inSeconds_iff c.expires).mpr hFits.hasSeconds
      with ⟨n, expires, hSeconds, hExpiry, hSame⟩
    refine ⟨_, (rereads_iff_of_hasFields hFields).mpr
      ⟨n, expires, hSeconds, hExpiry, rfl⟩, ?_⟩
    exact
      { name := rfl
        value := hValue.mpr hFits.noReturn
        domain := rfl
        path := rfl
        httpOnly := rfl
        secure := rfl
        sameSite := rfl
        expires := hSame }

end Jar

end Replay
