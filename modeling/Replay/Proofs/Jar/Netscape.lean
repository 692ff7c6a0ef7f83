import Replay.Proofs.Cookie
import Replay.Proofs.Jar.Line

/-
  This file proves which jars read back from their lines.

  Main results:
    * `Jar.hasFields_of_readNetscape`
    * `Jar.readNetscape_writeNetscape_iff`
    * `Jar.netscape_restores_iff`
-/

------------------------------------------------------------
-- Lines
------------------------------------------------------------

namespace Replay

open Number Text

namespace Jar

open Cookie

/- A line that says something is read before the others. -/
theorem readLines_cons_eq_ok_iff
    {line : Text}
    (hBusy :
      isIdle (dropTrailing (· == .char '\r') line) = false)
    (rest : List Text)
    (cookies : List Cookie) :
    readLines (line :: rest) = .ok cookies ↔
      ∃ c others,
        readLine (dropTrailing (· == .char '\r') line) = .ok c ∧
        readLines rest = .ok others ∧
        cookies = c :: others := by
  rw [readLines, if_neg (by simp [hBusy])]
  cases readLine (dropTrailing (· == .char '\r') line) with
  | error refusal =>
      simp
  | ok c =>
      cases readLines rest with
      | error refusal =>
          simp [Except.map]
      | ok others =>
          simp [Except.map, eq_comm]

theorem writeLines_cons_eq_ok_iff
    (c : Cookie)
    (rest : List Cookie)
    (lines : List Text) :
    writeLines (c :: rest) = .ok lines ↔
      ∃ line others,
        writeLine c = .ok line ∧
        writeLines rest = .ok others ∧
        lines = line :: others := by
  rw [writeLines]
  cases writeLine c with
  | error fault =>
      simp [bind, Except.bind]
  | ok line =>
      cases writeLines rest with
      | error fault =>
          simp [bind, Except.bind]
      | ok others =>
          simp [bind, Except.bind, pure, Except.pure, eq_comm]

------------------------------------------------------------
-- What Is Read
------------------------------------------------------------

/- The cookies of a jar have the fields of lines. -/
theorem hasFields_of_readLines
    {lines : List Text}
    {cookies : List Cookie}
    (hBreaks : ∀ line ∈ lines, .char '\n' ∉ line)
    (hRead : readLines lines = .ok cookies) :
    ∀ c ∈ cookies, c.HasFields := by
  induction lines generalizing cookies with
  | nil =>
      cases hRead
      exact fun c hNone => absurd hNone List.not_mem_nil
  | cons line rest ih =>
      have hRest {others : List Cookie} :
          readLines rest = .ok others →
            ∀ c ∈ others, c.HasFields :=
        ih fun other hOther =>
          hBreaks other (List.mem_cons_of_mem _ hOther)
      have hBreak :
          .char '\n' ∉ dropTrailing (· == .char '\r') line :=
        fun hIn => hBreaks line List.mem_cons_self
          (mem_of_mem_dropTrailing hIn)
      cases hIdle :
          isIdle (dropTrailing (· == .char '\r') line) with
      | true =>
          rw [readLines, if_pos hIdle] at hRead
          exact hRest hRead
      | false =>
          rcases (readLines_cons_eq_ok_iff hIdle rest cookies).mp
              hRead with ⟨first, others, hFirst, hOthers, rfl⟩
          intro c hMember
          rcases List.mem_cons.mp hMember with rfl | hLater
          · exact hasFields_of_readLine hBreak hIdle hFirst
          · exact hRest hOthers c hLater

theorem hasFields_of_readNetscape
    {text : Text}
    {cookies : List Cookie}
    (hRead : readNetscape text = .ok cookies) :
    ∀ c ∈ cookies, c.HasFields :=
  hasFields_of_readLines
    (fun _ hLine => not_mem_of_mem_splitOn hLine) hRead

------------------------------------------------------------
-- What Reads Back
------------------------------------------------------------

/- A line that is written is no comment, and not blank. -/
theorem isIdle_of_writeLine
    {c : Cookie}
    (hFields : c.HasFields)
    {line : Text}
    (hLine : writeLine c = .ok line) :
    isIdle (dropTrailing (· == .char '\r') line) = false := by
  rcases writeLine_eq_ok_iff.mp hLine with ⟨n, _, rfl⟩
  rw [dropTrailing_fieldsOf]
  exact isIdle_fieldsOf (hasFields_of_value hFields) n

/- Cookies that have fields are read back one by one. -/
theorem readLines_writeLines_iff
    {cookies : List Cookie}
    (hFields : ∀ c ∈ cookies, c.HasFields)
    (others : List Cookie) :
    (∃ lines,
      writeLines cookies = .ok lines ∧
        readLines (lines ++ [[]]) = .ok others) ↔
      List.Forall₂ Rereads cookies others := by
  induction cookies generalizing others with
  | nil =>
      rw [List.forall₂_nil_left_iff]
      constructor
      · rintro ⟨lines, hLines, hOthers⟩
        cases hLines
        cases hOthers
        rfl
      · rintro rfl
        exact ⟨[], rfl, rfl⟩
  | cons c rest ih =>
      have hRest :=
        ih fun other hOther =>
          hFields other (List.mem_cons_of_mem _ hOther)
      have hFirst := hFields c List.mem_cons_self
      rw [List.forall₂_cons_left_iff]
      constructor
      · rintro ⟨lines, hLines, hOthers⟩
        rcases (writeLines_cons_eq_ok_iff c rest lines).mp hLines
          with ⟨line, more, hLine, hMore, rfl⟩
        rcases (readLines_cons_eq_ok_iff
            (isIdle_of_writeLine hFirst hLine) _ _).mp hOthers
          with ⟨d, ds, hCookie, hCookies, rfl⟩
        exact ⟨d, ds, ⟨line, hLine, hCookie⟩,
          (hRest ds).mp ⟨more, hMore, hCookies⟩, rfl⟩
      · rintro ⟨d, ds, ⟨line, hLine, hCookie⟩, hLater, rfl⟩
        rcases (hRest ds).mpr hLater with
          ⟨more, hMore, hCookies⟩
        exact ⟨line :: more,
          (writeLines_cons_eq_ok_iff c rest _).mpr
            ⟨line, more, hLine, hMore, rfl⟩,
          (readLines_cons_eq_ok_iff
            (isIdle_of_writeLine hFirst hLine) _ _).mpr
            ⟨d, ds, hCookie, hCookies, rfl⟩⟩

theorem not_mem_of_writeLines
    {cookies : List Cookie}
    (hFields : ∀ c ∈ cookies, c.HasFields)
    {lines : List Text}
    (hLines : writeLines cookies = .ok lines) :
    ∀ line ∈ lines, .char '\n' ∉ line := by
  induction cookies generalizing lines with
  | nil =>
      cases hLines
      exact fun line hNone => absurd hNone List.not_mem_nil
  | cons c rest ih =>
      rcases (writeLines_cons_eq_ok_iff c rest lines).mp hLines
        with ⟨first, more, hFirst, hMore, rfl⟩
      intro line hMember
      rcases List.mem_cons.mp hMember with rfl | hLater
      · exact not_mem_of_writeLine
          (hFields c List.mem_cons_self) hFirst
      · exact ih (fun other hOther =>
          hFields other (List.mem_cons_of_mem _ hOther)) hMore
          line hLater

/- The heading and the end of a jar say nothing. -/
theorem readNetscape_lines
    {lines : List Text}
    (hBreaks : ∀ line ∈ lines, .char '\n' ∉ line) :
    readNetscape
        ([.char '\n'].intercalate (heading :: lines) ++
          [.char '\n']) =
      readLines (lines ++ [[]]) := by
  have hPieces :
      ∀ line ∈ heading :: lines ++ [[]], .char '\n' ∉ line := by
    intro line hMember
    rcases List.mem_append.mp hMember with hLine | hEnd
    · rcases List.mem_cons.mp hLine with rfl | hLater
      · decide
      · exact hBreaks line hLater
    · rw [List.mem_singleton.mp hEnd]
      exact List.not_mem_nil
  rw [readNetscape,
    ← intercalate_append_nil _ (List.cons_ne_nil _ _),
    List.splitOn_intercalate _ hPieces (by simp),
    List.cons_append, readLines, if_pos (by decide)]

/- A jar is a heading, the lines, and a line feed at the end. -/
theorem writeNetscape_eq_ok_iff
    {cookies : List Cookie}
    {text : Text} :
    writeNetscape cookies = .ok text ↔
      ∃ lines,
        writeLines cookies = .ok lines ∧
        text =
          [.char '\n'].intercalate (heading :: lines) ++
            [.char '\n'] := by
  unfold writeNetscape
  cases writeLines cookies with
  | error fault =>
      constructor
      · intro hText
        cases hText
      · rintro ⟨lines, hLines, _⟩
        cases hLines
  | ok lines =>
      constructor
      · intro hText
        exact ⟨lines, rfl, (Except.ok.inj hText).symm⟩
      · rintro ⟨_, hLines, rfl⟩
        cases hLines
        rfl

/- Cookies that have fields are read back from their jar. -/
theorem readNetscape_writeNetscape_iff
    {cookies : List Cookie}
    (hFields : ∀ c ∈ cookies, c.HasFields)
    (others : List Cookie) :
    (∃ text,
      writeNetscape cookies = .ok text ∧
        readNetscape text = .ok others) ↔
      List.Forall₂ Rereads cookies others := by
  rw [← readLines_writeLines_iff hFields]
  constructor
  · rintro ⟨text, hText, hRead⟩
    rcases writeNetscape_eq_ok_iff.mp hText with
      ⟨lines, hLines, rfl⟩
    rw [readNetscape_lines (not_mem_of_writeLines hFields hLines)]
      at hRead
    exact ⟨lines, hLines, hRead⟩
  · rintro ⟨lines, hLines, hRead⟩
    refine ⟨_, writeNetscape_eq_ok_iff.mpr
      ⟨lines, hLines, rfl⟩, ?_⟩
    rw [readNetscape_lines (not_mem_of_writeLines hFields hLines)]
    exact hRead

------------------------------------------------------------
-- Pairs
------------------------------------------------------------

/- What can be paired one by one can be paired as a list. -/
theorem exists_forall₂_of_forall
    {α β : Type}
    {R : α → β → Prop}
    {as : List α}
    (hEach : ∀ a ∈ as, ∃ b, R a b) :
    ∃ bs, List.Forall₂ R as bs := by
  induction as with
  | nil =>
      exact ⟨[], .nil⟩
  | cons a rest ih =>
      rcases hEach a List.mem_cons_self with ⟨b, hFirst⟩
      rcases ih fun other hOther =>
          hEach other (List.mem_cons_of_mem _ hOther) with
        ⟨bs, hRest⟩
      exact ⟨b :: bs, .cons hFirst hRest⟩

------------------------------------------------------------
-- Round Trip
------------------------------------------------------------

theorem hasFields_of_inSeconds
    {c d : Cookie}
    (hSame : c.InSeconds d)
    (hFields : d.HasFields) :
    c.HasFields where
  name := hSame.name ▸ hFields.name
  value := hSame.value ▸ hFields.value
  domain := hSame.domain ▸ hFields.domain
  path := hSame.path ▸ hFields.path
  hasPath := hSame.path ▸ hFields.hasPath
  isNoComment := by
    rw [← hSame.httpOnly, ← hSame.domain]
    exact hFields.isNoComment

/-
  A jar is written and reads back as the same cookies, in
  whole seconds and without their choices about other sites,
  if and only if each of its cookies fits a line.
-/
theorem netscape_restores_iff
    (cookies : List Cookie) :
    (∃ text others,
      writeNetscape cookies = .ok text ∧
        readNetscape text = .ok others ∧
        List.Forall₂ InSeconds cookies others) ↔
      ∀ c ∈ cookies, c.FitsLine := by
  constructor
  · rintro ⟨text, others, hText, hRead, hSame⟩
    -- whatever the lines became, what was read has fields
    have hFields : ∀ c ∈ cookies, c.HasFields := by
      intro c hMember
      rcases exists_of_forall₂ hSame hMember with
        ⟨d, hOther, hCopy⟩
      exact hasFields_of_inSeconds hCopy
        (hasFields_of_readNetscape hRead d hOther)
    -- so each line gave the cookie that it was written for
    have hRereads :=
      (readNetscape_writeNetscape_iff hFields others).mp
        ⟨text, hText, hRead⟩
    have hBoth := hRereads.mp (fun _ _ => And.intro) hSame
    intro c hMember
    rcases exists_of_forall₂ hBoth hMember with
      ⟨d, _, hPair⟩
    exact (rereads_inSeconds_iff (hFields c hMember)).mp
      ⟨d, hPair⟩
  · intro hFits
    rcases exists_forall₂_of_forall fun c hMember =>
        (rereads_inSeconds_iff (hFits c hMember).toHasFields).mpr
          (hFits c hMember) with
      ⟨others, hBoth⟩
    rcases (readNetscape_writeNetscape_iff
        (fun c hMember => (hFits c hMember).toHasFields) others).mpr
        (hBoth.imp fun _ _ => And.left) with
      ⟨text, hText, hRead⟩
    exact ⟨text, others, hText, hRead,
      hBoth.imp fun _ _ => And.right⟩

end Jar

end Replay
