import Replay.Proofs.Jar.Netscape

/-
  This file proves that a jar is read line by line: what is
  read of a line does not depend on the lines around it, nor
  on lines that say nothing, nor on the kind of line ends.

  Key definitions include:
    * `Jar.SaysNothing`
    * `Jar.busyLines`
    * `Jar.withReturns`
    * `Jar.Padded`

  Main results:
    * `Jar.isIdle_trimmed_iff`
    * `Jar.readLines_eq_mapM`
    * `Jar.readNetscape_lineByLine`
-/

------------------------------------------------------------
-- Lines That Say Nothing
------------------------------------------------------------

namespace Replay

open Number Text

namespace Jar

/-
  A line of white space, or a comment: it starts with a hash,
  but not with the mark of cookies kept from scripts.
-/
def SaysNothing (line : Text) : Prop :=
  (∀ c ∈ line, c.isIn isBlank = true) ∨
    [.char '#'] <+: line ∧ ¬httpOnlyMark <+: line

/- A line without the returns at its end. -/
abbrev trimmed (line : Text) : Text :=
  dropTrailing (· == .char '\r') line

/- The lines that are passed over are those that say nothing. -/
theorem isIdle_trimmed_iff (line : Text) :
    isIdle (trimmed line) = true ↔ SaysNothing line := by
  have hStart
      {start : Text}
      (hReturn : .char '\r' ∉ start) :
      start <+: trimmed line ↔ start <+: line := by
    apply isPrefix_dropTrailing_iff
    intro c hMember
    exact beq_eq_false_iff_ne.mpr
      fun hSame => hReturn (hSame ▸ hMember)
  have hHash :
      (trimmed line).head? = some (.char '#') ↔
        [.char '#'] <+: line := by
    rw [← hStart (by decide)]
    cases trimmed line <;> simp [eq_comm]
  have hMark :
      httpOnlyMark <+: trimmed line ↔ httpOnlyMark <+: line := by
    apply hStart
    decide
  have hBlank :
      (∀ c ∈ trimmed line, c.isIn isBlank = true) ↔
        ∀ c ∈ line, c.isIn isBlank = true := by
    apply forall_mem_dropTrailing_iff
    intro c hReturn
    rw [beq_iff_eq.mp hReturn]
    decide
  rw [isIdle, Bool.or_eq_true, Bool.and_eq_true, beq_iff_eq,
    Bool.not_eq_true', ← Bool.not_eq_true,
    List.isPrefixOf_iff_prefix, List.all_eq_true, hHash, hMark,
    hBlank, or_comm]
  rfl

instance (line : Text) : Decidable (SaysNothing line) :=
  decidable_of_iff _ (isIdle_trimmed_iff line)

/- The lines that say something, without returns at their ends. -/
def busyLines (lines : List Text) : List Text :=
  (lines.map trimmed).filter fun line => !isIdle line

theorem busyLines_append (first second : List Text) :
    busyLines (first ++ second) =
      busyLines first ++ busyLines second := by
  unfold busyLines
  rw [List.map_append, List.filter_append]

theorem busyLines_cons_of_saysNothing
    {line : Text}
    (hNothing : SaysNothing line)
    (rest : List Text) :
    busyLines (line :: rest) = busyLines rest := by
  have hIdle := (isIdle_trimmed_iff line).mpr hNothing
  unfold busyLines
  rw [List.map_cons, List.filter_cons_of_neg (by simp [hIdle])]

/-
  The lines that say something are read one after another, up
  to the first that cannot be read.
-/
theorem readLines_eq_mapM (lines : List Text) :
    readLines lines = (busyLines lines).mapM readLine := by
  induction lines with
  | nil =>
      rfl
  | cons line rest ih =>
      by_cases hNothing : SaysNothing line
      · have hIdle := (isIdle_trimmed_iff line).mpr hNothing
        rw [busyLines_cons_of_saysNothing hNothing, readLines,
          if_pos hIdle, ih]
      · have hBusy : isIdle (trimmed line) = false := by
          rwa [← Bool.not_eq_true, isIdle_trimmed_iff]
        have hLines :
            busyLines (line :: rest) =
              trimmed line :: busyLines rest := by
          unfold busyLines
          rw [List.map_cons,
            List.filter_cons_of_pos (by simp [hBusy])]
        rw [hLines, List.mapM_cons, readLines,
          if_neg (by simp [hBusy]), ih]
        cases readLine (trimmed line) with
        | error refusal =>
            rfl
        | ok cookie =>
            cases (busyLines rest).mapM readLine <;> rfl

------------------------------------------------------------
-- Line Ends
------------------------------------------------------------

/- A text with a return before each line feed. -/
def withReturns (text : Text) : Text :=
  text.flatMap fun c =>
    if c = .char '\n' then [.char '\r', .char '\n'] else [c]

theorem trimmed_cons_congr
    (c : CodePoint)
    {row other : Text}
    (hSame : trimmed row = trimmed other) :
    trimmed (c :: row) = trimmed (c :: other) := by
  unfold trimmed at hSame ⊢
  rw [dropTrailing_cons, dropTrailing_cons, hSame]

/- The returns at the ends of lines are taken off. -/
theorem trimmed_splitOn_withReturns (text : Text) :
    ((withReturns text).splitOn (.char '\n')).map trimmed =
      (text.splitOn (.char '\n')).map trimmed := by
  induction text with
  | nil =>
      rfl
  | cons c rest ih =>
      by_cases hBreak : c = .char '\n'
      · have hRow :
            withReturns (c :: rest) =
              [.char '\r'] ++ .char '\n' :: withReturns rest := by
          simp [withReturns, hBreak]
        rw [hRow, hBreak, List.splitOn_append_cons_self,
          List.splitOn_cons_eq_if_modifyHead _ rest,
          if_pos (beq_self_eq_true _), List.map_append, ih]
        rfl
      · have hRow :
            withReturns (c :: rest) = c :: withReturns rest := by
          simp [withReturns, hBreak]
        rw [hRow, List.splitOn_cons_eq_if_modifyHead,
          List.splitOn_cons_eq_if_modifyHead,
          if_neg (by simpa using hBreak),
          if_neg (by simpa using hBreak)]
        cases hLonger :
            (withReturns rest).splitOn (.char '\n') with
        | nil =>
            exact absurd hLonger (List.splitOn_ne_nil _ _)
        | cons piece pieces =>
            cases hShorter : rest.splitOn (.char '\n') with
            | nil =>
                exact absurd hShorter (List.splitOn_ne_nil _ _)
            | cons first more =>
                rw [hLonger, hShorter, List.map_cons,
                  List.map_cons, List.cons.injEq] at ih
                rw [List.modifyHead_cons, List.modifyHead_cons,
                  List.map_cons, List.map_cons, ih.2,
                  trimmed_cons_congr c ih.1]

------------------------------------------------------------
-- Lines Put Between Others
------------------------------------------------------------

/-
  The same lines in the same order, with any number of lines
  that say nothing put anywhere between them, before the
  first one or after the last one.
-/
inductive Padded :
    List Text → List Text → Prop where
  | done : Padded [] []
  | kept
      (line : Text)
      {lines longer : List Text}
      (hRest : Padded lines longer) :
      Padded (line :: lines) (line :: longer)
  | added
      {line : Text}
      (hNothing : SaysNothing line)
      {lines longer : List Text}
      (hRest : Padded lines longer) :
      Padded lines (line :: longer)

/- What is put between lines is passed over. -/
theorem busyLines_of_padded
    {lines longer : List Text}
    (hPadded : Padded lines longer) :
    busyLines longer = busyLines lines := by
  induction hPadded with
  | done =>
      rfl
  | kept line _ ih =>
      rw [← List.singleton_append, busyLines_append, ih,
        ← busyLines_append, List.singleton_append]
  | added hNothing _ ih =>
      rw [busyLines_cons_of_saysNothing hNothing, ih]

------------------------------------------------------------
-- Texts
------------------------------------------------------------

/-
  The jar of two texts, one below the other, is refused for
  what the first one is refused for, or else for what the
  second one is refused for, or else holds the cookies of
  both.  Returns before the line feeds change nothing, nor do
  lines that say nothing, wherever they are put.
-/
theorem readNetscape_lineByLine :
    (∀ first second : Text,
      readNetscape (first ++ .char '\n' :: second) = (do
        let cookies ← readNetscape first
        let others ← readNetscape second
        return cookies ++ others)) ∧
    (∀ text : Text,
      readNetscape (withReturns text) = readNetscape text) ∧
    ∀ text longer : Text,
      Padded (text.splitOn (.char '\n'))
          (longer.splitOn (.char '\n')) →
        readNetscape longer = readNetscape text := by
  refine ⟨?appended, ?returns, ?padded⟩
  case appended =>
    intro first second
    simp only [readNetscape, List.splitOn_append_cons_self,
      readLines_eq_mapM, busyLines_append, List.mapM_append]
  case returns =>
    intro text
    rw [readNetscape, readNetscape, readLines_eq_mapM,
      readLines_eq_mapM, busyLines, busyLines,
      trimmed_splitOn_withReturns]
  case padded =>
    intro text longer hPadded
    rw [readNetscape, readNetscape, readLines_eq_mapM,
      readLines_eq_mapM, busyLines_of_padded hPadded]

/- Two cookies; the line of the second one starts with a hash. -/
def twoLines : Text :=
  Text.ofString ("a\tFALSE\t/\tTRUE\t0\tn\tv\n" ++
    "#HttpOnly_b\tFALSE\t/\tFALSE\t0\tm\tw")

/- The same with a comment, a row of tabs and an empty line. -/
def fiveLines : Text :=
  Text.ofString
    ("# noted\na\tFALSE\t/\tTRUE\t0\tn\tv\n\t\t\t\t\t\t\r\n" ++
      "#HttpOnly_b\tFALSE\t/\tFALSE\t0\tm\tw\n")

/- The lines between say nothing, so both cookies are read. -/
theorem readNetscape_lineByLine_of_fiveLines :
    Padded (twoLines.splitOn (.char '\n'))
        (fiveLines.splitOn (.char '\n')) ∧
      (readNetscape fiveLines).map (·.map (·.domain)) =
        .ok [Text.ofString "a", Text.ofString "b"] := by
  have hPadded :
      Padded (twoLines.splitOn (.char '\n'))
        (fiveLines.splitOn (.char '\n')) := by
    apply Padded.added (by decide)
    apply Padded.kept
    apply Padded.added (by decide)
    apply Padded.kept
    apply Padded.added (by decide)
    exact .done
  refine ⟨hPadded, ?_⟩
  rw [readNetscape_lineByLine.2.2 twoLines fiveLines hPadded]
  decide

end Jar

end Replay
