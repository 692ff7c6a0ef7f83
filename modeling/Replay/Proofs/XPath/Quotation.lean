import Replay.Action.Performance
import Replay.Proofs.Text.CodePoint
import Replay.Proofs.Text.Pieces
import Replay.Proofs.XPath.Expression

/-
  This file proves that the expression of a text is worth that
  text, and that what finds a field looks for its name alone.

  Key definitions include:
    * `XPath.quoted`
    * `XPath.quotedTokens`
    * `XPath.Expr.IsQuotation`
    * `XPath.comparison`
    * `XPath.fieldPath`
    * `XPath.condition`
    * `XPath.Expr.ComparesField`

  Main results:
    * `XPath.scans_literal`
    * `XPath.readsPrimary_quoted`
    * `XPath.isQuotation_quoted`
    * `FormInput.scans_startTokens`
    * `XPath.selector_eq`
    * `XPath.parses_fieldPath`
    * `XPath.quotations_of_fields`

  The reading of a path goes the way of the grammar: its tokens
  are those of the start, of the name and of the end, and each
  comparison is read before the condition that it is a part of.
-/

------------------------------------------------------------
-- Quotations
------------------------------------------------------------

namespace Replay

open Text

namespace XPath

/- The pieces of a text with the marks between them. -/
def parts (s : Text) : List Text :=
  (s.splitOn (.char '\'')).intersperse [.char '\'']

/- Some literals up to the end of a call, as tokens. -/
def argumentTokens : List Text → List Token
  | [] => [.mark .closeParen]
  | [text] => [.literal text, .mark .closeParen]
  | text :: rest =>
    .literal text :: .mark .comma :: argumentTokens rest

/- Does a text hold both of the marks? -/
def holdsBoth (s : Text) : Bool :=
  s.contains (.char '\'') && s.contains (.char '"')

/- How the expression of a text is read. -/
def quoted (s : Text) : Expr :=
  if holdsBoth s then .call "concat" ((parts s).map .literal)
  else .literal s

/- The tokens of the expression. -/
def quotedTokens (s : Text) : List Token :=
  if holdsBoth s then
    .function "concat" :: .mark .openParen ::
      argumentTokens (parts s)
  else [.literal s]

/-
  An expression that quotes a text: one literal, or at least
  two that are put together.
-/
inductive Expr.IsQuotation (text : Text) : Expr → Prop
  | literal :
      IsQuotation text (.literal text)
  | concat (texts : List Text) :
      2 ≤ texts.length →
      texts.flatten = text →
      IsQuotation text (.call "concat" (texts.map .literal))

section Pieces

variable {texts : List Text}

/- Rows with marks between them are no fewer than the rows. -/
theorem intersperse_ne_nil
    {pieces : List Text}
    (hPieces : pieces ≠ [])
    (mark : Text) :
    pieces.intersperse mark ≠ [] := by
  have hLength := List.length_pos_of_ne_nil hPieces
  apply List.ne_nil_of_length_pos
  rw [List.length_intersperse]
  omega

/- Between a literal and the others stands a comma. -/
theorem argumentTokens_cons
    (text : Text)
    (hTexts : texts ≠ []) :
    argumentTokens (text :: texts) =
      .literal text :: .mark .comma :: argumentTokens texts := by
  cases texts with
  | nil =>
      exact absurd rfl hTexts
  | cons next more =>
      rfl

theorem argumentTokens_ne_nil (texts : List Text) :
    argumentTokens texts ≠ [] := by
  rcases texts with _ | ⟨text, _ | ⟨next, more⟩⟩
  · exact List.cons_ne_nil _ _
  · exact List.cons_ne_nil _ _
  · exact List.cons_ne_nil _ _

/- Each text comes with a comma or with the end. -/
theorem length_argumentTokens (hTexts : texts ≠ []) :
    (argumentTokens texts).length = 2 * texts.length := by
  induction texts with
  | nil =>
      exact absurd rfl hTexts
  | cons text more ih =>
      cases more with
      | nil =>
          rfl
      | cons next more =>
          have hMore := List.cons_ne_nil next more
          have hLength := ih hMore
          rw [argumentTokens_cons text hMore, List.length_cons,
            List.length_cons, List.length_cons]
          omega

end Pieces

/- Literals are worth their texts. -/
theorem texts?_literals
    (attributes : List (String × Text))
    (texts : List Text) :
    Expr.texts? attributes (texts.map .literal) = some texts := by
  induction texts with
  | nil =>
      rfl
  | cons text rest ih =>
      simp [Expr.texts?, Expr.value?, ih, Value.asText]

/- A quotation is worth the text, wherever it stands. -/
theorem Expr.IsQuotation.value?_eq
    {text : Text}
    {e : Expr}
    (hQuotation : e.IsQuotation text)
    (attributes : List (String × Text)) :
    e.value? attributes = some (.text text) := by
  cases hQuotation with
  | literal =>
      rfl
  | concat texts hLength hText =>
      simp [Expr.value?, texts?_literals, hLength, hText]

/- The parts of a text are put together to the text. -/
theorem flatten_parts (s : Text) :
    (parts s).flatten = s :=
  List.intercalate_splitOn _

/- A text that holds a mark falls into at least two pieces. -/
theorem two_le_length_splitOn
    {mark : CodePoint}
    {s : Text}
    (hMark : mark ∈ s) :
    2 ≤ (s.splitOn mark).length := by
  cases hSplit : s.splitOn mark with
  | nil =>
      exact absurd hSplit (List.splitOn_ne_nil mark s)
  | cons piece rest =>
      cases rest with
      | nil =>
          have hJoined :
              [mark].intercalate (s.splitOn mark) = s :=
            List.intercalate_splitOn mark
          rw [hSplit, List.intercalate_singleton] at hJoined
          have hPiece : mark ∉ piece := by
            apply not_mem_of_mem_splitOn
            rw [hSplit]
            exact List.mem_cons_self
          rw [hJoined] at hPiece
          exact absurd hMark hPiece
      | cons next more =>
          simp

/- What a text is read as quotes that text. -/
theorem isQuotation_quoted (s : Text) :
    (quoted s).IsQuotation s := by
  unfold quoted
  split
  · rename_i hBoth
    have hMark : .char '\'' ∈ s := by
      simp [holdsBoth] at hBoth
      exact hBoth.1
    have hPieces := two_le_length_splitOn hMark
    refine .concat _ ?_ (flatten_parts s)
    rw [parts, List.length_intersperse]
    omega
  · exact .literal

------------------------------------------------------------
-- Tokens of Quotations
------------------------------------------------------------

/- A space before some tokens has no part in them. -/
theorem Scans.space
    {before : Option Token}
    {s left : Text}
    {tokens : List Token}
    (hScans : Scans before s tokens left)
    (hSome : tokens ≠ []) :
    Scans before (.char ' ' :: s) tokens left := by
  cases hScans with
  | stop =>
      exact absurd rfl hSome
  | read hToken hMore =>
      exact .read hToken hMore

/- A text between two marks is read first. -/
theorem Scans.between
    {mark : Char}
    (hMark : mark = '\'' ∨ mark = '"')
    {text s left : Text}
    (hText : .char mark ∉ text)
    {tokens : List Token}
    (before : Option Token)
    (hMore : Scans (some (.literal text)) s tokens left) :
    Scans before (XPath.between mark text ++ s)
      (.literal text :: tokens) left := by
  refine .read ?_ hMore
  have hStart :
      skipSpaces (XPath.between mark text ++ s) =
        XPath.between mark text ++ s := by
    rcases hMark with rfl | rfl
    · rfl
    · rfl
  rw [hStart]
  exact token?_between hMark hText before s

/- The pieces of a text, each between marks, and the end. -/
theorem scans_pieces
    {pieces : List Text}
    (hPieces : pieces ≠ [])
    (hMark : ∀ piece ∈ pieces, .char '\'' ∉ piece)
    (before : Option Token)
    (rest : Text) :
    Scans before
      ((ofString ", \"'\", ").intercalate
          (pieces.map (XPath.between '\'')) ++ .char ')' :: rest)
      (argumentTokens (pieces.intersperse [.char '\''])) rest := by
  induction pieces generalizing before with
  | nil =>
      exact absurd rfl hPieces
  | cons piece more ih =>
      rw [List.forall_mem_cons] at hMark
      cases more with
      | nil =>
          rw [List.map_singleton, List.intercalate_singleton]
          refine .between (.inl rfl) hMark.1 before ?_
          exact .read rfl (.stop _ rest)
      | cons next more =>
          have hMore := List.cons_ne_nil next more
          have hQuote : CodePoint.char '"' ∉ [.char '\''] := by
            decide
          rw [List.map_cons,
            List.intercalate_cons_of_ne_nil (by simp),
            List.intersperse_cons_cons,
            argumentTokens_cons _ (List.cons_ne_nil _ _),
            argumentTokens_cons _ (intersperse_ne_nil hMore _),
            List.append_assoc, List.append_assoc]
          -- Each comma is followed by a space.
          refine .between (.inl rfl) hMark.1 before ?_
          refine .read rfl (.space ?_ (List.cons_ne_nil _ _))
          refine .between (.inr rfl) hQuote _ ?_
          refine .read rfl (.space ?_ (argumentTokens_ne_nil _))
          exact ih hMore hMark.2 (some (.mark .comma))

/- Where an operand may stand, a call can begin. -/
theorem token?_concat
    {before : Option Token}
    (hBefore : endsOperand before = false)
    (rest : Text) :
    token? before (skipSpaces (ofString "concat(" ++ rest)) =
      some (.function "concat", .char '(' :: rest) := by
  have hWord :
      token? before (skipSpaces (ofString "concat(" ++ rest)) =
        scanWord before (ofString "concat(" ++ rest) := rfl
  have hNamed :
      scanWord before (ofString "concat(" ++ rest) =
        scanNamed (ofString "concat(" ++ rest) := by
    unfold scanWord
    rw [hBefore]
    rfl
  rw [hWord, hNamed]
  rfl

/-
  The expression of a text, where an operand may stand, ends
  where its characters end, whatever follows.
-/
theorem scans_literal
    {before : Option Token}
    (hBefore : endsOperand before = false)
    (s rest : Text) :
    Scans before (literal s ++ rest) (quotedTokens s) rest := by
  unfold literal quotedTokens
  cases hSingle : s.contains (.char '\'') with
  | false =>
      have hText : .char '\'' ∉ s := by
        simpa using hSingle
      rw [if_pos (by rfl), if_neg (by simp [holdsBoth, hText])]
      exact .between (.inl rfl) hText before (.stop _ rest)
  | true =>
      cases hDouble : s.contains (.char '"') with
      | false =>
          have hText : .char '"' ∉ s := by
            simpa using hDouble
          rw [if_neg (by simp), if_pos (by rfl),
            if_neg (by simp [holdsBoth, hText])]
          exact .between (.inr rfl) hText before (.stop _ rest)
      | true =>
          have hBoth : holdsBoth s = true := by
            rw [holdsBoth, hSingle, hDouble]
            rfl
          rw [if_neg (by simp), if_neg (by simp), if_pos hBoth,
            List.append_assoc, List.append_assoc]
          refine .read (token?_concat hBefore _) (.read rfl ?_)
          exact scans_pieces (List.splitOn_ne_nil _ s)
            (fun piece => not_mem_of_mem_splitOn) _ rest

------------------------------------------------------------
-- Reading Quotations
------------------------------------------------------------

/- A literal is read before a comma or the end of a call. -/
theorem reads_argument
    (text : Text)
    {rest : List Token}
    (hStops : continues 0 rest = false) :
    Reads 13 0 (.literal text :: rest) (.literal text) rest := by
  have hPrimary :
      ReadsPrimary 1 (.literal text :: rest) (.literal text) rest := by
    intro n hDepth
    obtain ⟨n, rfl⟩ : ∃ m, n = m + 1 := ⟨n - 1, by omega⟩
    rfl
  exact .of_path (hPrimary.path (.inl ⟨text, rfl⟩) hStops) hStops
    (by decide)

/- Literals are read up to the end of the call. -/
theorem arguments_of_texts
    {texts : List Text}
    (hTexts : texts ≠ [])
    (rest : List Token)
    (n : Nat)
    (hDepth : 13 + texts.length ≤ n) :
    arguments n (argumentTokens texts ++ rest) =
      some (texts.map .literal, rest) := by
  induction texts generalizing n with
  | nil =>
      exact absurd rfl hTexts
  | cons text more ih =>
      rw [List.length_cons] at hDepth
      obtain ⟨n, rfl⟩ : ∃ m, n = m + 1 := ⟨n - 1, by omega⟩
      have hRead
          {following : List Token}
          (hStops : continues 0 following = false) :
          expression n 0 (.literal text :: following) =
            some (.literal text, following) :=
        reads_argument text hStops n (by omega)
      cases more with
      | nil =>
          have hEnd :
              continues 0 (.mark .closeParen :: rest) = false := rfl
          simp [argumentTokens, arguments, hRead hEnd]
      | cons next more =>
          have hComma :
              continues 0 (.mark .comma ::
                (argumentTokens (next :: more) ++ rest)) =
                false := rfl
          have hSome := List.cons_ne_nil next more
          rw [argumentTokens_cons text hSome, List.cons_append,
            List.cons_append, arguments, hRead hComma]
          simp only [ih hSome n (by omega), List.map_cons]

/- A text is read from its tokens, whatever follows. -/
theorem readsPrimary_quoted
    (s : Text)
    (rest : List Token) :
    ReadsPrimary (14 + (quotedTokens s).length)
      (quotedTokens s ++ rest) (quoted s) rest := by
  intro n hDepth
  obtain ⟨n, rfl⟩ : ∃ m, n = m + 1 := ⟨n - 1, by omega⟩
  unfold quoted quotedTokens at *
  split
  · rename_i hBoth
    rw [if_pos hBoth] at hDepth
    have hParts : parts s ≠ [] :=
      intersperse_ne_nil (List.splitOn_ne_nil _ s) _
    generalize parts s = texts at hDepth hParts
    have hLength := length_argumentTokens hParts
    have hArguments :=
      arguments_of_texts hParts rest n (by
        simp only [List.length_cons] at hDepth
        omega)
    rcases texts with _ | ⟨text, _ | ⟨next, more⟩⟩
    · exact absurd rfl hParts
    · exact primary_of_arguments "concat" nofun hArguments
    · exact primary_of_arguments "concat" nofun hArguments
  · rfl

/- A quotation begins with a literal or with a call. -/
theorem quotedTokens_eq_cons (s : Text) :
    ∃ token tokens,
      quotedTokens s = token :: tokens ∧
        ((∃ text, token = .literal text) ∨
          ∃ name, token = .function name) := by
  unfold quotedTokens
  split
  · exact ⟨_, _, rfl, .inr ⟨_, rfl⟩⟩
  · exact ⟨_, _, rfl, .inl ⟨_, rfl⟩⟩

/- A text may stand wherever an operand may. -/
theorem reads_quoted
    (s : Text)
    {level : Nat}
    {rest : List Token}
    (hStops : continues level rest = false)
    (hLevel : level < 6) :
    Reads (26 + (quotedTokens s).length) level
      (quotedTokens s ++ rest) (quoted s) rest := by
  have hPrimary := readsPrimary_quoted s rest
  rcases quotedTokens_eq_cons s with ⟨token, tokens, hTokens, hToken⟩
  rw [hTokens] at hPrimary ⊢
  have hRead := Reads.of_path (hPrimary.path hToken hStops) hStops
    hLevel
  exact fun n hDepth => hRead n (by omega)

/- The tokens by which an attribute is compared with a text. -/
def comparisonTokens
    (name : String)
    (s : Text) : List Token :=
  .mark .at :: .test name :: .operator .equal :: quotedTokens s

/- An attribute is compared with a text. -/
def comparison
    (name : String)
    (s : Text) : Expr :=
  .binary .equal (attributeOf name) (quoted s)

/- Both sides of a comparison bind closer than it does. -/
theorem reads_comparison
    (name : String)
    (s : Text)
    {rest : List Token}
    (hStops : continues 2 rest = false) :
    Reads (29 + (quotedTokens s).length) 2
      (comparisonTokens name s ++ rest) (comparison name s) rest := by
  have hEqual :
      continues 3 (.operator .equal :: (quotedTokens s ++ rest)) =
        false := rfl
  have hAttribute :=
    Reads.of_path (path_of_attribute name hEqual) hEqual (by decide)
  have hLeft :
      Reads (26 + (quotedTokens s).length) 3
        (comparisonTokens name s ++ rest) (attributeOf name)
        (.operator .equal :: (quotedTokens s ++ rest)) :=
    fun n hDepth => hAttribute n (by omega)
  have hRight :=
    reads_quoted s (continues_of_le hStops (by decide : 2 ≤ 3))
      (by decide)
  have hBoth :=
    hLeft.binary (by rfl) hRight hStops (by decide)
  exact fun n hDepth => hBoth n (by omega)

------------------------------------------------------------
-- Fields
------------------------------------------------------------

/- An attribute is the text, or there is none. -/
theorem value?_comparison
    (attributes : List (String × Text))
    (name : String)
    (s : Text) :
    (comparison name s).value? attributes =
      some (.truth (attributes.lookup name == some s)) := by
  have hText := (isQuotation_quoted s).value?_eq attributes
  have hAttribute :
      (attributeOf name).value? attributes =
        some (.attributes (attributes.lookup name).toList) := by
    simp [attributeOf, Expr.value?]
  have hEquals :
      (Value.attributes (attributes.lookup name).toList).equals
          (.text s) =
        (attributes.lookup name == some s) := by
    cases attributes.lookup name with
    | none =>
        rfl
    | some value =>
        change [value].contains s = (value == s)
        rw [List.contains_cons, List.contains_nil, Bool.or_false,
          Bool.beq_comm]
  simp [comparison, Expr.value?, hAttribute, hText, hEquals]

/- The start of the path to a field, as tokens. -/
def startTokens (element : String) : List Token :=
  [.mark .dot, .operator .slashes, .test element,
    .mark .openBracket, .mark .at, .test "name", .operator .equal]

end XPath

namespace FormInput

open XPath

/- The name of the elements among which a field is found. -/
def element : FormInput → String
  | text _ => "*"
  | checkbox _ => "input"
  | radio _ => "input"
  | select _ => "select"
  | file _ => "input"

theorem element_cases (input : FormInput) :
    input.element = "*" ∨ input.element = "input" ∨
      input.element = "select" := by
  cases input <;> simp [element]

/- The start of the path, up to where the name is quoted. -/
theorem scans_startTokens
    (input : FormInput)
    (rest : Text) :
    Scans none
      (ofString ".//" ++ (ofString input.element ++
        (ofString "[@name=" ++ rest)))
      (startTokens input.element) rest := by
  have hTest :
      token? (some (.operator .slashes))
          (skipSpaces (ofString input.element ++
            (ofString "[@name=" ++ rest))) =
        some (.test input.element,
          ofString "[@name=" ++ rest) := by
    rcases input.element_cases with hName | hName | hName
    · rw [hName]
      rfl
    · rw [hName]
      rfl
    · rw [hName]
      rfl
  have hStart (following : Text) :
      Scans none (ofString ".//" ++ following)
        [.mark .dot, .operator .slashes] following :=
    .read rfl (.read rfl (.stop _ following))
  have hName (before : Option Token) :
      Scans before (ofString "[@name=" ++ rest)
        [.mark .openBracket, .mark .at, .test "name",
          .operator .equal]
        rest :=
    .read rfl (.read rfl (.read rfl (.read rfl (.stop _ rest))))
  exact (hStart _).append (.read hTest (hName _))

/- The value that is looked for, too: only radios have one. -/
def value? : FormInput → Option Text
  | text _ => none
  | checkbox _ => none
  | radio value => some value
  | select _ => none
  | file _ => none

end FormInput

namespace XPath

/- The end of the path to a field. -/
def conditionEnd : Option Text → Text
  | none => "]"
  | some value => " and @value=" ++ (literal value ++ "]")

/- The path to a field. -/
def fieldPath
    (element : String)
    (name : Text)
    (value? : Option Text) : Text :=
  ".//" ++ (ofString element ++ ("[@name=" ++
    (literal name ++ conditionEnd value?)))

/- The start of each selector is split in the same way. -/
theorem isNamed_append
    {start element : String}
    (hStart :
      start ++ "@name=" =
        "xpath=" ++ (".//" ++ (element ++ "[@name=")))
    (name ending : Text) :
    start ++ isNamed name ++ ending =
      "xpath=" ++ (".//" ++ (ofString element ++ ("[@name=" ++
        (literal name ++ ending)))) := by
  calc
    start ++ isNamed name ++ ending =
        ofString (start ++ "@name=") ++
          (literal name ++ ending) := by
      simp only [isNamed, ofString_append, List.append_assoc]
    _ = _ := by
      rw [hStart]
      simp only [ofString_append, List.append_assoc]

/- What finds a field is its path, with a prefix. -/
theorem selector_eq
    (name : Text)
    (input : FormInput) :
    input.selector name =
      "xpath=" ++ fieldPath input.element name input.value? := by
  have hEnding (a b c d : Text) :
      a ++ b ++ c ++ d = a ++ (b ++ (c ++ d)) := by
    simp only [List.append_assoc]
  cases input with
  | text _ =>
      exact isNamed_append rfl name "]"
  | checkbox _ =>
      exact isNamed_append rfl name "]"
  | radio value =>
      exact (hEnding ..).trans (isNamed_append rfl name _)
  | select _ =>
      exact isNamed_append rfl name "]"
  | file _ =>
      exact isNamed_append rfl name "]"

/- The condition that a field meets. -/
def condition
    (name : Text) : Option Text → Expr
  | none => comparison "name" name
  | some value =>
    .binary .and (comparison "name" name)
      (comparison "value" value)

/- The tokens of the end of the path. -/
def endTokens : Option Text → List Token
  | none => [.mark .closeBracket]
  | some value =>
    .operator .and ::
      (comparisonTokens "value" value ++ [.mark .closeBracket])

/- The last token of some arguments closes the call. -/
theorem lastOf_argumentTokens
    (before : Option Token)
    (texts : List Text) :
    lastOf before (argumentTokens texts) =
      some (.mark .closeParen) := by
  induction texts generalizing before with
  | nil =>
      rfl
  | cons text more ih =>
      cases more with
      | nil =>
          rfl
      | cons next more =>
          exact ih _

/- After a quotation no operand may stand. -/
theorem endsOperand_lastOf_quotedTokens
    (before : Option Token)
    (s : Text) :
    endsOperand (lastOf before (quotedTokens s)) = true := by
  unfold quotedTokens
  split
  · simp only [lastOf, lastOf_argumentTokens]
    rfl
  · rfl

/- The end of the path is read after an operand. -/
theorem scans_endTokens
    {before : Option Token}
    (hBefore : endsOperand before = true)
    (value? : Option Text) :
    Scans before (conditionEnd value?) (endTokens value?) [] := by
  have hBracket (before : Option Token) :
      Scans before (ofString "]") [.mark .closeBracket] [] :=
    .read rfl (.stop _ [])
  cases value? with
  | none =>
      exact hBracket before
  | some value =>
      have hAnd (rest : Text) :
          Scans before (ofString " and @value=" ++ rest)
            [.operator .and, .mark .at, .test "value",
              .operator .equal]
            rest := by
        have hWord :
            token? before
                (skipSpaces (ofString " and @value=" ++ rest)) =
              scanWord before (ofString "and @value=" ++ rest) :=
          rfl
        have hOperator :
            scanWord before (ofString "and @value=" ++ rest) =
              some (.operator .and,
                ofString " @value=" ++ rest) := by
          unfold scanWord
          rw [hBefore]
          rfl
        exact .read (hWord.trans hOperator)
          (.read rfl (.read rfl (.read rfl (.stop _ rest))))
      exact (hAnd _).append
        ((scans_literal rfl _ _).append (hBracket _))

/- The tokens of the whole path. -/
def pathTokens
    (element : String)
    (name : Text)
    (value? : Option Text) : List Token :=
  startTokens element ++ (quotedTokens name ++ endTokens value?)

/- Start, name and end of the path are read in turn. -/
theorem isRow_pathTokens
    (input : FormInput)
    (name : Text)
    (value? : Option Text) :
    IsRow (fieldPath input.element name value?)
      (pathTokens input.element name value?) := by
  refine ⟨[], ?_, rfl⟩
  have hStart := input.scans_startTokens
    (literal name ++ conditionEnd value?)
  have hName :=
    @scans_literal (some (.operator .equal)) rfl name
      (conditionEnd value?)
  have hEnd :=
    scans_endTokens
      (endsOperand_lastOf_quotedTokens (some (.operator .equal))
        name) value?
  exact hStart.append (hName.append hEnd)

/- The condition is read up to its bracket. -/
theorem reads_condition
    (name : Text)
    (value? : Option Text) :
    Reads
      (33 + (quotedTokens name).length +
        (endTokens value?).length) 0
      (comparisonTokens "name" name ++ endTokens value?)
      (condition name value?) [.mark .closeBracket] := by
  let bracket : List Token := [.mark .closeBracket]
  cases value? with
  | none =>
      have hName :=
        @reads_comparison "name" name bracket rfl
      have hTruths := hName.lower rfl (by omega) (by decide)
        (by decide)
      have hCondition := hTruths.lower rfl (by omega) (by decide)
        (by decide)
      exact fun n hDepth => hCondition n (by omega)
  | some value =>
      let middle := comparisonTokens "value" value ++ bracket
      let bound :=
        29 + (quotedTokens name).length +
          (quotedTokens value).length
      have hName :=
        @reads_comparison "name" name
          (.operator .and :: middle) rfl
      have hValue :=
        @reads_comparison "value" value bracket rfl
      have hLeft :
          Reads bound 2
            (comparisonTokens "name" name ++
              .operator .and :: middle)
            (comparison "name" name)
            (.operator .and :: middle) :=
        fun n hDepth => hName n (by omega)
      have hRight :
          Reads bound 2 middle (comparison "value" value)
            bracket :=
        fun n hDepth => hValue n (by omega)
      have hBoth : Reads (bound + 3) 1 _ _ bracket :=
        hLeft.binary rfl hRight rfl (by decide)
      have hCondition := hBoth.lower rfl (by omega) (by decide)
        (by decide)
      have hLength :
          (endTokens (some value)).length =
            (quotedTokens value).length + 5 := by
        simp [endTokens, comparisonTokens]
      exact fun n hDepth => hCondition n (by omega)

/- The path is read as a search for elements with the condition. -/
theorem parses_fieldPath
    (input : FormInput)
    (name : Text)
    (value? : Option Text) :
    Parses (fieldPath input.element name value?)
      (elementsBelow input.element (condition name value?)) := by
  refine ⟨_, isRow_pathTokens input name value?, ?_⟩
  have hRead :=
    (reads_condition name value?).elementsBelow input.element
  have hTokens :
      pathTokens input.element name value? =
        .mark .dot :: .operator .slashes :: .test input.element ::
          .mark .openBracket ::
            (comparisonTokens "name" name ++
              endTokens value?) := rfl
  rw [hTokens]
  apply hRead
  simp only [depth, comparisonTokens, List.length_cons,
    List.length_append]
  omega

/- What a text is read as is a text for the whole of it. -/
theorem parses_literal (s : Text) :
    Parses (literal s) (quoted s) := by
  refine ⟨quotedTokens s, ⟨[], ?_, rfl⟩, ?_⟩
  · have hScans := @scans_literal none rfl s []
    rwa [List.append_nil] at hScans
  · have hRead := @reads_quoted s 0 [] rfl (by decide)
    rw [List.append_nil] at hRead
    apply hRead
    rcases quotedTokens_eq_cons s with ⟨_, _, hTokens, -⟩
    simp only [hTokens, depth, List.length_cons]
    omega

/- Does an element with some attributes meet the condition? -/
def fits
    (name : Text)
    (attributes : List (String × Text)) :
    Option Text → Bool
  | none => attributes.lookup "name" == some name
  | some value =>
    attributes.lookup "name" == some name &&
      attributes.lookup "value" == some value

/- The condition is worth what its comparisons are worth. -/
theorem value?_condition
    (name : Text)
    (value? : Option Text)
    (attributes : List (String × Text)) :
    (condition name value?).value? attributes =
      some (.truth (fits name attributes value?)) := by
  cases value? with
  | none =>
      simp [condition, value?_comparison, fits]
  | some value =>
      simp [condition, Expr.value?, value?_comparison, fits,
        Value.asTruth]

/- An attribute is compared with a quotation of a text. -/
def Expr.Compares
    (key : String)
    (text : Text)
    (e : Expr) : Prop :=
  ∃ quotation : Expr,
    quotation.IsQuotation text ∧
      e = .binary .equal (attributeOf key) quotation

/- The name is compared, and the value if one is looked for. -/
inductive Expr.ComparesField (name : Text) :
    Option Text → Expr → Prop
  | name (left : Expr) :
      left.Compares "name" name →
      ComparesField name none left
  | value (value : Text) (left right : Expr) :
      left.Compares "name" name →
      right.Compares "value" value →
      ComparesField name (some value) (.binary .and left right)

theorem compares_comparison
    (key : String)
    (text : Text) :
    (comparison key text).Compares key text :=
  ⟨quoted text, isQuotation_quoted text, rfl⟩

/-
  The condition compares the name, and a value if there is
  one.
-/
theorem comparesField_condition
    (name : Text)
    (value? : Option Text) :
    (condition name value?).ComparesField name value? := by
  cases value? with
  | none =>
      exact .name _ (compares_comparison "name" name)
  | some value =>
      exact .value value _ _ (compares_comparison "name" name)
        (compares_comparison "value" value)

/- Conditions that are the same compare with the same texts. -/
theorem eq_of_condition_eq
    {name other value change : Text}
    (hSame :
      condition name (some value) = condition other (some change)) :
    name = other ∧ value = change := by
  have hQuoted
      {s t : Text}
      (hSame : quoted s = quoted t) :
      s = t := by
    have hText := (isQuotation_quoted s).value?_eq []
    rw [hSame, (isQuotation_quoted t).value?_eq []] at hText
    simpa using hText.symm
  simp only [condition, comparison, Expr.binary.injEq, true_and]
    at hSame
  exact ⟨hQuoted hSame.1, hQuoted hSame.2⟩

/- A radio is found by the same text as no other one. -/
theorem selector_radio_inj
    {name other value change : Text}
    (hSame :
      (FormInput.radio value).selector name =
        (FormInput.radio change).selector other) :
    name = other ∧ value = change := by
  rw [selector_eq, selector_eq, List.append_right_inj] at hSame
  have hParses :=
    parses_fieldPath (.radio value) name (some value)
  have hOther :=
    parses_fieldPath (.radio change) other (some change)
  have hPath :
      fieldPath "input" name (some value) =
        fieldPath "input" other (some change) := hSame
  change Parses (fieldPath "input" name (some value)) _
    at hParses
  rw [hPath] at hParses
  have hExprs := hParses.unique hOther
  simp only [elementsBelow, Expr.step.injEq, List.cons.injEq,
    and_true] at hExprs
  exact eq_of_condition_eq hExprs.2.2.2

/-
  The expression of a text is a quotation of it, which is worth
  that text and ends with its characters.  What finds a field
  looks for its name, and for the value of a radio, alone.
-/
theorem quotations_of_fields :
    (∀ s : Text,
      ∃ (e : Expr) (tokens : List Token),
        e.IsQuotation s ∧
        (∀ attributes, e.value? attributes = some (.text s)) ∧
        Parses (literal s) e ∧
        (∀ rest, Scans none (literal s ++ rest) tokens rest) ∧
        ∃ bound, ∀ more,
          ReadsPrimary bound (tokens ++ more) e more) ∧
    (∀ (name : Text) (input : FormInput),
      ∃ (path : Text) (condition : Expr),
        input.selector name = "xpath=" ++ path ∧
        Parses path (elementsBelow input.element condition) ∧
        condition.ComparesField name input.value? ∧
        ∀ attributes,
          condition.value? attributes =
            some (.truth (fits name attributes input.value?))) ∧
    ∀ name value other change : Text,
      (FormInput.radio value).selector name =
          (FormInput.radio change).selector other ↔
        name = other ∧ value = change := by
  refine ⟨fun s => ?_, fun name input => ?_,
    fun name value other change => ⟨selector_radio_inj, ?_⟩⟩
  · have hQuotation := isQuotation_quoted s
    exact ⟨quoted s, quotedTokens s, hQuotation,
      hQuotation.value?_eq, parses_literal s,
      scans_literal rfl s, ⟨_, readsPrimary_quoted s⟩⟩
  · exact ⟨fieldPath input.element name input.value?,
      condition name input.value?, selector_eq name input,
      parses_fieldPath input name input.value?,
      comparesField_condition name input.value?,
      value?_condition name input.value?⟩
  · rintro ⟨rfl, rfl⟩
    rfl

end XPath

end Replay
