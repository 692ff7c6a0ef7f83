import Mathlib.Data.List.Basic
import Replay.XPath

/-
  This file defines how a text is cut into the tokens of an
  expression of XPath 1.0, and proves that this can be done
  in one way only.

  Key definitions include:
    * `XPath.Token`
    * `XPath.scanName`
    * `XPath.endsOperand`
    * `XPath.token?`
    * `XPath.Scans`

  Main results:
    * `XPath.token?_between`
    * `XPath.Scans.append`
    * `XPath.Scans.unique`

  The longest token is always taken.  A star or a name after
  an operand is an operator; any other name is a function, an
  axis or a test by what follows it.
-/

------------------------------------------------------------
-- Tokens
------------------------------------------------------------

namespace Replay

namespace XPath

/- The marks that are no operators. -/
inductive Mark where
  | openParen
  | closeParen
  | openBracket
  | closeBracket
  | dot
  | dots
  | at
  | comma
  | colons
  deriving DecidableEq, Repr

/- Operators; of these, slashes stand between steps only. -/
inductive Operator where
  | or
  | and
  | equal
  | unequal
  | less
  | atMost
  | greater
  | atLeast
  | plus
  | minus
  | times
  | div
  | mod
  | union
  | slash
  | slashes
  deriving DecidableEq, Repr

inductive Token where
  | mark (mark : Mark)
  | operator (operator : Operator)
  | test (name : String)
  | nodeType (name : String)
  | function (name : String)
  | axis (name : String)
  | literal (text : Text)
  | number (text : String)
  | variable (name : String)
  deriving DecidableEq, Repr

------------------------------------------------------------
-- Characters
------------------------------------------------------------

/- The characters that may stand around tokens. -/
def isSpace (c : Char) : Bool :=
  c == ' ' || c == '\t' || c == '\n' || c == '\r'

/- A text without the spaces in front. -/
def skipSpaces (s : Text) : Text :=
  s.dropWhile (CodePoint.isIn isSpace)

/- The characters that a name without a prefix may begin with. -/
def isNameStart (c : Char) : Bool :=
  let n := c.toNat
  c.isAlpha || c == '_' || (0xC0 ≤ n && n ≤ 0xD6) ||
    (0xD8 ≤ n && n ≤ 0xF6) || (0xF8 ≤ n && n ≤ 0x2FF) ||
    (0x370 ≤ n && n ≤ 0x37D) || (0x37F ≤ n && n ≤ 0x1FFF) ||
    (0x200C ≤ n && n ≤ 0x200D) || (0x2070 ≤ n && n ≤ 0x218F) ||
    (0x2C00 ≤ n && n ≤ 0x2FEF) || (0x3001 ≤ n && n ≤ 0xD7FF) ||
    (0xF900 ≤ n && n ≤ 0xFDCF) || (0xFDF0 ≤ n && n ≤ 0xFFFD) ||
    (0x10000 ≤ n && n ≤ 0xEFFFF)

/- The characters of such a name. -/
def isNamePart (c : Char) : Bool :=
  let n := c.toNat
  isNameStart c || c.isDigit || c == '-' || c == '.' ||
    n == 0xB7 || (0x300 ≤ n && n ≤ 0x36F) ||
    (0x203F ≤ n && n ≤ 0x2040)

------------------------------------------------------------
-- Names and Literals
------------------------------------------------------------

/- A name without a prefix, and what follows it. -/
def scanName : Text → Option (Text × Text)
  | [] => none
  | c :: rest =>
    if c.isIn isNameStart then
      some (c :: rest.takeWhile (CodePoint.isIn isNamePart),
        rest.dropWhile (CodePoint.isIn isNamePart))
    else none

/- A name with or without a prefix, and what follows it. -/
def scanQualified
    (s : Text) : Option (Text × Text) :=
  match scanName s with
  | some (first, .char ':' :: rest) =>
    match scanName rest with
    | some (second, rest) =>
      some (first ++ .char ':' :: second, rest)
    | none => some (first, .char ':' :: rest)
  | found => found

/- What stands before a mark, and what follows the mark. -/
def scanUntil
    (mark : Char) :
    Text → Option (Text × Text)
  | [] => none
  | c :: rest =>
    if c = .char mark then some ([], rest)
    else
      match scanUntil mark rest with
      | some (text, rest) => some (c :: text, rest)
      | none => none

/- A literal has no escapes: it ends at the next mark. -/
def scanLiteral
    (mark : Char)
    (s : Text) : Option (Token × Text) :=
  match scanUntil mark s with
  | some (text, rest) => some (.literal text, rest)
  | none => none

/- Digits, and a fraction if one follows. -/
def scanNumber (s : Text) : Token × Text :=
  let digits := s.takeWhile (CodePoint.isIn Char.isDigit)
  match s.dropWhile (CodePoint.isIn Char.isDigit) with
  | .char '.' :: rest =>
    (.number (Text.replaced
        (digits ++ .char '.' ::
          rest.takeWhile (CodePoint.isIn Char.isDigit))),
      rest.dropWhile (CodePoint.isIn Char.isDigit))
  | rest => (.number (Text.replaced digits), rest)

/- The operator of a name. -/
def Operator.ofName? : Text → Option Operator
  | [.char 'o', .char 'r'] => some .or
  | [.char 'a', .char 'n', .char 'd'] => some .and
  | [.char 'd', .char 'i', .char 'v'] => some .div
  | [.char 'm', .char 'o', .char 'd'] => some .mod
  | _ => none

/- The names of the kinds of nodes. -/
def nodeTypes : List String :=
  ["comment", "text", "processing-instruction", "node"]

/- A name that is no operator, by what follows it. -/
def scanNamed (s : Text) : Option (Token × Text) :=
  match scanName s with
  | none => none
  | some (first, after) =>
    match skipSpaces after with
    | .char ':' :: .char ':' :: _ =>
      some (.axis first.replaced, after)
    | _ =>
      match after with
      | .char ':' :: .char '*' :: rest =>
        some (.test (first.replaced ++ ":*"), rest)
      | _ =>
        match scanQualified s with
        | none => none
        | some (name, rest) =>
          match skipSpaces rest with
          | .char '(' :: _ =>
            if name.replaced ∈ nodeTypes then
              some (.nodeType name.replaced, rest)
            else some (.function name.replaced, rest)
          | _ => some (.test name.replaced, rest)

------------------------------------------------------------
-- The Next Token
------------------------------------------------------------

/- After some tokens an operator has to follow. -/
def endsOperand : Option Token → Bool
  | none => false
  | some (.operator _) => false
  | some (.mark .at) => false
  | some (.mark .colons) => false
  | some (.mark .openParen) => false
  | some (.mark .openBracket) => false
  | some (.mark .comma) => false
  | some _ => true

/- A star or a name, by the token before it. -/
def scanWord
    (before : Option Token)
    (s : Text) : Option (Token × Text) :=
  if endsOperand before then
    match s with
    | .char '*' :: rest => some (.operator .times, rest)
    | _ =>
      match scanName s with
      | none => none
      | some (name, rest) =>
        match Operator.ofName? name with
        | some operator => some (.operator operator, rest)
        | none => none
  else
    match s with
    | .char '*' :: rest => some (.test "*", rest)
    | _ => scanNamed s

/- The token at the start of a text, and what follows it. -/
def token?
    (before : Option Token) :
    Text → Option (Token × Text)
  | .char '(' :: rest => some (.mark .openParen, rest)
  | .char ')' :: rest => some (.mark .closeParen, rest)
  | .char '[' :: rest => some (.mark .openBracket, rest)
  | .char ']' :: rest => some (.mark .closeBracket, rest)
  | .char '@' :: rest => some (.mark .at, rest)
  | .char ',' :: rest => some (.mark .comma, rest)
  | .char ':' :: .char ':' :: rest => some (.mark .colons, rest)
  | .char '/' :: .char '/' :: rest =>
    some (.operator .slashes, rest)
  | .char '/' :: rest => some (.operator .slash, rest)
  | .char '|' :: rest => some (.operator .union, rest)
  | .char '+' :: rest => some (.operator .plus, rest)
  | .char '-' :: rest => some (.operator .minus, rest)
  | .char '=' :: rest => some (.operator .equal, rest)
  | .char '!' :: .char '=' :: rest =>
    some (.operator .unequal, rest)
  | .char '<' :: .char '=' :: rest =>
    some (.operator .atMost, rest)
  | .char '<' :: rest => some (.operator .less, rest)
  | .char '>' :: .char '=' :: rest =>
    some (.operator .atLeast, rest)
  | .char '>' :: rest => some (.operator .greater, rest)
  | .char '\'' :: rest => scanLiteral '\'' rest
  | .char '"' :: rest => scanLiteral '"' rest
  | .char '$' :: rest =>
    match scanQualified rest with
    | some (name, rest) => some (.variable name.replaced, rest)
    | none => none
  | .char '.' :: .char '.' :: rest => some (.mark .dots, rest)
  | .char '.' :: rest =>
    if (rest.head?.any (CodePoint.isIn Char.isDigit)) then
      some (scanNumber (.char '.' :: rest))
    else some (.mark .dot, rest)
  | [] => none
  | c :: rest =>
    if c.isIn Char.isDigit then some (scanNumber (c :: rest))
    else scanWord before (c :: rest)

------------------------------------------------------------
-- Rows of Tokens
------------------------------------------------------------

/-
  Some tokens are read from a text, with spaces around them,
  and a text is left.
-/
inductive Scans :
    Option Token → Text → List Token → Text → Prop
  | stop (before : Option Token) (s : Text) :
      Scans before s [] s
  | read
      {before : Option Token}
      {s rest left : Text}
      {token : Token}
      {tokens : List Token} :
      token? before (skipSpaces s) = some (token, rest) →
      Scans (some token) rest tokens left →
      Scans before s (token :: tokens) left

/- The token before what follows some tokens. -/
def lastOf
    (before : Option Token) :
    List Token → Option Token
  | [] => before
  | token :: rest => lastOf (some token) rest

/- The whole text is a row of tokens. -/
def IsRow
    (s : Text)
    (tokens : List Token) : Prop :=
  ∃ left, Scans none s tokens left ∧ skipSpaces left = []

section

variable {before : Option Token}
variable {s middle left : Text}
variable {tokens more : List Token}

/- Rows of tokens one after another are one row. -/
theorem Scans.append
    (hFirst : Scans before s tokens middle)
    (hSecond : Scans (lastOf before tokens) middle more left) :
    Scans before s (tokens ++ more) left := by
  induction hFirst with
  | stop before s =>
      exact hSecond
  | read hToken _ ih =>
      exact .read hToken (ih hSecond)

theorem token?_nil (before : Option Token) :
    token? before [] = none := rfl

/- A text is a row of tokens in one way at most. -/
theorem Scans.unique
    {others : List Token}
    {rest : Text}
    (hTokens : Scans before s tokens left)
    (hLeft : skipSpaces left = [])
    (hOthers : Scans before s others rest)
    (hRest : skipSpaces rest = []) :
    tokens = others := by
  induction hTokens generalizing others with
  | stop before s =>
      cases hOthers with
      | stop =>
          rfl
      | read hToken _ =>
          rw [hLeft, token?_nil] at hToken
          cases hToken
  | read hToken _ ih =>
      cases hOthers with
      | stop =>
          rw [hRest, token?_nil] at hToken
          cases hToken
      | read hOther hMore =>
          rw [hToken] at hOther
          cases hOther
          rw [ih hLeft hMore]

/- So a whole text has one row of tokens at most. -/
theorem IsRow.unique
    {others : List Token}
    (hTokens : IsRow s tokens)
    (hOthers : IsRow s others) :
    tokens = others := by
  rcases hTokens with ⟨left, hScans, hLeft⟩
  rcases hOthers with ⟨rest, hOther, hRest⟩
  exact hScans.unique hLeft hOther hRest

end

------------------------------------------------------------
-- Literals Between Marks
------------------------------------------------------------

/- A text without the mark ends where the mark stands. -/
theorem scanUntil_append
    {mark : Char}
    {text : Text}
    (hText : .char mark ∉ text)
    (rest : Text) :
    scanUntil mark (text ++ .char mark :: rest) =
      some (text, rest) := by
  induction text with
  | nil =>
      simp [scanUntil]
  | cons c text ih =>
      rw [List.mem_cons, not_or] at hText
      simp [scanUntil, Ne.symm hText.1, ih hText.2]

/- What stands between two marks is one literal. -/
theorem token?_between
    {mark : Char}
    (hMark : mark = '\'' ∨ mark = '"')
    {text : Text}
    (hText : .char mark ∉ text)
    (before : Option Token)
    (rest : Text) :
    token? before (between mark text ++ rest) =
      some (.literal text, rest) := by
  have hLiteral :
      scanLiteral mark (text ++ .char mark :: rest) =
        some (.literal text, rest) := by
    rw [scanLiteral, scanUntil_append hText]
  have hSplit :
      between mark text ++ rest =
        .char mark :: (text ++ .char mark :: rest) := by
    simp [between]
  rw [hSplit]
  rcases hMark with rfl | rfl
  · exact hLiteral
  · exact hLiteral

end XPath

end Replay
