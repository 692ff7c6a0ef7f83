import Replay.Proofs.XPath.Token

/-
  This file defines the expressions of XPath 1.0, how they are
  read from tokens, and what some of them are worth at an
  element.

  Key definitions include:
    * `XPath.Expr`
    * `XPath.expression`
    * `XPath.Parses`
    * `XPath.Value`
    * `XPath.Expr.value?`

  Main results:
    * `XPath.Parses.unique`
    * `XPath.Reads.of_path`
    * `XPath.Reads.binary`
    * `XPath.Reads.elementsBelow`
-/

------------------------------------------------------------
-- Expressions
------------------------------------------------------------

namespace Replay

namespace XPath

/- What a step chooses from the nodes of its axis. -/
inductive NodeTest where
  | name (name : String)
  | kind (name : String)
  | instruction (target : Text)
  deriving DecidableEq, Repr

/-
  An expression.  A path begins at the root, at the context or
  at what another expression gives, and goes on by steps with
  conditions; all abbreviations are written out.
-/
inductive Expr where
  | root
  | context
  | step (start : Expr) (axis : String) (test : NodeTest)
      (conditions : List Expr)
  | filter (start condition : Expr)
  | literal (text : Text)
  | number (text : String)
  | variable (name : String)
  | call (name : String) (arguments : List Expr)
  | negation (inner : Expr)
  | binary (operator : Operator) (left right : Expr)

/- The nodes of all generations from some nodes on. -/
def Expr.descend (start : Expr) : Expr :=
  .step start "descendant-or-self" (.kind "node") []

/- The names of the axes. -/
def axes : List String :=
  ["ancestor", "ancestor-or-self", "attribute", "child",
    "descendant", "descendant-or-self", "following",
    "following-sibling", "namespace", "parent", "preceding",
    "preceding-sibling", "self"]

------------------------------------------------------------
-- Precedence
------------------------------------------------------------

/- How close an operator binds; a sign stands at level 6. -/
def Operator.level : Operator → Option Nat
  | or => some 0
  | and => some 1
  | equal => some 2
  | unequal => some 2
  | less => some 3
  | atMost => some 3
  | greater => some 3
  | atLeast => some 3
  | plus => some 4
  | minus => some 4
  | times => some 5
  | div => some 5
  | mod => some 5
  | union => some 7
  | slash => none
  | slashes => none

/- Does a step begin with a token? -/
def Token.beginsStep : Token → Bool
  | mark .dot => true
  | mark .dots => true
  | mark .at => true
  | test _ => true
  | nodeType _ => true
  | axis _ => true
  | _ => false

/- The test of a step, and what follows it. -/
def nodeTest? : List Token → Option (NodeTest × List Token)
  | .test name :: rest => some (.name name, rest)
  | .nodeType name :: .mark .openParen :: .mark .closeParen ::
      rest =>
    some (.kind name, rest)
  | .nodeType "processing-instruction" :: .mark .openParen ::
      .literal target :: .mark .closeParen :: rest =>
    some (.instruction target, rest)
  | _ => none

/- The axis of a step, its test, and what follows them. -/
def axisTest? :
    List Token → Option (String × NodeTest × List Token)
  | .mark .at :: rest =>
    (nodeTest? rest).map fun (test, rest) =>
      ("attribute", test, rest)
  | .axis name :: .mark .colons :: rest =>
    if name ∈ axes then
      (nodeTest? rest).map fun (test, rest) => (name, test, rest)
    else none
  | rest =>
    (nodeTest? rest).map fun (test, rest) => ("child", test, rest)

------------------------------------------------------------
-- Reading Expressions
------------------------------------------------------------

mutual

/-
  Read an expression whose operators bind at least as close as
  a level.  The first number bounds the depth of the reading.
-/
def expression :
    Nat → Nat → List Token → Option (Expr × List Token)
  | 0, _, _ => none
  | n + 1, level, tokens =>
    if level = 6 then signed n tokens
    else if level < 8 then
      match expression n (level + 1) tokens with
      | some (left, rest) => operations n level left rest
      | none => none
    else path n tokens

/- Read operators of one level, each with what is on its right. -/
def operations :
    Nat → Nat → Expr → List Token → Option (Expr × List Token)
  | 0, _, _, _ => none
  | n + 1, level, left, .operator operator :: rest =>
    if operator.level = some level then
      match expression n (level + 1) rest with
      | some (right, rest) =>
        operations n level (.binary operator left right) rest
      | none => none
    else some (left, .operator operator :: rest)
  | _ + 1, _, left, rest => some (left, rest)

/- Read signs, and what they stand before. -/
def signed : Nat → List Token → Option (Expr × List Token)
  | 0, _ => none
  | n + 1, .operator .minus :: rest =>
    match signed n rest with
    | some (inner, rest) => some (.negation inner, rest)
    | none => none
  | n + 1, tokens => expression n 7 tokens

/- Read a path. -/
def path : Nat → List Token → Option (Expr × List Token)
  | 0, _ => none
  | n + 1, .operator .slash :: rest =>
    if rest.head?.any Token.beginsStep then steps n .root rest
    else some (.root, rest)
  | n + 1, .operator .slashes :: rest => steps n (.descend .root) rest
  | n + 1, tokens =>
    if tokens.head?.any Token.beginsStep then
      steps n .context tokens
    else
      match primary n tokens with
      | some (start, rest) =>
        match conditions n rest with
        | some (found, rest) =>
          moreSteps n (found.foldl .filter start) rest
        | none => none
      | none => none

/- Read steps from some nodes. -/
def steps :
    Nat → Expr → List Token → Option (Expr × List Token)
  | 0, _, _ => none
  | n + 1, start, .mark .dot :: rest =>
    moreSteps n (.step start "self" (.kind "node") []) rest
  | n + 1, start, .mark .dots :: rest =>
    moreSteps n (.step start "parent" (.kind "node") []) rest
  | n + 1, start, tokens =>
    match axisTest? tokens with
    | some (axis, test, rest) =>
      match conditions n rest with
      | some (found, rest) =>
        moreSteps n (.step start axis test found) rest
      | none => none
    | none => none

/- Read more steps, if slashes follow. -/
def moreSteps :
    Nat → Expr → List Token → Option (Expr × List Token)
  | 0, _, _ => none
  | n + 1, start, .operator .slash :: rest => steps n start rest
  | n + 1, start, .operator .slashes :: rest =>
    steps n start.descend rest
  | _ + 1, start, rest => some (start, rest)

/- Read conditions in brackets. -/
def conditions :
    Nat → List Token → Option (List Expr × List Token)
  | 0, _ => none
  | n + 1, .mark .openBracket :: rest =>
    match expression n 0 rest with
    | some (condition, .mark .closeBracket :: rest) =>
      match conditions n rest with
      | some (others, rest) => some (condition :: others, rest)
      | none => none
    | _ => none
  | _ + 1, rest => some ([], rest)

/- Read what is neither a path nor has operators of its own. -/
def primary : Nat → List Token → Option (Expr × List Token)
  | 0, _ => none
  | _ + 1, .literal text :: rest => some (.literal text, rest)
  | _ + 1, .number text :: rest => some (.number text, rest)
  | _ + 1, .variable name :: rest => some (.variable name, rest)
  | n + 1, .mark .openParen :: rest =>
    match expression n 0 rest with
    | some (inner, .mark .closeParen :: rest) => some (inner, rest)
    | _ => none
  | _ + 1, .function name :: .mark .openParen ::
      .mark .closeParen :: rest =>
    some (.call name [], rest)
  | n + 1, .function name :: .mark .openParen :: rest =>
    match arguments n rest with
    | some (found, rest) => some (.call name found, rest)
    | none => none
  | _ + 1, _ => none

/- Read arguments up to the end of a call. -/
def arguments :
    Nat → List Token → Option (List Expr × List Token)
  | 0, _ => none
  | n + 1, tokens =>
    match expression n 0 tokens with
    | some (argument, .mark .closeParen :: rest) =>
      some ([argument], rest)
    | some (argument, .mark .comma :: rest) =>
      match arguments n rest with
      | some (others, rest) => some (argument :: others, rest)
      | none => none
    | _ => none

end

/- The depth of a reading, for each token and one more. -/
def depth : Nat := 20

/- A whole text is read as an expression. -/
def Parses
    (s : Text)
    (e : Expr) : Prop :=
  ∃ tokens,
    IsRow s tokens ∧
      expression (depth * (tokens.length + 1)) 0 tokens =
        some (e, [])

/- It is read as one expression at most. -/
theorem Parses.unique
    {s : Text}
    {e other : Expr}
    (hParses : Parses s e)
    (hOther : Parses s other) :
    e = other := by
  rcases hParses with ⟨tokens, hRow, hRead⟩
  rcases hOther with ⟨others, hOthers, hReadOther⟩
  rw [hRow.unique hOthers, hReadOther] at hRead
  cases hRead
  rfl

------------------------------------------------------------
-- Where Expressions End
------------------------------------------------------------

/- Would a token go on with an expression that binds so close? -/
def continues (level : Nat) : List Token → Bool
  | .mark .openBracket :: _ => true
  | .operator operator :: _ =>
    match operator.level with
    | some other => level ≤ other
    | none => true
  | _ => false

/-
  What does not go on with a loose level does not go on with
  a tight one.
-/
theorem continues_of_le
    {level other : Nat}
    {rest : List Token}
    (hStops : continues level rest = false)
    (hLevels : level ≤ other) :
    continues other rest = false := by
  cases rest with
  | nil =>
      rfl
  | cons token more =>
      cases token with
      | operator operator =>
          cases hLevel : operator.level with
          | none =>
              simp [continues, hLevel] at hStops
          | some found =>
              simp only [continues, hLevel,
                decide_eq_false_iff_not] at hStops ⊢
              omega
      | mark mark =>
          cases mark with
          | openBracket =>
              cases hStops
          | _ =>
              rfl
      | _ =>
          rfl

/- Given enough depth, tokens are read as an expression. -/
def Reads
    (bound level : Nat)
    (tokens : List Token)
    (e : Expr)
    (rest : List Token) : Prop :=
  ∀ n, bound ≤ n → expression n level tokens = some (e, rest)

/- The same of what is neither a path nor has operators. -/
def ReadsPrimary
    (bound : Nat)
    (tokens : List Token)
    (e : Expr)
    (rest : List Token) : Prop :=
  ∀ n, bound ≤ n → primary n tokens = some (e, rest)

section Ending

variable {level bound : Nat}
variable {tokens middle rest : List Token}
variable {e left right : Expr}

/- No operator of the level follows. -/
theorem operations_of_stop
    (hStops : continues level rest = false)
    (n : Nat)
    (e : Expr) :
    operations (n + 1) level e rest = some (e, rest) := by
  cases rest with
  | nil =>
      rfl
  | cons token more =>
      cases token with
      | operator operator =>
          have hLevel : operator.level ≠ some level := by
            intro hSame
            simp [continues, hSame] at hStops
          simp only [operations, if_neg hLevel]
      | _ =>
          rfl

/- Nor does a condition. -/
theorem conditions_of_stop
    (hStops : continues level rest = false)
    (n : Nat) :
    conditions (n + 1) rest = some ([], rest) := by
  cases rest with
  | nil =>
      rfl
  | cons token more =>
      cases token with
      | mark mark =>
          cases mark with
          | openBracket =>
              cases hStops
          | _ =>
              rfl
      | _ =>
          rfl

/- Nor does a step. -/
theorem moreSteps_of_stop
    (hStops : continues level rest = false)
    (n : Nat)
    (e : Expr) :
    moreSteps (n + 1) e rest = some (e, rest) := by
  cases rest with
  | nil =>
      rfl
  | cons token more =>
      cases token with
      | operator operator =>
          cases operator with
          | slash =>
              cases hStops
          | slashes =>
              cases hStops
          | _ =>
              rfl
      | _ =>
          rfl

theorem path_of_minus
    (n : Nat)
    (rest : List Token) :
    path n (.operator .minus :: rest) = none := by
  rcases n with _ | _ | n
  · rfl
  · rfl
  · rfl

/- No path begins with a sign. -/
theorem signed_of_path
    {m : Nat}
    (hPath : path m tokens = some (e, rest))
    (n : Nat) :
    signed (n + 1) tokens = expression n 7 tokens := by
  cases tokens with
  | nil =>
      rfl
  | cons token more =>
      cases token with
      | operator operator =>
          cases operator with
          | minus =>
              rw [path_of_minus] at hPath
              cases hPath
          | _ =>
              rfl
      | _ =>
          rfl

/- A tighter expression ends where no looser operator follows. -/
theorem Reads.lower
    (hReads : Reads bound (level + 1) tokens e rest)
    (hStops : continues level rest = false)
    (hBound : 0 < bound)
    (hLevel : level < 8)
    (hSigned : level ≠ 6) :
    Reads (bound + 1) level tokens e rest := by
  intro n hDepth
  obtain ⟨n, rfl⟩ : ∃ m, n = m + 2 := ⟨n - 2, by omega⟩
  rw [expression, if_neg hSigned, if_pos hLevel,
    hReads (n + 1) (by omega)]
  exact operations_of_stop hStops n e

/- An operator of the level is read with what is on its right. -/
theorem Reads.binary
    {operator : Operator}
    (hOperator : operator.level = some level)
    (hLeft :
      Reads bound (level + 1) tokens left
        (.operator operator :: middle))
    (hRight : Reads bound (level + 1) middle right rest)
    (hStops : continues level rest = false)
    (hLevel : level < 6) :
    Reads (bound + 3) level tokens
      (.binary operator left right) rest := by
  intro n hDepth
  obtain ⟨n, rfl⟩ : ∃ m, n = m + 3 := ⟨n - 3, by omega⟩
  rw [expression, if_neg (by omega), if_pos (by omega),
    hLeft (n + 2) (by omega)]
  simp only [operations, if_pos hOperator,
    hRight (n + 1) (by omega)]
  exact operations_of_stop hStops n _

/- A path, followed by no operator of the level, is read. -/
theorem Reads.of_path
    (hPath : ∀ n, bound ≤ n → path n tokens = some (e, rest))
    (hStops : continues level rest = false)
    (hLevel : level < 6) :
    Reads (bound + 10) level tokens e rest := by
  have hEight : Reads (bound + 1) 8 tokens e rest := by
    intro n hDepth
    obtain ⟨n, rfl⟩ : ∃ m, n = m + 1 := ⟨n - 1, by omega⟩
    exact hPath n (by omega)
  have hSeven : Reads (bound + 2) 7 tokens e rest :=
    hEight.lower (continues_of_le hStops (by omega)) (by omega)
      (by omega) (by omega)
  have hSix : Reads (bound + 4) 6 tokens e rest := by
    intro n hDepth
    obtain ⟨n, rfl⟩ : ∃ m, n = m + 2 := ⟨n - 2, by omega⟩
    rw [expression, if_pos rfl,
      signed_of_path (hPath bound (Nat.le_refl _))]
    exact hSeven n (by omega)
  -- Each of the six levels of operators takes one more step.
  have hLevels (below : Nat) :
      ∀ other,
        other + below = 5 →
          level ≤ other →
            Reads (bound + 5 + below) other tokens e rest := by
    induction below with
    | zero =>
        intro other hOther hLe
        obtain rfl : other = 5 := hOther
        exact hSix.lower (continues_of_le hStops hLe) (by omega)
          (by omega) (by omega)
    | succ below ih =>
        intro other hOther hLe
        have hNext := ih (other + 1) (by omega) (by omega)
        exact hNext.lower (continues_of_le hStops hLe) (by omega)
          (by omega) (by omega)
  have hRead := hLevels (5 - level) level (by omega) (Nat.le_refl _)
  exact fun n hDepth => hRead n (by omega)

/- A call whose arguments are read is read. -/
theorem primary_of_arguments
    {n : Nat}
    {first : Token}
    {found : List Expr}
    (name : String)
    (hFirst : first ≠ .mark .closeParen)
    (hArguments :
      arguments n (first :: tokens) = some (found, rest)) :
    primary (n + 1)
        (.function name :: .mark .openParen :: first :: tokens) =
      some (.call name found, rest) := by
  rw [primary, hArguments]
  rintro _ hSame
  exact hFirst (List.cons.inj hSame).1

/- A literal or a call may stand in the place of a path. -/
theorem ReadsPrimary.path
    {token : Token}
    (hPrimary : ReadsPrimary bound (token :: tokens) e rest)
    (hToken :
      (∃ text, token = .literal text) ∨
        ∃ name, token = .function name)
    (hStops : continues level rest = false)
    (n : Nat)
    (hDepth : bound + 2 ≤ n) :
    XPath.path n (token :: tokens) = some (e, rest) := by
  obtain ⟨n, rfl⟩ : ∃ m, n = m + 2 := ⟨n - 2, by omega⟩
  have hPath :
      XPath.path (n + 2) (token :: tokens) =
        match primary (n + 1) (token :: tokens) with
        | some (start, rest) =>
          match conditions (n + 1) rest with
          | some (found, rest) =>
            moreSteps (n + 1) (found.foldl .filter start) rest
          | none => none
        | none => none := by
    rcases hToken with ⟨text, rfl⟩ | ⟨name, rfl⟩
    · rfl
    · rfl
  rw [hPath, hPrimary (n + 1) (by omega)]
  simp only [conditions_of_stop hStops, List.foldl_nil]
  exact moreSteps_of_stop hStops n e

/- The attribute of a name. -/
def attributeOf (name : String) : Expr :=
  .step .context "attribute" (.name name) []

/- The name of an attribute is the only step of its path. -/
theorem path_of_attribute
    (name : String)
    (hStops : continues level rest = false)
    (n : Nat)
    (hDepth : 3 ≤ n) :
    XPath.path n (.mark .at :: .test name :: rest) =
      some (attributeOf name, rest) := by
  obtain ⟨n, rfl⟩ : ∃ m, n = m + 3 := ⟨n - 3, by omega⟩
  have hPath :
      XPath.path (n + 3) (.mark .at :: .test name :: rest) =
        match conditions (n + 1) rest with
        | some (found, rest) =>
          moreSteps (n + 1)
            (.step .context "attribute" (.name name) found) rest
        | none => none := rfl
  rw [hPath, conditions_of_stop hStops]
  exact moreSteps_of_stop hStops n _

/- All elements of a name below the context that meet a condition. -/
def elementsBelow
    (name : String)
    (condition : Expr) : Expr :=
  .step
    (.descend (.step .context "self" (.kind "node") []))
    "child" (.name name) [condition]

/- The tokens of such a path. -/
theorem Reads.elementsBelow
    {condition : Expr}
    (name : String)
    (hCondition :
      Reads bound 0 tokens condition [.mark .closeBracket]) :
    Reads (bound + 16) 0
      (.mark .dot :: .operator .slashes :: .test name ::
        .mark .openBracket :: tokens)
      (elementsBelow name condition) [] := by
  refine @of_path 0 (bound + 6) _ [] _ ?_ rfl (by decide)
  intro n hDepth
  obtain ⟨n, rfl⟩ : ∃ m, n = m + 6 := ⟨n - 6, by omega⟩
  have hConditions :
      conditions (n + 2) (.mark .openBracket :: tokens) =
        some ([condition], []) := by
    simp only [conditions, hCondition (n + 1) (by omega)]
  have hPath :
      path (n + 6)
          (.mark .dot :: .operator .slashes :: .test name ::
            .mark .openBracket :: tokens) =
        match conditions (n + 2) (.mark .openBracket :: tokens) with
        | some (found, rest) =>
          moreSteps (n + 2)
            (.step
              (.descend (.step .context "self" (.kind "node") []))
              "child" (.name name) found) rest
        | none => none := rfl
  rw [hPath, hConditions]
  rfl

end Ending

------------------------------------------------------------
-- Values
------------------------------------------------------------

/- A text, a truth, or the values of some attributes. -/
inductive Value where
  | text (text : Text)
  | truth (holds : Bool)
  | attributes (values : List Text)
  deriving DecidableEq, Repr

namespace Value

/- A value as a text; of several attributes the first counts. -/
def asText : Value → Text
  | text s => s
  | truth holds => if holds then "true" else "false"
  | attributes values => values.head?.getD []

/- A value as a truth. -/
def asTruth : Value → Bool
  | text s => !s.isEmpty
  | truth holds => holds
  | attributes values => !values.isEmpty

/- Are two values equal?  It is enough that some attribute is. -/
def equals : Value → Value → Bool
  | truth a, other => a == other.asTruth
  | other, truth b => other.asTruth == b
  | text s, text t => s == t
  | attributes values, text t => values.contains t
  | text s, attributes values => values.contains s
  | attributes values, attributes others =>
    values.any others.contains

end Value

mutual

/-
  What an expression is worth at an element with some
  attributes, where it looks at nothing but these.
-/
def Expr.value?
    (attributes : List (String × Text)) :
    Expr → Option Value
  | .literal text => some (.text text)
  | .step .context "attribute" (.name name) [] =>
    some (.attributes (attributes.lookup name).toList)
  | .call "concat" arguments =>
    if 2 ≤ arguments.length then
      (Expr.texts? attributes arguments).map fun texts =>
        .text texts.flatten
    else none
  | .binary .equal left right => do
    return .truth
      ((← left.value? attributes).equals (← right.value? attributes))
  | .binary .and left right => do
    return .truth
      ((← left.value? attributes).asTruth &&
        (← right.value? attributes).asTruth)
  | .binary .or left right => do
    return .truth
      ((← left.value? attributes).asTruth ||
        (← right.value? attributes).asTruth)
  | _ => none

/- The values of arguments as texts. -/
def Expr.texts?
    (attributes : List (String × Text)) :
    List Expr → Option (List Text)
  | [] => some []
  | argument :: rest => do
    return (← argument.value? attributes).asText ::
      (← Expr.texts? attributes rest)

end

end XPath

end Replay
