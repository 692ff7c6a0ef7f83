import Replay.Yaml.Scalar.Block
import Replay.Yaml.Scalar.Plain
import Replay.Yaml.Scalar.Quoted
import Replay.Yaml.Token.Directive

/-
  This file defines the division of YAML texts into tokens.

  Key definitions include:
    * `PendingKey`
    * `Lexer`
    * `Lexer.step`
    * `Token.ofText`

  What a colon follows is the key of an entry.  The colon is
  found after the key, so that the token for a key is put in
  before tokens that were found earlier.
-/

------------------------------------------------------------
-- States
------------------------------------------------------------

namespace Replay

namespace Yaml

/-
  A place where a key may have begun: how many tokens came
  before, whether a key must be there, and where it is.
-/
structure PendingKey where
  level : Nat
  count : Nat
  required : Bool
  index : Nat
  line : Nat
  column : Nat
  deriving Repr

/-
  What is known at a place: the tokens before it, how many
  brackets are open, the indentation of the block there and
  of those around it, whether a key may begin, and where one
  may have begun.  Outside all blocks the indentation is -1.
-/
structure Lexer where
  cursor : Cursor
  tokens : Array Token
  level : Nat
  indent : Int
  outer : List Int
  mayBeKey : Bool
  pending : List PendingKey
  deriving Repr

namespace Lexer

/- What is known at the start of a text. -/
def start (text : List Char) : Lexer :=
  ⟨.start text, #[], 0, -1, [], true, []⟩

/- Is the place outside all brackets? -/
def inBlock (s : Lexer) : Bool :=
  s.level == 0

/- The column, as an indentation. -/
def column (s : Lexer) : Int :=
  s.cursor.column

/- Add a token. -/
def push
    (s : Lexer)
    (token : Token) : Lexer :=
  { s with tokens := s.tokens.push token }

/- Put a token in after some others. -/
def insert
    (s : Lexer)
    (count : Nat)
    (token : Token) : Lexer :=
  let before := s.tokens.extract 0 count
  let after := s.tokens.extract count s.tokens.size
  { s with tokens := before.push token ++ after }

/- Add a token that has some characters. -/
def shift
    (s : Lexer)
    (width : Nat)
    (token : Token) : Lexer :=
  { s with cursor := s.cursor.skip width }.push token

------------------------------------------------------------
-- Keys
------------------------------------------------------------

/- Can a key that began there still end here? -/
def PendingKey.isLive
    (key : PendingKey)
    (c : Cursor) : Bool :=
  key.line == c.line && c.index - key.index ≤ 1024

/- Keep some pending keys.  None that is required may go. -/
def keepPending
    (s : Lexer)
    (p : PendingKey → Bool) : Except Refusal Lexer :=
  if s.pending.any fun key => key.required && !p key then
    .error .malformed
  else
    .ok { s with pending := s.pending.filter p }

/- Forget the keys that cannot end here. -/
def forgetStale (s : Lexer) : Except Refusal Lexer :=
  s.keepPending (PendingKey.isLive · s.cursor)

/- Forget the key within the innermost brackets. -/
def forgetKey (s : Lexer) : Except Refusal Lexer :=
  s.keepPending (·.level != s.level)

/- A key may begin here, if keys may. -/
def noteKey (s : Lexer) : Except Refusal Lexer := do
  if s.mayBeKey then
    let s ← s.forgetKey
    let key : PendingKey :=
      { level := s.level
        count := s.tokens.size
        required := s.inBlock && s.indent == s.column
        index := s.cursor.index
        line := s.cursor.line
        column := s.cursor.column }
    return { s with pending := key :: s.pending }
  else
    return s

------------------------------------------------------------
-- Blocks
------------------------------------------------------------

/- End blocks, innermost first, up to a column. -/
def endBlocks
    (column indent : Int)
    (tokens : Array Token) :
    List Int → Int × List Int × Array Token
  | [] => (indent, [], tokens)
  | next :: outer =>
    if column < indent then
      endBlocks column next (tokens.push .blockEnd) outer
    else
      (indent, next :: outer, tokens)

/- End the blocks that are indented further than a column. -/
def unwind
    (s : Lexer)
    (column : Int) : Lexer :=
  if s.inBlock then
    let (indent, outer, tokens) :=
      endBlocks column s.indent s.tokens s.outer
    { s with indent, outer, tokens }
  else
    s

/- Start a block at a column, if none is there. -/
def startBlock
    (s : Lexer)
    (kind : Bracket)
    (column : Int)
    (count : Nat) : Lexer :=
  if s.inBlock && s.indent < column then
    let s := s.insert count (.blockStart kind)
    { s with indent := column, outer := s.indent :: s.outer }
  else
    s

------------------------------------------------------------
-- Tokens of Documents
------------------------------------------------------------

/- The place where the next token begins. -/
def skipGap :
    Nat → Lexer → Lexer
  | 0, s => s
  | fuel + 1, s =>
    match s.cursor.skipSpaces.skipComment.lineBreak with
    | ([], cursor) => { s with cursor }
    | (_, cursor) =>
      skipGap fuel
        { s with cursor, mayBeKey := s.mayBeKey || s.inBlock }

/- Skip a byte order mark that a text starts with. -/
def skipMark (s : Lexer) : Lexer :=
  if s.cursor.index = 0 ∧ s.cursor.peek = '\uFEFF' then
    { s with cursor := s.cursor.next }
  else
    s

/- End all blocks.  No key may begin or go on. -/
def leaveBlocks (s : Lexer) : Except Refusal Lexer := do
  let s ← (s.unwind (-1)).forgetKey
  return { s with mayBeKey := false }

/- A directive. -/
def directive (s : Lexer) : Except Refusal Lexer := do
  let s ← s.leaveBlocks
  let (token, cursor) ← readDirective s.cursor
  return { s with cursor }.push token

/- The start or the end of a document. -/
def boundary
    (s : Lexer)
    (token : Token) : Except Refusal Lexer := do
  let s ← s.leaveBlocks
  return s.shift 3 token

------------------------------------------------------------
-- Tokens of Collections
------------------------------------------------------------

/- An opening bracket. -/
def openBracket
    (s : Lexer)
    (kind : Bracket) : Except Refusal Lexer := do
  let s ← s.noteKey
  return { s with level := s.level + 1, mayBeKey := true }.shift 1
    (.flowStart kind)

/- A closing bracket, if one is open. -/
def closeBracket
    (s : Lexer)
    (kind : Bracket) : Except Refusal Lexer := do
  let s ← s.forgetKey
  if s.inBlock then throw .malformed
  return { s with level := s.level - 1, mayBeKey := false }.shift 1
    (.flowEnd kind)

/- A comma between brackets. -/
def flowEntry (s : Lexer) : Except Refusal Lexer := do
  let s ← { s with mayBeKey := true }.forgetKey
  return s.shift 1 .flowEntry

/- The dash of an item. -/
def blockEntry (s : Lexer) : Except Refusal Lexer := do
  if s.inBlock && !s.mayBeKey then throw .malformed
  let s := s.startBlock .sequence s.column s.tokens.size
  let s ← { s with mayBeKey := true }.forgetKey
  return s.shift 1 .blockEntry

/- The mark of a key. -/
def key (s : Lexer) : Except Refusal Lexer := do
  if s.inBlock && !s.mayBeKey then throw .malformed
  let s := s.startBlock .mapping s.column s.tokens.size
  let s ← { s with mayBeKey := s.inBlock }.forgetKey
  return s.shift 1 .key

/- The colon of a value, whose key may have been found. -/
def value (s : Lexer) : Except Refusal Lexer := do
  match s.pending.find? (·.level == s.level) with
  | some key =>
    let pending := s.pending.filter (·.level != s.level)
    let s := { s with pending, mayBeKey := false }
    let s := s.insert key.count .key
    return (s.startBlock .mapping key.column key.count).shift 1
      .value
  | none =>
    if s.inBlock && !s.mayBeKey then throw .malformed
    let s := s.startBlock .mapping s.column s.tokens.size
    let s ← { s with mayBeKey := s.inBlock }.forgetKey
    return s.shift 1 .value

------------------------------------------------------------
-- Tokens of Nodes
------------------------------------------------------------

/- An alias or an anchor. -/
def name
    (s : Lexer)
    (token : String → Token) : Except Refusal Lexer := do
  let s ← s.noteKey
  let (name, cursor) ← readName s.cursor.next
  return { s with cursor, mayBeKey := false }.push (token name)

/- A tag. -/
def tag (s : Lexer) : Except Refusal Lexer := do
  let s ← s.noteKey
  let (handle, suffix, cursor) ← readTag s.cursor
  return { s with cursor, mayBeKey := false }.push
    (.tag handle suffix)

/- A block scalar. -/
def block
    (s : Lexer)
    (folded : Bool) : Except Refusal Lexer := do
  let s ← { s with mayBeKey := true }.forgetKey
  let (text, cursor) ← readBlock folded s.indent s.cursor
  return { s with cursor }.push (.scalar (text.map .char) false)

/- A quoted scalar. -/
def quoted (s : Lexer) : Except Refusal Lexer := do
  let s ← s.noteKey
  let (text, cursor) ← readQuoted s.cursor
  return { s with cursor, mayBeKey := false }.push
    (.scalar text false)

/- A plain scalar.  After a line break a key may begin. -/
def plain (s : Lexer) : Except Refusal Lexer := do
  let s ← s.noteKey
  let (text, broken, cursor) :=
    readPlain (!s.inBlock) s.indent s.cursor
  return { s with cursor, mayBeKey := broken }.push
    (.scalar (text.map .char) true)

/- The token that begins with a character. -/
def token
    (s : Lexer)
    (ch : Char) : Except Refusal Lexer :=
  let lone := isGap (s.cursor.peekAt 1)
  if ch = '%' ∧ s.cursor.column = 0 then s.directive
  else if ch = '-' ∧ s.cursor.column = 0 ∧ s.cursor.atMark '-' then
    s.boundary .documentStart
  else if ch = '.' ∧ s.cursor.column = 0 ∧ s.cursor.atMark '.' then
    s.boundary .documentEnd
  else if ch = '[' then s.openBracket .sequence
  else if ch = '\x7b' then s.openBracket .mapping
  else if ch = ']' then s.closeBracket .sequence
  else if ch = '\x7d' then s.closeBracket .mapping
  else if ch = ',' then s.flowEntry
  else if ch = '-' ∧ lone then s.blockEntry
  else if ch = '?' ∧ (lone ∨ !s.inBlock) then s.key
  else if ch = ':' ∧ (lone ∨ !s.inBlock) then s.value
  else if ch = '*' then s.name .alias
  else if ch = '&' then s.name .anchor
  else if ch = '!' then s.tag
  else if ch = '|' ∧ s.inBlock then s.block false
  else if ch = '>' ∧ s.inBlock then s.block true
  else if ch = '\'' ∨ ch = '"' then s.quoted
  else if startsPlain (!s.inBlock) s.cursor then s.plain
  else .error .malformed

------------------------------------------------------------
-- Texts
------------------------------------------------------------

/-
  What is known after one more token.  At the end of the text
  all blocks end, and no further token is there.
-/
def step (s : Lexer) : Except Refusal (Lexer × Bool) := do
  let s := s.skipMark
  let s ← (skipGap (s.cursor.rest.length + 1) s).forgetStale
  let s := s.unwind s.column
  if s.cursor.peek = ending then
    return (← s.leaveBlocks, true)
  else
    return (← s.token s.cursor.peek, false)

/-
  All tokens from a place on, and why there are no more, if
  that is not the end.  The fuel bounds their number.
-/
def run :
    Nat → Lexer → Array Token × Option Refusal
  | 0, s => (s.tokens, some .malformed)
  | fuel + 1, s =>
    match s.step with
    | .error refusal => (s.tokens, some refusal)
    | .ok (s, true) => (s.tokens, none)
    | .ok (s, false) => run fuel s

end Lexer

/-
  The tokens of a text, and why there are no more, if that is
  not its end.
-/
def Token.ofText
    (text : String) : List Token × Option Refusal :=
  let chars := text.toList
  if chars.all isAllowed then
    let (tokens, refusal) :=
      Lexer.run (chars.length + 1) (.start chars)
    (tokens.toList, refusal)
  else
    ([], some .malformed)

end Yaml

end Replay
