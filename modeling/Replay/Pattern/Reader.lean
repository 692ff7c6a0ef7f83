import Replay.Pattern.Syntax
import Replay.Text.CharacterName
import Replay.Text.Identifier

/-
  This file defines the reading of regular expressions.

  Key definitions include:
    * `Token`
    * `tokenize`
    * `ReaderState`
    * `readSequence`
    * `readChoice`
    * `readExpression`

  An expression is cut into tokens first: single code points,
  and backslashes with the code point after them.  A backslash
  at the very end is refused as soon as it is the next token.
-/

------------------------------------------------------------
-- Tokens
------------------------------------------------------------

namespace Replay

namespace Pattern

open Number Text

/-
  A character, one after a backslash, half of a surrogate
  pair after a backslash or not, or a last backslash.
-/
inductive Token where
  | plain (c : Char)
  | escaped (c : Char)
  | half (isEscaped : Bool) (place : Fin 2048)
  | dangling
  deriving DecidableEq, Repr

namespace Token

/- The text of a token. -/
def text : Token → Text
  | plain c => [.char c]
  | escaped c => [.char '\\', .char c]
  | half false place => [.half place]
  | half true place => [.char '\\', .half place]
  | dangling => [.char '\\']

end Token

/- The tokens of an expression. -/
def tokenize : Text → List Token
  | [] => []
  | [.char '\\'] => [.dangling]
  | .char '\\' :: .char c :: rest => .escaped c :: tokenize rest
  | .char '\\' :: .half place :: rest =>
    .half true place :: tokenize rest
  | .char c :: rest => .plain c :: tokenize rest
  | .half place :: rest => .half false place :: tokenize rest

------------------------------------------------------------
-- Reader State
------------------------------------------------------------

/-
  What is known while an expression is read: the tokens left
  and the position of the first of them, the switches of the
  whole expression, the groups by name, the widths of the
  groups that are closed, the first group inside of the
  outermost look-behind, and the groups that were asked for
  by number with the position of the first question.
-/
structure ReaderState where
  tokens : List Token
  position : Nat
  flags : Flags
  names : List (Text × Nat)
  widths : Array (Option Width)
  behindFrom : Option Nat
  asked : List (Nat × Nat)

/- A step of reading. -/
abbrev Reading (α : Type) :=
  StateT ReaderState (Except Refusal) α

namespace Reading

/- Refuse the expression at a number of characters back. -/
def refuse
    {α : Type}
    (cause : Cause)
    (back : Nat) : Reading α := do
  let s ← get
  throw (.malformed cause (some (s.position - back)))

/- Refuse the expression at a position. -/
def refuseAt
    {α : Type}
    (cause : Cause)
    (position : Nat) : Reading α :=
  throw (.malformed cause (some position))

/- The next token. -/
def peek : Reading (Option Token) := do
  return (← get).tokens.head?

/- The position of the next token. -/
def position : Reading Nat := do
  return (← get).position

/- Refuse a backslash that is the next and last token. -/
def checkNext : Reading Unit := do
  let s ← get
  match s.tokens with
  | .dangling :: _ => refuse .trailingBackslash 0
  | _ => return ()

/- Take the next token. -/
def next : Reading (Option Token) := do
  let s ← get
  match s.tokens with
  | [] => return none
  | token :: rest =>
    set { s with
      tokens := rest
      position := s.position + token.text.length }
    checkNext
    return some token

/- Take the next token if it is the given character. -/
def accept (c : Char) : Reading Bool := do
  if (← peek) = some (.plain c) then
    let _ ← next
    return true
  else
    return false

/- Take up to `count` characters that satisfy `p`. -/
def takeUpTo
    (p : Char → Bool) :
    Nat → Reading (List Char)
  | 0 => return []
  | count + 1 => do
    match ← peek with
    | some (.plain c) =>
      if p c then
        let _ ← next
        return c :: (← takeUpTo p count)
      else
        return []
    | _ => return []

/- The number of tokens left bounds every loop over them. -/
def tokensLeft : Reading Nat := do
  return (← get).tokens.length

/- Take all characters that satisfy `p`. -/
def takeAll (p : Char → Bool) : Reading (List Char) := do
  takeUpTo p (← tokensLeft)

/-
  Take the code points of a name up to its closing mark.  The
  fuel bounds the number of tokens.
-/
def takeName
    (mark : Char)
    (kind : String)
    (taken : Text) :
    Nat → Reading Text
  | 0 => refuse (.missingName kind) 0
  | fuel + 1 => do
    match ← next with
    | none =>
      if taken.isEmpty then
        refuse (.missingName kind) 0
      else
        refuse (.unterminatedName (String.singleton mark))
          taken.length
    | some token =>
      if token = .plain mark then
        if taken.isEmpty then
          refuse (.missingName kind) 1
        else
          return taken
      else
        takeName mark kind (taken ++ token.text) fuel

/- A name up to its closing mark. -/
def nameUntil
    (mark : Char)
    (kind : String) : Reading Text := do
  takeName mark kind [] ((← tokensLeft) + 1)

------------------------------------------------------------
-- Groups
------------------------------------------------------------

/- Is the group of an index closed? -/
def isClosed (index : Nat) : Reading Bool := do
  return ((← get).widths.getD index none).isSome

/- Refuse a name that is no identifier. -/
def checkGroupName (name : Text) : Reading Unit := do
  unless isIdentifier name do
    refuse (.badGroupName name) (name.length + 1)

/- Refuse groups of the same look-behind, and open ones. -/
def checkBehind (index : Nat) : Reading Unit := do
  match (← get).behindFrom with
  | none => return ()
  | some first =>
    unless ← isClosed index do
      refuse .openGroup 0
    if first ≤ index then
      refuse .lookbehindGroup 0

/- The group of a name, which must exist. -/
def groupNamed (name : Text) : Reading Nat := do
  match (← get).names.lookup name with
  | some index => return index
  | none => refuse (.unknownGroup name) (name.length + 1)

/- Open the next group, under a name if it has one. -/
def openGroup (name : Option Text) : Reading Nat := do
  let s ← get
  let index := s.widths.size
  let widths := s.widths.push none
  match name with
  | none =>
    set { s with widths := widths }
    return index
  | some name =>
    match s.names.lookup name with
    | some before =>
      refuse (.redefinedGroup name index before) (name.length + 1)
    | none =>
      set { s with
        widths := widths
        names := (name, index) :: s.names }
      return index

/- The width of a closed group. -/
def widthOf
    (widths : Array (Option Width))
    (index : Nat) : Width :=
  (widths.getD index none).getD ⟨0, 0⟩

/- Close a group with its parts. -/
def closeGroup
    (index : Nat)
    (body : List Node) : Reading Unit :=
  modify fun s =>
    { s with
      widths := s.widths.setIfInBounds index
        (some (Node.widthOfSequence (widthOf s.widths) body)) }

------------------------------------------------------------
-- Escapes
------------------------------------------------------------

/- A digit from 0 to 7. -/
def isOctal (c : Char) : Bool :=
  '0' ≤ c && c ≤ '7'

/- A hexadecimal digit of either case. -/
def isHex (c : Char) : Bool :=
  (hexValue? c).isSome

/- The value of a row of digits to a base. -/
def valueOf
    (base : Nat)
    (digits : List Char) : Nat :=
  digits.foldl
    (fun value c => base * value + (hexValue? c).getD 0) 0

/- A letter from A to Z, of either case. -/
def isLetter (c : Char) : Bool :=
  c.isAlpha

/- Refuse an escape with the characters taken for it. -/
def badEscape
    {α : Type}
    (cause : String → Cause)
    (escape : List Char) : Reading α :=
  refuse (cause (String.ofList escape)) escape.length

/- No number of a character is looked at from this one on. -/
def codeLimit : Nat := 2147483648

/- The code of an escape with a fixed number of digits. -/
def hexEscape
    (letter : Char)
    (count : Nat) : Reading Nat := do
  let digits ← takeUpTo isHex count
  let escape := '\\' :: letter :: digits
  if digits.length < count then
    badEscape .incompleteEscape escape
  else
    let code := valueOf 16 digits
    if code < 0x110000 then return code
    else if code < codeLimit then badEscape .badEscape escape
    else throw .codeTooLarge

/-
  The code of an escape with the name of a character.  A name
  with half of a surrogate pair is not even looked up.
-/
def namedEscape : Reading Nat := do
  unless ← accept '\x7b' do
    refuse .missingBrace 0
  let name ← nameUntil '\x7d' "character name"
  match name.toString? with
  | none => badEscape .badEscape ['\\', 'N']
  | some string =>
    match characterNamed? string with
    | some code => return code
    | none =>
      refuse (.undefinedCharacter string) (name.length + 4)

/- The code of an escape with octal digits. -/
def octalEscape (digits : List Char) : Reading Nat := do
  let code := valueOf 8 digits
  if 0o377 < code then
    badEscape .octalTooLarge ('\\' :: digits)
  else
    return code

/- The characters of the escapes with one letter. -/
def letterEscape? : Char → Option Nat
  | 'a' => some 7
  | 'b' => some 8
  | 'f' => some 12
  | 'n' => some 10
  | 'r' => some 13
  | 't' => some 9
  | 'v' => some 11
  | '\\' => some 92
  | _ => none

/- The classes of the escapes with one letter. -/
def categoryEscape? : Char → Option SetItem
  | 'd' => some (.category false .digit)
  | 'D' => some (.category true .digit)
  | 's' => some (.category false .space)
  | 'S' => some (.category true .space)
  | 'w' => some (.category false .word)
  | 'W' => some (.category true .word)
  | _ => none

/- The positions of the escapes with one letter. -/
def anchorEscape? : Char → Option Anchor
  | 'A' => some .textStart
  | 'b' => some .boundary
  | 'B' => some .noBoundary
  | 'Z' => some .textFinish
  | _ => none

/- An escape that stands for one character anywhere. -/
def commonEscape? (c : Char) : Option (Reading Nat) :=
  match c with
  | 'x' => some (hexEscape 'x' 2)
  | 'u' => some (hexEscape 'u' 4)
  | 'U' => some (hexEscape 'U' 8)
  | 'N' => some namedEscape
  | _ => none

/- An escape without a meaning of its own. -/
def otherEscape (c : Char) : Reading Nat :=
  if isLetter c || c.isDigit then
    badEscape .badEscape ['\\', c]
  else
    return c.toNat

/- An escape inside of a set. -/
def setEscape (c : Char) : Reading SetItem := do
  match letterEscape? c, categoryEscape? c, commonEscape? c with
  | some code, _, _ => return .single code
  | _, some item, _ => return item
  | _, _, some reading => return .single (← reading)
  | _, _, _ =>
    if isOctal c then
      let digits ← takeUpTo isOctal 2
      return .single (← octalEscape (c :: digits))
    else
      return .single (← otherEscape c)

/- A reference to a group by one or two digits. -/
def referenceEscape (digits : List Char) : Reading Node := do
  let index := digitsValue digits
  let escape := '\\' :: digits
  if index < (← get).widths.size then
    unless ← isClosed index do
      refuse .openGroup escape.length
    checkBehind index
    return .reference index
  else
    refuse (.invalidReference index) digits.length

/-
  An escape of digits outside of a set: three octal digits
  are a character, one or two digits refer to a group.
-/
def digitEscape (first : Char) : Reading Node := do
  match ← peek with
  | some (.plain second) =>
    if second.isDigit then
      let _ ← next
      let digits := [first, second]
      match ← peek with
      | some (.plain third) =>
        if digits.all isOctal && isOctal third then
          let _ ← next
          return .literal (← octalEscape (digits ++ [third]))
        else
          referenceEscape digits
      | _ => referenceEscape digits
    else
      referenceEscape [first]
  | _ => referenceEscape [first]

/- An escape outside of a set. -/
def partEscape (c : Char) : Reading Node := do
  match anchorEscape? c, categoryEscape? c, letterEscape? c,
    commonEscape? c with
  | some a, _, _, _ => return .anchor a
  | _, some item, _, _ => return .oneOf false [item]
  | _, _, some code, _ => return .literal code
  | _, _, _, some reading => return .literal (← reading)
  | _, _, _, _ =>
    if c = '0' then
      let digits ← takeUpTo isOctal 2
      return .literal (valueOf 8 digits)
    else if c.isDigit then
      digitEscape c
    else
      return .literal (← otherEscape c)

------------------------------------------------------------
-- Sets
------------------------------------------------------------

/- The item of a token inside of a set. -/
def setItem (token : Token) : Reading SetItem :=
  match token with
  | .escaped c => setEscape c
  | .plain c => return .single c.toNat
  | .half _ place => return .single (CodePoint.half place).code
  | .dangling => return .single '\\'.toNat

/- The range between two items, which must be characters. -/
def rangeItem
    (first last : Token)
    (low high : SetItem) : Reading SetItem :=
  let bad : Reading SetItem :=
    refuse (.badRange first.text last.text)
      (first.text.length + 1 + last.text.length)
  match low, high with
  | .single a, .single b =>
    if b < a then bad else return .range a b
  | _, _ => bad

/-
  The items of a set up to its closing bracket, after those
  taken before.  `here` is the position of the opening one.
-/
def setItems
    (here : Nat)
    (items : List SetItem) :
    Nat → Reading (List SetItem)
  | 0 => refuseAt .unterminatedSet here
  | fuel + 1 => do
    match ← next with
    | none => refuseAt .unterminatedSet here
    | some token =>
      if token = .plain ']' && !items.isEmpty then
        return items
      else
        let item ← setItem token
        if ← accept '-' then
          match ← next with
          | none => refuseAt .unterminatedSet here
          | some last =>
            if last = .plain ']' then
              return items ++ [item, .single '-'.toNat]
            else
              let range ← rangeItem token last item (← setItem last)
              setItems here (items ++ [range]) fuel
        else
          setItems here (items ++ [item]) fuel

/- A set after its opening bracket. -/
def readSet : Reading Node := do
  let here := (← position) - 1
  let negated ← accept '^'
  let items ← setItems here [] ((← tokensLeft) + 1)
  match items.eraseDups, negated with
  | [.single code], true => return .notLiteral code
  | [.single code], false => return .literal code
  | items, negated => return .oneOf negated items

------------------------------------------------------------
-- Repetitions
------------------------------------------------------------

/- No count of rounds reaches this one. -/
def roundLimit : Nat := 4294967295

/- A count of rounds from its digits. -/
def roundCount (digits : List Char) : Reading Nat :=
  if digitLimit < digits.length then
    throw (.tooManyDigits digits.length)
  else if roundLimit ≤ digitsValue digits then
    throw .roundsTooLarge
  else
    return digitsValue digits

/-
  The bounds of a repetition after its opening brace, or none
  where the brace is an ordinary character.
-/
def readBounds : Reading (Option (Nat × Option Nat)) := do
  if (← peek) = some (.plain '\x7d') then
    return none
  let saved ← get
  let low ← takeAll Char.isDigit
  let high ←
    if ← accept ',' then takeAll Char.isDigit else pure low
  if ← accept '\x7d' then
    let least ← if low.isEmpty then pure 0 else roundCount low
    if high.isEmpty then
      return some (least, none)
    else
      let most ← roundCount high
      if most < least then
        refuseAt .repeatOrder saved.position
      return some (least, some most)
  else
    set saved
    return none

/- The bounds of a repetition mark, or none without one. -/
def boundsOf (mark : Char) :
    Reading (Option (Nat × Option Nat)) :=
  match mark with
  | '?' => return some (0, some 1)
  | '*' => return some (0, none)
  | '+' => return some (1, none)
  | _ => readBounds

/- The mark after a repetition says how it chooses. -/
def readGreed : Reading Greed := do
  if ← accept '?' then return .lazy
  else if ← accept '+' then return .possessive
  else return .greedy

/-
  The parts read so far, last first, with the last of them
  repeated.  `here` is the position of the repetition mark.
-/
def repeatLast
    (here : Nat)
    (parts : List Node)
    (least : Nat)
    (most : Option Nat) : Reading (List Node) := do
  match parts with
  | [] => refuseAt .nothingToRepeat here
  | .anchor _ :: _ => refuseAt .nothingToRepeat here
  | .repeated _ _ _ _ :: _ => refuseAt .multipleRepeat here
  | last :: before =>
    let body :=
      match last with
      | .group none added removed body =>
        if added.isEmpty && removed.isEmpty then body else [last]
      | _ => [last]
    let greed ← readGreed
    return .repeated greed least most body :: before

------------------------------------------------------------
-- Flags
------------------------------------------------------------

/- The switch of a token. -/
def flagOf? : Token → Option Flags
  | .plain c => Flags.ofLetter? c
  | _ => none

/- Does a token that is no flag look like one? -/
def looksLikeFlag : Token → Bool
  | .plain c => isAlphabetic c
  | _ => false

/- Refuse a token that is no flag. -/
def refuseFlag
    {α : Type}
    (token : Token)
    (other : Cause) : Reading α :=
  refuse (if looksLikeFlag token then .unknownFlag else other)
    token.text.length

/-
  The flags that are turned on, from the first of them, and
  the token that ends them.  The fuel bounds the tokens.
-/
def flagsOn
    (added : Flags) :
    Nat → Token → Reading (Flags × Token)
  | 0, _ => refuse .missingFlagEnd 0
  | fuel + 1, token => do
    if token = .plain 'L' then
      refuse .localeFlag 0
    match flagOf? token with
    | none => refuseFlag token .missingFlagEnd
    | some flag =>
      let added := added.union flag
      let chosen := flag.meet Flags.alphabet
      if !chosen.isEmpty &&
          added.meet Flags.alphabet != chosen then
        refuse .alphabetFlags 0
      match ← next with
      | none => refuse .missingFlagEnd 0
      | some token =>
        if token = .plain ')' || token = .plain '-' ||
            token = .plain ':' then
          return (added, token)
        else if (flagOf? token).isSome || token = .plain 'L' then
          flagsOn added fuel token
        else
          refuseFlag token .missingFlagEnd

/- The flags that are turned off, from the first of them. -/
def flagsOff
    (removed : Flags) :
    Nat → Token → Reading Flags
  | 0, _ => refuse .missingColon 0
  | fuel + 1, token => do
    if token = .plain 'L' then
      refuse .alphabetFlagOff 0
    match flagOf? token with
    | none => refuseFlag token .missingColon
    | some flag =>
      if !(flag.meet Flags.alphabet).isEmpty then
        refuse .alphabetFlagOff 0
      let removed := removed.union flag
      match ← next with
      | none => refuse .missingColon 0
      | some token =>
        if token = .plain ':' then
          return removed
        else if (flagOf? token).isSome || token = .plain 'L' then
          flagsOff removed fuel token
        else
          refuseFlag token .missingColon

/-
  Flags from their first token: those turned on and off for a
  group, or none where they are turned on for the whole
  expression.
-/
def readFlags
    (first : Token) : Reading (Option (Flags × Flags)) := do
  let fuel := (← tokensLeft) + 1
  let (added, mark) ←
    if first = .plain '-' then
      pure (({} : Flags), first)
    else
      flagsOn {} fuel first
  if mark = .plain ')' then
    modify fun s => { s with flags := s.flags.union added }
    return none
  if added.template then
    refuse .globalFlagOn 1
  let removed ←
    if mark = .plain '-' then
      match ← next with
      | none => refuse .missingFlag 0
      | some token =>
        if (flagOf? token).isSome || token = .plain 'L' then
          flagsOff {} fuel token
        else
          refuseFlag token .missingFlag
    else
      pure {}
  if removed.template then
    refuse .globalFlagOff 1
  unless (added.meet removed).isEmpty do
    refuse .flagOnAndOff 1
  return some (added, removed)

------------------------------------------------------------
-- Comments
------------------------------------------------------------

/- Skip a comment up to the end of its line. -/
def skipLine : Nat → Reading Unit
  | 0 => return ()
  | fuel + 1 => do
    match ← next with
    | none => return ()
    | some token =>
      if token = .plain '\n' then return () else skipLine fuel

/- Skip a comment up to its closing parenthesis. -/
def skipComment
    (start : Nat) : Nat → Reading Unit
  | 0 => refuseAt .unterminatedComment start
  | fuel + 1 => do
    if (← peek).isNone then
      refuseAt .unterminatedComment start
    if (← next) = some (.plain ')') then return ()
    else skipComment start fuel

/- The white space that is skipped in verbose expressions. -/
def isVerboseSpace (c : Char) : Bool :=
  c == ' ' || (9 ≤ c.toNat && c.toNat ≤ 13)

------------------------------------------------------------
-- Alternatives
------------------------------------------------------------

/- The first part that all alternatives begin with. -/
def commonFirst? : List (List Node) → Option Node
  | (first :: _) :: rest =>
    if rest.all fun body =>
        match body with
        | node :: _ => node.sameAs first
        | [] => false then
      some first
    else
      none
  | _ => none

/- Move the parts that all alternatives begin with outside. -/
def factor : Nat → List (List Node) →
    List Node × List (List Node)
  | 0, bodies => ([], bodies)
  | fuel + 1, bodies =>
    match commonFirst? bodies with
    | none => ([], bodies)
    | some first =>
      let (moved, bodies) := factor fuel (bodies.map List.tail)
      (first :: moved, bodies)

/- The items of alternatives that are one character each. -/
def singleItems? : List (List Node) → Option (List SetItem)
  | [] => some []
  | [.literal code] :: rest =>
    (singleItems? rest).map (.single code :: ·)
  | [.oneOf false items] :: rest =>
    (singleItems? rest).map (items ++ ·)
  | _ => none

/- Alternatives as parts: a set if each is one character. -/
def joinAlternatives (bodies : List (List Node)) : List Node :=
  match bodies with
  | [body] => body
  | bodies =>
    let fuel := (bodies.headD []).length
    let (moved, bodies) := factor fuel bodies
    match singleItems? bodies with
    | some items => moved ++ [.oneOf false items.eraseDups]
    | none => moved ++ [.choice bodies]

/- Open the groups that only bracket their parts. -/
def unwrap (parts : List Node) : List Node :=
  parts.flatMap fun
    | .group none added removed body =>
      if added.isEmpty && removed.isEmpty then body
      else [.group none added removed body]
    | node => [node]

------------------------------------------------------------
-- Expressions
------------------------------------------------------------

/- What an opening parenthesis begins. -/
inductive Opening where
  | nothing
  | part (node : Node)
  | capture (name : Option Text)
  | plain (added removed : Flags)
  | atomic
  | look (behind negative : Bool)
  | conditional (index : Nat)

/- The group that a condition asks for. -/
def readCondition : Reading Nat := do
  let name ← nameUntil ')' "group name"
  let back := name.length + 1
  let index ←
    if isIdentifier name then
      groupNamed name
    else
      match readInteger name with
      | .error _ => refuse (.badGroupName name) back
      | .ok number =>
        if number < 0 then
          refuse (.badGroupName name) back
        else
          let index := number.toNat
          if index = 0 then
            refuse .badGroupNumber back
          else if 1073741823 ≤ index then
            refuse (.invalidReference index) back
          else
            let here := (← position) - back
            modify fun s =>
              if (s.asked.lookup index).isSome then s
              else { s with asked := s.asked ++ [(index, here)] }
            pure index
  checkBehind index
  return index

/- A group that is opened or referred to by name. -/
def readNamed : Reading Opening := do
  if ← accept '<' then
    let name ← nameUntil '>' "group name"
    checkGroupName name
    return .capture (some name)
  else if ← accept '=' then
    let name ← nameUntil ')' "group name"
    checkGroupName name
    let index ← groupNamed name
    unless ← isClosed index do
      refuse .openGroup (name.length + 1)
    checkBehind index
    return .part (.reference index)
  else
    match ← next with
    | none => refuse .endOfPattern 0
    | some token =>
      refuse (.unknownExtension (.char 'P' :: token.text))
        (token.text.length + 2)

/-
  What an opening parenthesis begins.  `start` is its
  position, `first` says whether flags for the whole
  expression may stand here.
-/
def readOpening
    (start : Nat)
    (first : Bool) : Reading Opening := do
  unless ← accept '?' do
    return .capture none
  match ← next with
  | none => refuse .endOfPattern 0
  | some (.plain 'P') => readNamed
  | some (.plain ':') => return .plain {} {}
  | some (.plain '#') =>
    skipComment start ((← tokensLeft) + 1)
    return .nothing
  | some (.plain '=') => return .look false false
  | some (.plain '!') => return .look false true
  | some (.plain '<') =>
    match ← next with
    | none => refuse .endOfPattern 0
    | some (.plain '=') => return .look true false
    | some (.plain '!') => return .look true true
    | some token =>
      refuse (.unknownExtension (.char '<' :: token.text))
        (token.text.length + 2)
  | some (.plain '(') => return .conditional (← readCondition)
  | some (.plain '>') => return .atomic
  | some token =>
    if (flagOf? token).isSome || token = .plain 'L' ||
        token = .plain '-' then
      match ← readFlags token with
      | some (added, removed) => return .plain added removed
      | none =>
        unless first do
          refuseAt .flagsNotAtStart start
        return .nothing
    else
      refuse (.unknownExtension token.text)
        (token.text.length + 1)

/- Take the closing parenthesis of a group. -/
def closeParenthesis (start : Nat) : Reading Unit := do
  unless ← accept ')' do
    refuseAt .unterminatedGroup start

mutual

/-
  Alternatives, as one sequence of parts.  `bodies` are those
  read before, last first.
-/
def readChoice
    (nested : Bool) :
    Nat → Bool → List (List Node) → Reading (List Node)
  | 0, _, _ => refuse .endOfPattern 0
  | fuel + 1, verbose, bodies => do
    let first := !nested && bodies.isEmpty
    let body ← readSequence nested first fuel verbose []
    let bodies := body :: bodies
    if ← accept '|' then
      let flags := (← get).flags
      let verbose := if nested then verbose else flags.verbose
      readChoice nested fuel verbose bodies
    else
      return joinAlternatives bodies.reverse

/- A sequence of parts; `parts` are those before, last first. -/
def readSequence
    (nested first : Bool) :
    Nat → Bool → List Node → Reading (List Node)
  | 0, _, _ => refuse .endOfPattern 0
  | fuel + 1, verbose, parts => do
    match ← peek with
    | none => return unwrap parts.reverse
    | some token =>
      if token = .plain '|' || token = .plain ')' then
        return unwrap parts.reverse
      else
        let here ← position
        let _ ← next
        match token with
        | .dangling => refuse .trailingBackslash 0
        | .half _ place =>
          readSequence nested first fuel verbose
            (.literal (CodePoint.half place).code :: parts)
        | .escaped c =>
          let node ← partEscape c
          readSequence nested first fuel verbose (node :: parts)
        | .plain c =>
          if verbose && isVerboseSpace c then
            readSequence nested first fuel verbose parts
          else if verbose && c = '#' then
            skipLine ((← tokensLeft) + 1)
            readSequence nested first fuel verbose parts
          else
            match c with
            | '[' =>
              let node ← readSet
              readSequence nested first fuel verbose
                (node :: parts)
            | '.' =>
              readSequence nested first fuel verbose
                (.anything :: parts)
            | '^' =>
              readSequence nested first fuel verbose
                (.anchor .start :: parts)
            | '$' =>
              readSequence nested first fuel verbose
                (.anchor .finish :: parts)
            | '(' =>
              let opening ←
                readOpening here (first && parts.isEmpty)
              match opening with
              | .nothing =>
                let flags := (← get).flags
                let isFlags := first && parts.isEmpty
                readSequence nested first fuel
                  (if isFlags then verbose || flags.verbose
                    else verbose)
                  parts
              | .part node =>
                readSequence nested first fuel verbose
                  (node :: parts)
              | opening =>
                let node ← readGroup here fuel verbose opening
                readSequence nested first fuel verbose
                  (node :: parts)
            | c =>
              if c = '*' || c = '+' || c = '?' || c = '\x7b' then
                match ← boundsOf c with
                | none =>
                  readSequence nested first fuel verbose
                    (.literal c.toNat :: parts)
                | some (least, most) =>
                  let parts ← repeatLast here parts least most
                  readSequence nested first fuel verbose parts
              else
                readSequence nested first fuel verbose
                  (.literal c.toNat :: parts)

/- The rest of a group after its opening. -/
def readGroup
    (start : Nat) :
    Nat → Bool → Opening → Reading Node
  | 0, _, _ => refuse .endOfPattern 0
  | fuel + 1, verbose, opening => do
    match opening with
    | .look behind negative =>
      let outer := (← get).behindFrom
      if behind && outer.isNone then
        modify fun s =>
          { s with behindFrom := some s.widths.size }
      let body ← readChoice true fuel verbose []
      if behind && outer.isNone then
        modify fun s => { s with behindFrom := none }
      closeParenthesis start
      return .look behind negative body
    | .conditional index =>
      let yes ← readSequence true false fuel verbose []
      if ← accept '|' then
        let no ← readSequence true false fuel verbose []
        if (← peek) = some (.plain '|') then
          refuse .tooManyBranches 0
        closeParenthesis start
        return .conditional index yes (some no)
      else
        closeParenthesis start
        return .conditional index yes none
    | .atomic =>
      let body ← readChoice true fuel verbose []
      closeParenthesis start
      return .atomic body
    | .plain added removed =>
      let verbose :=
        (verbose || added.verbose) && !removed.verbose
      let body ← readChoice true fuel verbose []
      closeParenthesis start
      return .group none added removed body
    | .capture name =>
      let index ← openGroup name
      let body ← readChoice true fuel verbose []
      closeParenthesis start
      closeGroup index body
      return .group (some index) {} {} body
    | _ => refuse .endOfPattern 0

end

end Reading

------------------------------------------------------------
-- Whole Expressions
------------------------------------------------------------

/- An expression that was read. -/
structure Expression where
  parts : List Node
  flags : Flags
  widths : Array (Option Width)

/- The first group that was asked for and does not exist. -/
def firstMissing?
    (asked : List (Nat × Nat))
    (groups : Nat) : Option (Nat × Nat) :=
  asked.find? fun (index, _) => groups ≤ index

/- Read a whole expression. -/
def readExpression
    (source : Text) : Except Refusal Expression := do
  let state : ReaderState :=
    { tokens := tokenize source
      position := 0
      flags := {}
      names := []
      widths := #[none]
      behindFrom := none
      asked := [] }
  let fuel := 4 * source.length + 8
  let (parts, state) ←
    (do
      Reading.checkNext
      Reading.readChoice false fuel false [] : Reading
        (List Node)).run state
  if state.flags.ascii && state.flags.unicode then
    throw .twoAlphabets
  let flags :=
    if state.flags.ascii then state.flags
    else { state.flags with unicode := true }
  if !state.tokens.isEmpty then
    throw (.malformed .unbalancedParenthesis (some state.position))
  match firstMissing? state.asked state.widths.size with
  | some (index, position) =>
    throw (.malformed (.invalidReference index) (some position))
  | none => return ⟨parts, flags, state.widths⟩

end Pattern

end Replay
