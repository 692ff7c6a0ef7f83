import Replay.Yaml.Graph
import Replay.Yaml.Token.Lexer

/-
  This file defines the reading of a graph from the tokens of
  a text.

  Key definitions include:
    * `Composition`
    * `readNode`
    * `readDocument`
    * `Graph.ofText`

  A text holds one document, or none.
-/

------------------------------------------------------------
-- Compositions
------------------------------------------------------------

namespace Replay

namespace Yaml

open Text

/-
  A graph in the making: the tokens left, why there are no
  more after them, the nodes so far, the anchors with their
  nodes, and the handles of tags with what they stand for.
-/
structure Composition where
  tokens : List Token
  refusal : Option Refusal
  nodes : Array Node
  anchors : List (String × Nat)
  handles : List (String × String)

/- A step that composes a graph. -/
abbrev Composing (α : Type) :=
  StateT Composition (Except Refusal) α

namespace Composing

/- Refuse the text. -/
def refuse {α : Type} : Composing α :=
  throw .malformed

/- The next token, or none at the end of the text. -/
def peek : Composing (Option Token) := do
  let s ← get
  match s.tokens, s.refusal with
  | token :: _, _ => return some token
  | [], some refusal => throw refusal
  | [], none => return none

/- Take the next token. -/
def advance : Composing Unit :=
  modify fun s => { s with tokens := s.tokens.drop 1 }

/- Does a certain token come next? -/
def sees (token : Token) : Composing Bool := do
  return (← peek) == some token

/- Take a certain token, if it comes next. -/
def accept (token : Token) : Composing Bool := do
  if ← sees token then
    advance
    return true
  else
    return false

/- Take a certain token, which must come next. -/
def demand (token : Token) : Composing Unit := do
  if !(← accept token) then refuse

/- Does one of some tokens come next? -/
def seesAny (tokens : List Token) : Composing Bool := do
  match ← peek with
  | none => return false
  | some token => return tokens.contains token

/- Add a node, and return its place. -/
def add (node : Node) : Composing Nat := do
  let s ← get
  set { s with nodes := s.nodes.push node }
  return s.nodes.size

/- Add a node without text. -/
def addEmpty : Composing Nat :=
  add .empty

/- Change the content of a node. -/
def fill
    (place : Nat)
    (content : Content) : Composing Unit :=
  modify fun s =>
    let node := s.nodes.getD place .empty
    { s with nodes := s.nodes.setIfInBounds place ⟨node.tag, content⟩ }

end Composing

open Composing

------------------------------------------------------------
-- Properties
------------------------------------------------------------

/- An anchor and a tag. -/
structure Properties where
  anchor : Option String
  tag : Option String
  deriving Repr

/- An anchor, if one comes next. -/
def readAnchor? : Composing (Option String) := do
  match ← peek with
  | some (.anchor name) =>
    advance
    return some name
  | _ => return none

/- A tag in full, if one comes next. -/
def readTag? :
    Composing (Option (Option String × String)) := do
  match ← peek with
  | some (.tag handle suffix) =>
    advance
    return some (handle, suffix)
  | _ => return none

/- A tag with what its handle stands for. -/
def expandTag : Option String × String → Composing String
  | (none, suffix) => return suffix
  | (some handle, suffix) => do
    match (← get).handles.lookup handle with
    | some stem => return stem ++ suffix
    | none => refuse

/- An anchor and a tag, in any order. -/
def readProperties : Composing Properties := do
  match ← readAnchor? with
  | some name =>
    let tag ← readTag?
    return ⟨some name, ← tag.mapM expandTag⟩
  | none =>
    match ← readTag? with
    | some tag =>
      let anchor ← readAnchor?
      return ⟨anchor, ← expandTag tag⟩
    | none => return ⟨none, none⟩

/- The tag, unless it is left open. -/
def Properties.tag?
    (properties : Properties) : Option Tag :=
  match properties.tag with
  | none => none
  | some text => if text = "!" then none else some (.ofText text)

/- Add a node with its anchor, which no other node may have. -/
def addNode
    (anchor : Option String)
    (node : Node) : Composing Nat := do
  let place ← add node
  match anchor with
  | none => return place
  | some name =>
    let s ← get
    if (s.anchors.lookup name).isSome then refuse
    set { s with anchors := (name, place) :: s.anchors }
    return place

/- The node that an alias names. -/
def readAlias (name : String) : Composing Nat := do
  advance
  match (← get).anchors.lookup name with
  | some place => return place
  | none => refuse

/- A scalar.  One with the tag `!` counts as plain. -/
def readScalar
    (properties : Properties)
    (text : Text)
    (plain : Bool) : Composing Nat := do
  let tag :=
    match properties.tag, properties.tag? with
    | _, some tag => tag
    | some _, none => Tag.ofPlain text
    | none, none => if plain then Tag.ofPlain text else .text
  addNode properties.anchor ⟨tag, .scalar text⟩

/- A scalar without text, after an anchor or a tag. -/
def readAbsent (properties : Properties) : Composing Nat := do
  if properties.anchor.isNone && properties.tag.isNone then
    refuse
  addNode properties.anchor
    ⟨properties.tag?.getD .null, .scalar []⟩

------------------------------------------------------------
-- Nodes
------------------------------------------------------------

/- Where a node stands, and which blocks it may be. -/
inductive Site where
  | flow
  | item
  | entry
  deriving DecidableEq, Repr

/- The tokens that end a part of a mapping. -/
def entryEnds : List Token :=
  [.key, .value, .blockEnd]

/- The tokens that end a part of an entry between brackets. -/
def flowEnds (kind : Bracket) : List Token :=
  [.flowEntry, .flowEnd kind]

mutual

/- A node.  The fuel bounds the tokens and the depth. -/
def readNode
    (site : Site) : Nat → Composing Nat
  | 0 => refuse
  | fuel + 1 => do
    match ← peek with
    | some (.alias name) => readAlias name
    | _ =>
      let properties ← readProperties
      match ← peek with
      | some (.scalar text plain) =>
        advance
        readScalar properties text plain
      | some (.flowStart .sequence) =>
        let place ← addNode properties.anchor
          ⟨properties.tag?.getD .sequence, .sequence []⟩
        advance
        let items ← readFlowItems true fuel
        fill place (.sequence items)
        return place
      | some (.flowStart .mapping) =>
        let place ← addNode properties.anchor
          ⟨properties.tag?.getD .mapping, .mapping []⟩
        advance
        let entries ← readFlowEntries true fuel
        fill place (.mapping entries)
        return place
      | some .blockEntry =>
        if site = .entry then
          let place ← addNode properties.anchor
            ⟨properties.tag?.getD .sequence, .sequence []⟩
          let items ← readDashes fuel
          fill place (.sequence items)
          return place
        else
          readAbsent properties
      | some (.blockStart .sequence) =>
        if site = .flow then
          readAbsent properties
        else
          let place ← addNode properties.anchor
            ⟨properties.tag?.getD .sequence, .sequence []⟩
          advance
          let items ← readItems fuel
          fill place (.sequence items)
          return place
      | some (.blockStart .mapping) =>
        if site = .flow then
          readAbsent properties
        else
          let place ← addNode properties.anchor
            ⟨properties.tag?.getD .mapping, .mapping []⟩
          advance
          let entries ← readEntries fuel
          fill place (.mapping entries)
          return place
      | _ => readAbsent properties

/- A part that may be left out before some tokens. -/
def readPart
    (site : Site)
    (ends : List Token) : Nat → Composing Nat
  | 0 => refuse
  | fuel + 1 => do
    if ← seesAny ends then addEmpty else readNode site fuel

/- The items of a block, to its end. -/
def readItems : Nat → Composing (List Nat)
  | 0 => refuse
  | fuel + 1 => do
    if ← accept .blockEntry then
      let item ← readPart .item [.blockEntry, .blockEnd] fuel
      return item :: (← readItems fuel)
    else
      demand .blockEnd
      return []

/- Items that are not indented, to the last one. -/
def readDashes : Nat → Composing (List Nat)
  | 0 => refuse
  | fuel + 1 => do
    if ← accept .blockEntry then
      let item ← readPart .item (.blockEntry :: entryEnds) fuel
      return item :: (← readDashes fuel)
    else
      return []

/- The entries of a block, to its end. -/
def readEntries : Nat → Composing (List (Nat × Nat))
  | 0 => refuse
  | fuel + 1 => do
    if ← accept .key then
      let key ← readPart .entry entryEnds fuel
      let value ←
        if ← accept .value then readPart .entry entryEnds fuel
        else addEmpty
      return (key, value) :: (← readEntries fuel)
    else
      demand .blockEnd
      return []

/- The comma before an item between brackets but the first. -/
def readComma (first : Bool) : Composing Unit :=
  if first then pure () else demand .flowEntry

/- An entry between brackets, after the token for its key. -/
def readFlowEntry
    (kind : Bracket) : Nat → Composing (Nat × Nat)
  | 0 => refuse
  | fuel + 1 => do
    let key ← readPart .flow (.value :: flowEnds kind) fuel
    if ← accept .value then
      return (key, ← readPart .flow (flowEnds kind) fuel)
    else
      return (key, ← addEmpty)

/-
  The items of a sequence between brackets.  An entry among
  them is a mapping of its own.
-/
def readFlowItems
    (first : Bool) : Nat → Composing (List Nat)
  | 0 => refuse
  | fuel + 1 => do
    if ← accept (.flowEnd .sequence) then
      return []
    else
      readComma first
      if ← sees .key then
        let place ← add ⟨.mapping, .mapping []⟩
        advance
        let entry ← readFlowEntry .sequence fuel
        fill place (.mapping [entry])
        return place :: (← readFlowItems false fuel)
      else if ← accept (.flowEnd .sequence) then
        return []
      else
        let item ← readNode .flow fuel
        return item :: (← readFlowItems false fuel)

/-
  The entries of a mapping between brackets.  A node by itself
  is a key whose value is null.
-/
def readFlowEntries
    (first : Bool) : Nat → Composing (List (Nat × Nat))
  | 0 => refuse
  | fuel + 1 => do
    if ← accept (.flowEnd .mapping) then
      return []
    else
      readComma first
      if ← accept .key then
        let entry ← readFlowEntry .mapping fuel
        return entry :: (← readFlowEntries false fuel)
      else if ← accept (.flowEnd .mapping) then
        return []
      else
        let key ← readNode .flow fuel
        let value ← addEmpty
        return (key, value) :: (← readFlowEntries false fuel)

end

------------------------------------------------------------
-- Documents
------------------------------------------------------------

/- The handles that need no directive. -/
def knownHandles : List (String × String) :=
  [("!", "!"), ("!!", Tag.stem)]

/-
  The directives before a document: at most one version, whose
  first number is 1, and each handle at most once.
-/
def readDirectives
    (versioned : Bool)
    (handles : List (String × String)) :
    Nat → Composing (List (String × String))
  | 0 => refuse
  | fuel + 1 => do
    match ← peek with
    | some (.version major) =>
      advance
      if versioned || major != 1 then refuse
      readDirectives true handles fuel
    | some (.handle name stem) =>
      advance
      if (handles.lookup name).isSome then refuse
      readDirectives versioned ((name, stem) :: handles) fuel
    | some .remark =>
      advance
      readDirectives versioned handles fuel
    | _ => return handles

/- Does a document with a start of its own come next? -/
def isExplicit : Token → Bool
  | .version _ => true
  | .handle _ _ => true
  | .remark => true
  | .documentStart => true
  | _ => false

/- Is a document without a node over before a token? -/
def endsDocument : Option Token → Bool
  | none => true
  | some .documentEnd => true
  | some token => isExplicit token

/- The document that comes next, with its directives. -/
def readExplicit (fuel : Nat) : Composing Nat := do
  let handles ← readDirectives false [] fuel
  modify fun s => { s with handles := handles ++ knownHandles }
  demand .documentStart
  if endsDocument (← peek) then addEmpty
  else readNode .item fuel

/- Take all marks of the end of a document that come next. -/
def skipEnds : Nat → Composing Unit
  | 0 => refuse
  | fuel + 1 => do
    if ← accept .documentEnd then skipEnds fuel

/- The one document of a text, if there is one. -/
def readDocument (fuel : Nat) : Composing (Option Nat) := do
  match ← peek with
  | none => return none
  | some token =>
    let root ←
      if isExplicit token then readExplicit fuel
      else readNode .item fuel
    skipEnds fuel
    match ← peek with
    | none => return some root
    | some _ => refuse

/- The graph of a text, and the place of its first node. -/
def Graph.ofText
    (text : String) : Except Refusal (Graph × Option Nat) := do
  let (tokens, refusal) := Token.ofText text
  let start : Composition :=
    { tokens := tokens
      refusal := refusal
      nodes := #[]
      anchors := []
      handles := knownHandles }
  let fuel := 4 * tokens.length + 8
  let (root, s) ← (readDocument fuel).run start
  return (⟨s.nodes⟩, root)

end Yaml

end Replay
