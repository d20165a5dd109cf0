import Ingress.Yaml.Layout

/-!
# YAML nodes

A node is a scalar, a sequence, a mapping, or an alias of an anchored node. Anchors are numbered
by how many different names have been given before, and an alias keeps the number that its name
had at the alias. `Node.ofTokens?` reads a node off the front of a list of tokens, by the grammar
of block and flow collections; a missing node is an empty plain scalar.
-/

namespace Ingress.Yaml

/-- The number of an anchored node, and its tag. -/
structure NodeProperties where
  /-- The number of its anchor. -/
  anchor : Option Nat := none
  /-- Its tag, in full. -/
  tag : Option Tag := none

/-- A value of a YAML document. -/
inductive Node where
  /-- A text. -/
  | scalar (properties : NodeProperties) (style : ScalarStyle) (text : String)
  /-- A sequence of nodes. -/
  | sequence (properties : NodeProperties) (items : List Node)
  /-- Nodes under nodes, in writing order. -/
  | mapping (properties : NodeProperties) (entries : List (Node × Node))
  /-- Another mention of an anchored node. -/
  | alias (anchor : Nat)

namespace Node

/-- The node that stands where none was written. -/
def empty : Node := .scalar {} .plain ""

mutual

/-- The anchored nodes within a node and itself, in writing order, with their numbers. -/
def anchored : Node → List (Nat × Node)
  | .scalar p style text => (p.anchor.map fun n => (n, .scalar p style text)).toList
  | .sequence p items =>
    (p.anchor.map fun n => (n, .sequence p items)).toList ++ anchoredItems items
  | .mapping p entries =>
    (p.anchor.map fun n => (n, .mapping p entries)).toList ++ anchoredEntries entries
  | .alias _ => []

/-- The anchored nodes of a sequence. -/
def anchoredItems : List Node → List (Nat × Node)
  | [] => []
  | item :: rest => anchored item ++ anchoredItems rest

/-- The anchored nodes of a mapping. -/
def anchoredEntries : List (Node × Node) → List (Nat × Node)
  | [] => []
  | (key, value) :: rest => anchored key ++ anchored value ++ anchoredEntries rest

end

end Node

/-- What is left to read, and the names given so far. -/
structure Unread where
  /-- The tokens. -/
  tokens : List Token
  /-- The names of anchors with their numbers, the latest first. -/
  names : List (String × Nat) := []

/-- A reader of a part of a document. -/
abbrev NodeReader (α : Type) := StateT Unread Option α

namespace NodeReader

/-- The next token, if there is one. -/
def peek : NodeReader (Option Token) := do
  return (← get).tokens.head?

/-- Go on behind the next token. -/
def skip : NodeReader Unit :=
  modify fun u => { u with tokens := u.tokens.tail }

/-- Go on behind the next token if it is a given one. -/
def take (token : Token) : NodeReader Bool := do
  if (← peek) = some token then
    skip
    return true
  return false

/-- Whether the next token is one of those given. -/
def isAt (tokens : List Token) : NodeReader Bool := do
  return (← peek).any tokens.contains

/-- Number a name that is given here. -/
def nameAnchor (name : String) : NodeReader Nat := do
  let names := (← get).names
  let number := (names.map (·.1)).eraseDups.length
  modify fun u => { u with names := (name, number) :: names }
  return number

/-- The number that a name has here. -/
def numberOf (name : String) : NodeReader Nat := do
  (← get).names.lookup name

end NodeReader

open NodeReader

/-- What the handles of tags stand for. -/
abbrev TagHandles := List (String × Tag)

/-- The tag that a token stands for; a handle has to be known. -/
def resolveTag (handles : TagHandles) (handle : String) (suffix : Tag) : Option Tag :=
  if handle = "" then some suffix
  else (handles.lookup handle).map (· ++ suffix)

/-- An anchor, if there is one here. -/
def readAnchorProperty : NodeReader (Option Nat) := do
  match ← peek with
  | some (.anchor name) =>
    skip
    return some (← nameAnchor name)
  | _ => return none

/-- A tag, if there is one here. -/
def readTagProperty : NodeReader (Option (String × Tag)) := do
  match ← peek with
  | some (.tag handle suffix) =>
    skip
    return some (handle, suffix)
  | _ => return none

/-- An anchor and a tag in either order, each if there is one. -/
def readProperties (handles : TagHandles) : NodeReader NodeProperties := do
  let early ← readAnchorProperty
  let tag ← readTagProperty
  let anchor ← if early.isSome then pure early else if tag.isSome then readAnchorProperty else pure none
  match tag with
  | none => return { anchor }
  | some (handle, suffix) =>
    let tag ← resolveTag handles handle suffix
    return { anchor, tag := some tag }

mutual

/-- A node. Within flow collections it is no block collection; as the key or value of a block
mapping it may be a sequence whose dashes stand in the mapping's own column. -/
def readNode (handles : TagHandles) : Nat → Bool → Bool → NodeReader Node
  | 0, _, _ => failure
  | fuel + 1, block, indentless => do
    if let some (.alias name) ← peek then
      skip
      return .alias (← numberOf name)
    let p ← readProperties handles
    match ← peek with
    | some (.scalar style text) =>
      skip
      return .scalar p style text
    | some .flowSequenceStart =>
      skip
      return .sequence p (← readFlowSequence handles fuel true)
    | some .flowMappingStart =>
      skip
      return .mapping p (← readFlowMapping handles fuel true)
    | some .blockSequenceStart =>
      if !block then failure
      skip
      return .sequence p (← readBlockSequence handles fuel)
    | some .blockMappingStart =>
      if !block then failure
      skip
      return .mapping p (← readBlockMapping handles fuel)
    | token =>
      if indentless && token = some .blockEntry then
        return .sequence p (← readIndentlessSequence handles fuel)
      if p.anchor.isNone && p.tag.isNone then failure
      return .scalar p .plain ""

/-- A node, or the empty one in front of certain tokens. -/
def readNodeBefore (handles : TagHandles) (closing : List Token) :
    Nat → Bool → Bool → NodeReader Node
  | 0, _, _ => failure
  | fuel + 1, block, indentless => do
    if ← isAt closing then return .empty
    readNode handles fuel block indentless

/-- The entries of a block sequence. -/
def readBlockSequence (handles : TagHandles) : Nat → NodeReader (List Node)
  | 0 => failure
  | fuel + 1 => do
    if ← take .blockEnd then return []
    if !(← take .blockEntry) then failure
    let item ← readNodeBefore handles [.blockEntry, .blockEnd] fuel true false
    return item :: (← readBlockSequence handles fuel)

/-- The entries of a sequence in a mapping's own column. -/
def readIndentlessSequence (handles : TagHandles) : Nat → NodeReader (List Node)
  | 0 => failure
  | fuel + 1 => do
    if !(← take .blockEntry) then return []
    let item ← readNodeBefore handles [.blockEntry, .key, .value, .blockEnd] fuel true false
    return item :: (← readIndentlessSequence handles fuel)

/-- The entries of a block mapping. -/
def readBlockMapping (handles : TagHandles) : Nat → NodeReader (List (Node × Node))
  | 0 => failure
  | fuel + 1 => do
    if ← take .blockEnd then return []
    if !(← take .key) then failure
    let key ← readNodeBefore handles [.key, .value, .blockEnd] fuel true true
    let value ←
      if ← take .value then readNodeBefore handles [.key, .value, .blockEnd] fuel true true
      else pure .empty
    return (key, value) :: (← readBlockMapping handles fuel)

/-- The entries of a flow sequence. An entry with a key is a mapping of its own. -/
def readFlowSequence (handles : TagHandles) : Nat → Bool → NodeReader (List Node)
  | 0, _ => failure
  | fuel + 1, first => do
    if ← take .flowSequenceEnd then return []
    if !first then
      if !(← take .flowEntry) then failure
      if ← take .flowSequenceEnd then return []
    let item ←
      if ← take .key then readFlowPair handles fuel
      else readNode handles fuel false false
    return item :: (← readFlowSequence handles fuel false)

/-- The one entry of a mapping that stands in a flow sequence without braces. Where the key is
missing, the token in its place is passed over. -/
def readFlowPair (handles : TagHandles) : Nat → NodeReader Node
  | 0 => failure
  | fuel + 1 => do
    let key ←
      if ← isAt [.value, .flowEntry, .flowSequenceEnd] then
        skip
        pure .empty
      else readNode handles fuel false false
    let value ←
      if ← take .value then
        readNodeBefore handles [.flowEntry, .flowSequenceEnd] fuel false false
      else pure .empty
    return .mapping {} [(key, value)]

/-- The entries of a flow mapping. A node without a key mark has no value. -/
def readFlowMapping (handles : TagHandles) : Nat → Bool → NodeReader (List (Node × Node))
  | 0, _ => failure
  | fuel + 1, first => do
    if ← take .flowMappingEnd then return []
    if !first then
      if !(← take .flowEntry) then failure
      if ← take .flowMappingEnd then return []
    let entry ←
      if ← take .key then
        let key ← readNodeBefore handles [.value, .flowEntry, .flowMappingEnd] fuel false false
        let value ←
          if ← take .value then
            readNodeBefore handles [.flowEntry, .flowMappingEnd] fuel false false
          else pure .empty
        pure (key, value)
      else pure (← readNode handles fuel false false, Node.empty)
    return entry :: (← readFlowMapping handles fuel false)

end

/-- A node at the front of a list of tokens. Between two tokens that are taken at most three
readers start, so three rounds for each token are fuel enough. -/
def Node.ofTokens? (handles : TagHandles) : NodeReader Node := do
  readNode handles (3 * (← get).tokens.length + 3) true false

end Ingress.Yaml
