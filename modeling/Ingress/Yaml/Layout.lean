import Ingress.Yaml.Token

/-!
# The layout of a YAML text

Tokens are read off a text from left to right. Two things are known only later than they have to
be written: that a token begins a key, which shows at the colon behind it, and that a column of a
block collection begins with it. So every place where a key may begin is remembered as a
`PendingKey` until its colon comes or until it is too late, and the tokens that announce the key
and the column are inserted in front of it.

Columns of open block collections close as soon as something stands left of them. Within flow
collections layout plays no part.
-/

namespace Ingress.Yaml

/-- A place where a key may have begun. -/
structure PendingKey where
  /-- How many tokens stand before it. -/
  position : Nat
  /-- Where it begins in the text. -/
  start : Cursor
  /-- Whether nothing but a key can stand there. -/
  required : Bool

/-- Whether a colon would come too late for a key: on a later line, or more than 1024 bytes on. -/
def PendingKey.isStale (key : PendingKey) (c : Cursor) : Bool :=
  key.start.line < c.line || key.start.offset + 1024 < c.offset

/-- How far a text has been read. -/
structure Layout where
  /-- The place reached. -/
  cursor : Cursor
  /-- The tokens. -/
  tokens : Array Token := #[]
  /-- The columns of the open block collections, the innermost first. -/
  columns : List Nat := []
  /-- The pending keys of the open flow collections, the innermost first, and, last, of the
  block collections. -/
  keys : List (Option PendingKey) := [none]
  /-- Whether a key may begin at the next token. -/
  keyAllowed : Bool := true

namespace Layout

/-- Whether a flow collection is open. -/
def inFlow (l : Layout) : Bool := 1 < l.keys.length

/-- The leftmost column right of the innermost open block collection. -/
def leastColumn (l : Layout) : Nat :=
  match l.columns with
  | column :: _ => column + 1
  | [] => 0

/-- Write a token. -/
def emit (l : Layout) (token : Token) : Layout :=
  { l with tokens := l.tokens.push token }

/-- Write a token and go on behind its mark. -/
def emitMark (l : Layout) (width : Nat) (token : Token) : Layout :=
  { l.emit token with cursor := l.cursor.drop width }

/-- Close the columns for which something holds. -/
def closeColumns (l : Layout) (closes : Nat → Bool) : Layout :=
  if l.inFlow then l
  else
    let closed := l.columns.takeWhile closes
    { l with
      tokens := l.tokens ++ closed.map fun _ => Token.blockEnd
      columns := l.columns.drop closed.length }

/-- Open a column, unless it is open, in front of the token at a position. -/
def openColumn (l : Layout) (column position : Nat) (token : Token) : Layout :=
  if l.inFlow || column < l.leastColumn then l
  else
    { l with
      tokens := l.tokens.insertIdxIfInBounds position token
      columns := column :: l.columns }

/-- Open a column at the next token, unless it is open. -/
def openColumnHere (l : Layout) (token : Token) : Layout :=
  l.openColumn l.cursor.column l.tokens.size token

/-- Give up the innermost pending key; a required one cannot be given up. -/
def dropKey (l : Layout) : Option Layout :=
  match l.keys with
  | some key :: rest => if key.required then none else some { l with keys := none :: rest }
  | _ => some l

/-- Remember that a key may begin here. -/
def noteKey (l : Layout) : Option Layout :=
  if !l.keyAllowed then some l
  else do
    let key : PendingKey := {
      position := l.tokens.size
      start := l.cursor
      required := !l.inFlow && l.columns.head? = some l.cursor.column }
    let l ← l.dropKey
    return { l with keys := some key :: l.keys.tail }

/-- Give up every pending key that is too late. -/
def dropStaleKeys (l : Layout) : Option Layout := do
  let keys ← l.keys.mapM fun
    | some key =>
      if !key.isStale l.cursor then some (some key)
      else if key.required then none
      else some none
    | none => some none
  return { l with keys }

/-- Skip blanks, comments and line ends. Where a key may begin, a tab is no blank; a byte order
mark may begin a line. Every round takes a line end. -/
def skipGap : Nat → Layout → Layout
  | 0, l => l
  | fuel + 1, l =>
    let c := if l.cursor.column = 0 && l.cursor.next? = some '\ufeff' then l.cursor.drop 1
      else l.cursor
    let c := c.skipWhile fun e => e = ' ' || (e = '\t' && (l.inFlow || !l.keyAllowed))
    let c := c.skipComment
    match c.nextLine? with
    | some (_, after) =>
      skipGap fuel { l with cursor := after, keyAllowed := l.keyAllowed || !l.inFlow }
    | none => { l with cursor := c }

/-- Go to the next token: give up the keys that are too late and close the columns right of it. -/
def settle (l : Layout) : Option Layout := do
  let l ← (l.skipGap (l.cursor.rest.length + 1)).dropStaleKeys
  return l.closeColumns fun column => l.cursor.column < column

/-- The end of the text. -/
def finish (l : Layout) : Option (List Token) := do
  let l ← (l.closeColumns fun _ => true).dropKey
  return l.tokens.toList

/-- A mark between documents. -/
def readBoundary (l : Layout) (token : Token) : Option Layout := do
  let l ← (l.closeColumns fun _ => true).dropKey
  return { l.emitMark 3 token with keyAllowed := false }

/-- A directive. -/
def readDirectiveLine (l : Layout) : Option Layout := do
  let l ← (l.closeColumns fun _ => true).dropKey
  let (token, cursor) ← readDirective (l.cursor.drop 1)
  return { l.emit token with cursor, keyAllowed := false }

/-- The start of a flow collection. -/
def openFlow (l : Layout) (token : Token) : Option Layout := do
  let l ← l.noteKey
  return { l.emitMark 1 token with keys := none :: l.keys, keyAllowed := true }

/-- The end of a flow collection. -/
def closeFlow (l : Layout) (token : Token) : Option Layout := do
  let l ← l.dropKey
  return {
    l.emitMark 1 token with
    keys := if l.inFlow then l.keys.tail else l.keys
    keyAllowed := false }

/-- The comma in a flow collection. -/
def readFlowEntry (l : Layout) : Option Layout := do
  let l ← l.dropKey
  return { l.emitMark 1 .flowEntry with keyAllowed := true }

/-- The dash of a block sequence. -/
def readBlockEntry (l : Layout) : Option Layout := do
  if !l.inFlow && !l.keyAllowed then none
  let l ← (l.openColumnHere .blockSequenceStart).dropKey
  return { l.emitMark 1 .blockEntry with keyAllowed := true }

/-- The mark before a key. -/
def readKey (l : Layout) : Option Layout := do
  if !l.inFlow && !l.keyAllowed then none
  let l ← (l.openColumnHere .blockMappingStart).dropKey
  return { l.emitMark 1 .key with keyAllowed := !l.inFlow }

/-- The mark before a value: it turns the innermost pending key into a key. -/
def readValue (l : Layout) : Option Layout :=
  match l.keys with
  | some key :: rest =>
    let l := { l with tokens := l.tokens.insertIdxIfInBounds key.position .key, keys := none :: rest }
    let l := l.openColumn key.start.column key.position .blockMappingStart
    some { l.emitMark 1 .value with keyAllowed := false }
  | _ =>
    if !l.inFlow && !l.keyAllowed then none
    else
      let l := l.openColumnHere .blockMappingStart
      some { l.emitMark 1 .value with keyAllowed := !l.inFlow }

/-- An anchor or an alias. -/
def readName (l : Layout) (token : String → Token) : Option Layout := do
  let l ← l.noteKey
  let (name, cursor) ← readAnchor (l.cursor.drop 1)
  return { l.emit (token name) with cursor, keyAllowed := false }

/-- A tag. -/
def readTagToken (l : Layout) : Option Layout := do
  let l ← l.noteKey
  let (token, cursor) ← readTag l.inFlow l.cursor
  return { l.emit token with cursor, keyAllowed := false }

/-- A block scalar. -/
def readBlockScalar (l : Layout) (style : ScalarStyle) : Option Layout := do
  let l ← l.dropKey
  let (text, cursor) ← readBlock (style = .folded) l.leastColumn (l.cursor.drop 1)
  return { l.emit (.scalar style (String.ofList text)) with cursor, keyAllowed := true }

/-- A quoted scalar. -/
def readQuotedScalar (l : Layout) (style : ScalarStyle) : Option Layout := do
  let l ← l.noteKey
  let (text, cursor) ← readQuoted (style = .doubleQuoted) (l.cursor.drop 1)
  return { l.emit (.scalar style (String.ofList text)) with cursor, keyAllowed := false }

/-- A plain scalar. -/
def readPlainScalar (l : Layout) : Option Layout := do
  let l ← l.noteKey
  let scalar ← readPlain l.inFlow l.leastColumn l.cursor
  return {
    l.emit (.scalar .plain (String.ofList scalar.text)) with
    cursor := scalar.after
    keyAllowed := scalar.endsLine }

/-- Whether a character, with the one after it, begins a plain scalar: all but the marks do, and
a dash, a question mark or a colon does before most others. -/
def startsPlain (flow : Bool) (c : Char) (after : Option Char) : Bool :=
  !("-?:,[]\x7b\x7d#&*!|>'\"%@".contains c || c.toNat = 0x60 || isBlank c || isLineEnd c) ||
    (c = '-' && !after.any isBlank) ||
    (!flow && (c = '?' || c = ':') && !isGap after)

/-- The token that begins at a character. -/
def readToken (l : Layout) (first : Char) : Option Layout :=
  let after := l.cursor.second?
  if l.cursor.column = 0 && first = '%' then l.readDirectiveLine
  else if l.cursor.atMarker '-' then l.readBoundary .documentStart
  else if l.cursor.atMarker '.' then l.readBoundary .documentEnd
  else match first with
    | '[' => l.openFlow .flowSequenceStart
    | '\x7b' => l.openFlow .flowMappingStart
    | ']' => l.closeFlow .flowSequenceEnd
    | '\x7d' => l.closeFlow .flowMappingEnd
    | ',' => l.readFlowEntry
    | '*' => l.readName .alias
    | '&' => l.readName .anchor
    | '!' => l.readTagToken
    | '\'' => l.readQuotedScalar .singleQuoted
    | '"' => l.readQuotedScalar .doubleQuoted
    | _ =>
      if first = '-' && isGap after then l.readBlockEntry
      else if first = '?' && (l.inFlow || isGap after) then l.readKey
      else if first = ':' && (l.inFlow || isGap after) then l.readValue
      else if first = '|' && !l.inFlow then l.readBlockScalar .literal
      else if first = '>' && !l.inFlow then l.readBlockScalar .folded
      else if startsPlain l.inFlow first after then l.readPlainScalar
      else none

/-- All further tokens. Every round takes a character. -/
def readTokens : Nat → Layout → Option (List Token)
  | 0, _ => none
  | fuel + 1, l => do
    let l ← l.settle
    match l.cursor.next? with
    | none => l.finish
    | some first => readTokens fuel (← l.readToken first)

end Layout

/-- The tokens of a text, if it is laid out well. -/
def Token.ofText? (text : String) : Option (List Token) :=
  let characters := text.toList
  if characters.all isAllowed then
    Layout.readTokens (characters.length + 1) { cursor := { rest := characters } }
  else none

end Ingress.Yaml
