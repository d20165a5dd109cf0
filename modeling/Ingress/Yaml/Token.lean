import Ingress.Json.Numeral
import Ingress.Yaml.Scalar

/-!
# YAML tokens

A token is a mark, a property of a node, or a scalar. Block collections, which are laid out by
indentation, are between tokens of their own, as if they had brackets.

Here are the tokens and the readers of those with inner structure: directives, anchors and tags.
-/

namespace Ingress.Yaml

/-- The name of a type. It is given by bytes, which need not make up a text. -/
abbrev Tag := List UInt8

namespace Tag

/-- The tag with the bytes of a text. -/
def ofText (text : String) : Tag := text.toUTF8.data.toList

/-- What counts of a tag that was read: all before a zero byte. -/
def ended (tag : Tag) : Tag := tag.takeWhile (· ≠ 0)

/-- The name that a tag local to the document gives; none where it is not local, or no text. -/
def localName? : Tag → Option String
  | mark :: name => if mark = 0x21 then String.fromUTF8? (ByteArray.mk name.toArray) else none
  | [] => none

end Tag

/-- A unit of a YAML text. -/
inductive Token where
  /-- A directive that names a version of YAML. -/
  | version (major minor : Nat)
  /-- A directive that gives tags with a handle a beginning. -/
  | tagHandle (handle : String) (beginning : Tag)
  /-- The mark before a document. -/
  | documentStart
  /-- The mark after a document. -/
  | documentEnd
  /-- An opening bracket. -/
  | flowSequenceStart
  /-- A closing bracket. -/
  | flowSequenceEnd
  /-- An opening brace. -/
  | flowMappingStart
  /-- A closing brace. -/
  | flowMappingEnd
  /-- A comma between the entries of a flow collection. -/
  | flowEntry
  /-- The column where the entries of a sequence begin. -/
  | blockSequenceStart
  /-- The column where the keys of a mapping begin. -/
  | blockMappingStart
  /-- The end of a column. -/
  | blockEnd
  /-- The dash before an entry of a block sequence. -/
  | blockEntry
  /-- The place before a key. -/
  | key
  /-- The colon before a value. -/
  | value
  /-- A reference to an anchor. -/
  | alias (name : String)
  /-- The name of a node. -/
  | anchor (name : String)
  /-- The type of a node; without a handle it stands as it is. -/
  | tag (handle : String) (suffix : Tag)
  /-- A scalar. -/
  | scalar (style : ScalarStyle) (text : String)
  deriving DecidableEq

/-- The name of an anchor or an alias, after its mark. -/
def readAnchor (c : Cursor) : Option (String × Cursor) :=
  let (name, after) := c.takeWhile isWordCharacter
  let closes := isGap after.next? || after.next?.any fun e =>
    e = '?' || e = ':' || e = ',' || e = ']' || e = '\x7d' || e = '%' || e = '@' || e.toNat = 0x60
  if name.isEmpty || !closes then none else some (String.ofList name, after)

/-- Whether a character may stand in the suffix of a tag; flow marks only between angle marks. -/
def isTagCharacter (verbatim : Bool) (c : Char) : Bool :=
  isWordCharacter c || ";/?:@&=+$.!~*'()".contains c || (verbatim && ",[]".contains c)

/-- A byte that is written as a percent sign and two hexadecimal digits. -/
def percentByte? : List Char → Option (UInt8 × List Char)
  | '%' :: a :: b :: rest => (hexNumber? [a, b]).map fun n => (UInt8.ofNat n, rest)
  | _ => none

/-- How many bytes follow the first byte of a character. -/
def followers? (first : UInt8) : Option Nat :=
  if first < 0x80 then some 0
  else if first &&& 0xE0 = 0xC0 then some 1
  else if first &&& 0xF0 = 0xE0 then some 2
  else if first &&& 0xF8 = 0xF0 then some 3
  else none

/-- So many bytes that follow the first byte of a character. -/
def followerBytes : Nat → List Char → Option (List UInt8 × List Char)
  | 0, text => some ([], text)
  | n + 1, text => do
    let (byte, rest) ← percentByte? text
    if byte &&& 0xC0 ≠ 0x80 then none
    let (bytes, rest) ← followerBytes n rest
    return (byte :: bytes, rest)

/-- The bytes of a character that are written with percent signs. Their number is checked, and
not the code point that they make up. -/
def percentBytes? (text : List Char) : Option (List UInt8 × List Char) := do
  let (first, rest) ← percentByte? text
  let (bytes, rest) ← followerBytes (← followers? first) rest
  return (first :: bytes, rest)

/-- The suffix of a tag at the front of a text, and the rest. -/
def tagSuffix (verbatim : Bool) : Nat → List Char → Option (Tag × List Char)
  | 0, text => some ([], text)
  | fuel + 1, text =>
    match text with
    | [] => some ([], [])
    | c :: rest =>
      if c = '%' then do
        let (bytes, rest) ← percentBytes? text
        let (suffix, rest) ← tagSuffix verbatim fuel rest
        return (bytes ++ suffix, rest)
      else if isTagCharacter verbatim c then do
        let (suffix, rest) ← tagSuffix verbatim fuel rest
        return (Tag.ofText c.toString ++ suffix, rest)
      else some ([], text)

/-- The suffix of a tag, and the place after it. -/
def readTagSuffix (verbatim : Bool) (c : Cursor) : Option (Tag × Cursor) := do
  let (suffix, rest) ← tagSuffix verbatim c.rest.length c.rest
  return (suffix, c.drop (c.rest.length - rest.length))

/-- The beginning of a tag up to a second exclamation mark, if there is one. -/
def readTagHandle (c : Cursor) : Option (List Char × Cursor) :=
  if c.next? ≠ some '!' then none
  else
    let (word, after) := (c.drop 1).takeWhile isWordCharacter
    if after.next? = some '!' then some ('!' :: word ++ ['!'], after.drop 1)
    else some ('!' :: word, after)

/-- Whether a handle is between two exclamation marks. -/
def isDelimited (handle : List Char) : Bool :=
  2 ≤ handle.length && handle.getLast? = some '!'

/-- A tag, at its mark: between angle marks, with a handle, local to the document, or the mark
alone. -/
def readTag (flow : Bool) (c : Cursor) : Option (Token × Cursor) := do
  let (handle, suffix, after) ←
    if c.second? = some '<' then do
      let (suffix, after) ← readTagSuffix true (c.drop 2)
      if suffix.isEmpty || after.next? ≠ some '>' then none
      pure ("", suffix.ended, after.drop 1)
    else do
      let (handle, after) ← readTagHandle c
      let (suffix, after) ← readTagSuffix false after
      if isDelimited handle then
        if suffix.isEmpty then none else pure (String.ofList handle, suffix.ended, after)
      else
        let suffix := (Tag.ofText (String.ofList handle.tail) ++ suffix : Tag).ended
        if suffix.isEmpty then pure ("", Tag.ofText "!", after) else pure ("!", suffix, after)
  if isGap after.next? || (flow && after.next? = some ',') then
    return (.tag handle suffix, after)
  else none

/-- A number of at most nine digits. -/
def readVersionNumber (c : Cursor) : Option (Nat × Cursor) :=
  let (digits, after) := c.takeWhile Char.isDigit
  if digits.isEmpty || 9 < digits.length then none else some (Json.ofDigits digits, after)

/-- A version of YAML. -/
def readVersion (c : Cursor) : Option (Token × Cursor) := do
  let (major, c) ← readVersionNumber (c.skipWhile isBlank)
  if c.next? ≠ some '.' then none
  let (minor, c) ← readVersionNumber (c.drop 1)
  return (.version major minor, c)

/-- A handle of tags and what it stands for. -/
def readTagPrefix (c : Cursor) : Option (Token × Cursor) := do
  let (handle, c) ← readTagHandle (c.skipWhile isBlank)
  if !(isDelimited handle || handle = ['!']) || !c.next?.any isBlank then none
  let (beginning, c) ← readTagSuffix true (c.skipWhile isBlank)
  if beginning.isEmpty || !isGap c.next? then none
  return (.tagHandle (String.ofList handle) beginning.ended, c)

/-- A directive, after its mark, with the rest of its line. -/
def readDirective (c : Cursor) : Option (Token × Cursor) := do
  let (name, c) := c.takeWhile isWordCharacter
  if !isGap c.next? then none
  let (token, c) ←
    if name = ['Y', 'A', 'M', 'L'] then readVersion c
    else if name = ['T', 'A', 'G'] then readTagPrefix c
    else none
  let c := (c.skipWhile isBlank).skipComment
  if !isGap c.next? then none
  return (token, c.afterLineEnd)

end Ingress.Yaml
