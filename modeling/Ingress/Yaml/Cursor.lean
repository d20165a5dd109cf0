/-!
# Places in a YAML text

A cursor is a place in a text: what follows it, and the counts on which the layout of a YAML
document depends. Five characters end a line; the pair of a carriage return and a line feed ends
one line. Reading a line end gives the character that it stands for in a scalar.
-/

namespace Ingress.Yaml

/-- Whether a character ends a line. -/
def isLineEnd (c : Char) : Bool :=
  c = '\n' || c = '\r' || c = '\u0085' || c = '\u2028' || c = '\u2029'

/-- Whether a character is a blank within a line. -/
def isBlank (c : Char) : Bool :=
  c = ' ' || c = '\t'

/-- Whether nothing but a blank, a line end or the end of the text comes next. -/
def isGap : Option Char → Bool
  | some c => isBlank c || isLineEnd c
  | none => true

/-- Whether a character may stand in the name of an anchor or a directive. -/
def isWordCharacter (c : Char) : Bool :=
  c.isAlphanum || c = '_' || c = '-'

/-- Whether a character may stand in a YAML text at all. -/
def isAllowed (c : Char) : Bool :=
  let n := c.toNat
  n = 0x09 || n = 0x0A || n = 0x0D || (0x20 ≤ n && n ≤ 0x7E) || n = 0x85 ||
    (0xA0 ≤ n && n ≤ 0xD7FF) || (0xE000 ≤ n && n ≤ 0xFFFD) || 0x10000 ≤ n

/-- A place in a text. -/
structure Cursor where
  /-- What follows. -/
  rest : List Char
  /-- How many bytes stand before it. -/
  offset : Nat := 0
  /-- How many lines stand before its own. -/
  line : Nat := 0
  /-- How many characters stand before it in its line. -/
  column : Nat := 0

namespace Cursor

/-- The next character. -/
def next? (c : Cursor) : Option Char := c.rest.head?

/-- The character after the next one. -/
def second? (c : Cursor) : Option Char := c.rest.tail.head?

/-- The number of bytes that characters take. -/
def byteCount (characters : List Char) : Nat :=
  (characters.map Char.utf8Size).foldr (· + ·) 0

/-- The place some characters of the same line further. -/
def drop (n : Nat) (c : Cursor) : Cursor :=
  { c with
    rest := c.rest.drop n
    offset := c.offset + byteCount (c.rest.take n)
    column := c.column + n }

/-- The start of the next line, at a line end, with the character that the line end stands for:
a line feed, or one of the two separators that stand for themselves. -/
def nextLine? (c : Cursor) : Option (Char × Cursor) :=
  match c.rest with
  | '\r' :: '\n' :: rest => some ('\n', { rest, offset := c.offset + 2, line := c.line + 1 })
  | e :: rest =>
    if isLineEnd e then
      some (if e = '\u2028' || e = '\u2029' then e else '\n',
        { rest, offset := c.offset + e.utf8Size, line := c.line + 1 })
    else none
  | [] => none

/-- The start of the next line, or the same place where no line ends. -/
def afterLineEnd (c : Cursor) : Cursor :=
  match c.nextLine? with
  | some (_, after) => after
  | none => c

/-- The longest run of characters of a kind, none of them a line end, and the place after it. -/
def takeWhile (p : Char → Bool) (c : Cursor) : List Char × Cursor :=
  let run := c.rest.takeWhile p
  (run, c.drop run.length)

/-- The place after the longest run of characters of a kind. -/
def skipWhile (p : Char → Bool) (c : Cursor) : Cursor :=
  (c.takeWhile p).2

/-- The place after a comment that begins here, or the same place. -/
def skipComment (c : Cursor) : Cursor :=
  if c.next? = some '#' then c.skipWhile fun e => !isLineEnd e else c

/-- Whether a line begins here with three times the same mark and a gap. -/
def atMarker (mark : Char) (c : Cursor) : Bool :=
  c.column = 0 && c.rest.take 3 = [mark, mark, mark] && isGap (c.rest.drop 3).head?

/-- Whether a line begins here that starts or ends a document. -/
def atBoundary (c : Cursor) : Bool :=
  c.atMarker '-' || c.atMarker '.'

end Cursor

end Ingress.Yaml
