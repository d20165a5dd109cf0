import Ingress.Json.Quoted
import Ingress.Yaml.Cursor

/-!
# YAML scalars

A scalar is a text, written in one of five styles. A plain or quoted scalar is a sequence of words
with gaps between them; a gap within a line stands for its blanks, and a gap over line ends is
folded (`Gap.text`): one line end stands for a space, more stand for all but the first. A block
scalar is a sequence of lines below a header that says what becomes of the line ends at the end.

Every reader is given a cursor and answers the text with the place after it, or nothing if the
scalar is malformed.
-/

namespace Ingress.Yaml

/-- How a scalar is written. -/
inductive ScalarStyle where
  /-- Without any mark. -/
  | plain
  /-- Between single quotes. -/
  | singleQuoted
  /-- Between double quotes. -/
  | doubleQuoted
  /-- As lines that are kept. -/
  | literal
  /-- As lines that are folded. -/
  | folded
  deriving DecidableEq, Repr

/-- The white space between two words of a scalar. -/
structure Gap where
  /-- The blanks before the first line end. -/
  blanks : List Char := []
  /-- What the line ends stand for. -/
  lineEnds : List Char := []
  /-- Whether an escaped line end comes before all of it. -/
  escaped : Bool := false

namespace Gap

/-- Whether the gap goes over a line end. -/
def crossesLine (gap : Gap) : Bool :=
  gap.escaped || !gap.lineEnds.isEmpty

/-- The text that a gap stands for. -/
def text (gap : Gap) : List Char :=
  match gap.escaped, gap.lineEnds with
  | true, ends => ends
  | false, [] => gap.blanks
  | false, ['\n'] => [' ']
  | false, '\n' :: more => more
  | false, ends => ends

/-- Extend a gap as far as it goes. Behind a line end, a tab left of the given column is refused.
Every round takes a character, so the length of the rest is fuel enough. -/
def extend (leastColumn : Nat) : Nat → Gap → Cursor → Option (Gap × Cursor)
  | 0, gap, c => some (gap, c)
  | fuel + 1, gap, c =>
    match c.nextLine? with
    | some (e, after) =>
      extend leastColumn fuel { gap with lineEnds := gap.lineEnds ++ [e] } after
    | none =>
      match c.next? with
      | none => some (gap, c)
      | some b =>
        if !isBlank b then some (gap, c)
        else if !gap.crossesLine then
          extend leastColumn fuel { gap with blanks := gap.blanks ++ [b] } (c.drop 1)
        else if b = '\t' && c.column < leastColumn then none
        else extend leastColumn fuel gap (c.drop 1)

/-- The gap that begins with the given one. -/
def read (leastColumn : Nat) (gap : Gap) (c : Cursor) : Option (Gap × Cursor) :=
  gap.extend leastColumn c.rest.length c

end Gap

/-- Whether a character is a mark of flow collections. -/
def isFlowMark (c : Char) : Bool :=
  c = ',' || c = '[' || c = ']' || c = '\x7b' || c = '\x7d'

/-- The word of a plain scalar at the front of a text. It ends at a gap, at a colon before a gap,
and within flow collections at one of their marks. -/
def plainWord (flow : Bool) : List Char → Option (List Char)
  | [] => some []
  | c :: rest =>
    if isBlank c || isLineEnd c then some []
    else if flow && c = ':' && rest.head?.any (fun e => isFlowMark e || e = '?') then none
    else if (c = ':' && isGap rest.head?) || (flow && isFlowMark c) then some []
    else (plainWord flow rest).map (c :: ·)

/-- What was read of a plain scalar. -/
structure PlainScalar where
  /-- The text. -/
  text : List Char
  /-- Whether the scalar is followed by a line end, so that a new key may start. -/
  endsLine : Bool
  /-- The place after it. -/
  after : Cursor

/-- Words with gaps between them, after the given text and gap. -/
def plainWords (flow : Bool) (leastColumn : Nat) :
    Nat → List Char → Gap → Cursor → Option PlainScalar
  | 0, _, _, _ => none
  | fuel + 1, text, gap, c => do
    if c.atBoundary || c.next? = some '#' then
      return { text, endsLine := gap.crossesLine, after := c }
    let word ← plainWord flow c.rest
    let c := c.drop word.length
    let (text, gap) := if word.isEmpty then (text, gap) else (text ++ gap.text ++ word, {})
    if c.rest.isEmpty || !isGap c.next? then
      return { text, endsLine := gap.crossesLine, after := c }
    let (gap, c) ← gap.read leastColumn c
    if !flow && c.column < leastColumn then
      return { text, endsLine := gap.crossesLine, after := c }
    plainWords flow leastColumn fuel text gap c

/-- A plain scalar. Outside of flow collections its lines stand right of the open collection. -/
def readPlain (flow : Bool) (leastColumn : Nat) (c : Cursor) : Option PlainScalar :=
  plainWords flow leastColumn (c.rest.length + 1) [] {} c

/-- The word at the front of a text in single quotes, and how many characters it takes. A quote in
it is written twice. -/
def singleQuotedWord : List Char → List Char × Nat
  | '\'' :: '\'' :: rest =>
    let (word, n) := singleQuotedWord rest
    ('\'' :: word, n + 2)
  | c :: rest =>
    if c = '\'' || isBlank c || isLineEnd c then ([], 0)
    else
      let (word, n) := singleQuotedWord rest
      (c :: word, n + 1)
  | [] => ([], 0)

/-- The character that a letter after a backslash stands for. -/
def shortEscape? : Char → Option Char
  | '0' => some '\x00'
  | 'a' => some '\x07'
  | 'b' => some '\x08'
  | 't' => some '\t'
  | '\t' => some '\t'
  | 'n' => some '\n'
  | 'v' => some '\x0b'
  | 'f' => some '\x0c'
  | 'r' => some '\r'
  | 'e' => some '\x1b'
  | ' ' => some ' '
  | '"' => some '"'
  | '/' => some '/'
  | '\\' => some '\\'
  | 'N' => some '\u0085'
  | '_' => some '\u00a0'
  | 'L' => some '\u2028'
  | 'P' => some '\u2029'
  | _ => none

/-- The number that hexadecimal digits stand for. -/
def hexNumber? (digits : List Char) : Option Nat :=
  digits.foldlM (fun n c => (Json.hexDigit? c).map (n * 16 + ·)) 0

/-- The character with the code point that hexadecimal digits stand for. -/
def hexCharacter? (digits : List Char) : Option Char := do
  let n ← hexNumber? digits
  if h : n.isValidChar then return Char.ofNatAux n h else none

/-- A character in front of a word, with the number of characters that it takes. -/
def prepend (c : Char) (n : Nat) (word : List Char × Nat) : List Char × Nat :=
  (c :: word.1, word.2 + n)

/-- The word at the front of a text in double quotes, and how many characters it takes. It ends at
the quote, at a gap and at an escaped line end. -/
def doubleQuotedWord : List Char → Option (List Char × Nat)
  | '\\' :: 'x' :: a :: b :: rest => do
    return prepend (← hexCharacter? [a, b]) 4 (← doubleQuotedWord rest)
  | '\\' :: 'u' :: a :: b :: c :: d :: rest => do
    return prepend (← hexCharacter? [a, b, c, d]) 6 (← doubleQuotedWord rest)
  | '\\' :: 'U' :: a :: b :: c :: d :: e :: f :: g :: h :: rest => do
    return prepend (← hexCharacter? [a, b, c, d, e, f, g, h]) 10 (← doubleQuotedWord rest)
  | '\\' :: c :: rest => do
    if isLineEnd c then return ([], 0)
    return prepend (← shortEscape? c) 2 (← doubleQuotedWord rest)
  | ['\\'] => none
  | c :: rest => do
    if c = '"' || isBlank c || isLineEnd c then return ([], 0)
    return prepend c 1 (← doubleQuotedWord rest)
  | [] => some ([], 0)

/-- Words with gaps between them up to the closing quote, after the given text. -/
def quotedWords (double : Bool) : Nat → List Char → Cursor → Option (List Char × Cursor)
  | 0, _, _ => none
  | fuel + 1, text, c => do
    if c.atBoundary then none
    let (word, n) ← if double then doubleQuotedWord c.rest else some (singleQuotedWord c.rest)
    let c := c.drop n
    let text := text ++ word
    let e ← c.next?
    if e = (if double then '"' else '\'') then return (text, c.drop 1)
    let (gap, c) :=
      if e = '\\' then ({ escaped := true }, (c.drop 1).afterLineEnd) else (({} : Gap), c)
    let (gap, c) ← gap.read 0 c
    quotedWords double fuel (text ++ gap.text) c

/-- A quoted scalar, after its opening quote. -/
def readQuoted (double : Bool) (c : Cursor) : Option (List Char × Cursor) :=
  quotedWords double (c.rest.length + 1) [] c

/-- What becomes of the line ends at the end of a block scalar. -/
inductive Chomping where
  /-- None is kept. -/
  | strip
  /-- One is kept. -/
  | clip
  /-- All are kept. -/
  | keep
  deriving DecidableEq

/-- The chomping that a mark asks for. -/
def Chomping.ofMark? : Char → Option Chomping
  | '-' => some .strip
  | '+' => some .keep
  | _ => none

/-- The number that an indentation digit stands for; a zero is refused. -/
def indentationDigit? (c : Char) : Option Nat :=
  if c = '0' then none else Json.hexDigit? c

/-- The header of a block scalar, in either order, and how many characters it takes: its chomping
and how far its lines are indented below the open collection, none where the lines tell. -/
def blockHeader (text : List Char) : Option (Chomping × Option Nat × Nat) :=
  match text.head?.bind Chomping.ofMark? with
  | some chomping =>
    match text.tail.head? with
    | some d =>
      if d.isDigit then (indentationDigit? d).map fun n => (chomping, some n, 2)
      else some (chomping, none, 1)
    | none => some (chomping, none, 1)
  | none =>
    match text.head? with
    | some d =>
      if d.isDigit then
        (indentationDigit? d).map fun n =>
          match text.tail.head?.bind Chomping.ofMark? with
          | some chomping => (chomping, some n, 2)
          | none => (.clip, some n, 1)
      else some (.clip, none, 0)
    | none => some (.clip, none, 0)

/-- Empty lines and the indentation of the next line: what the line ends stand for and the
widest column reached. The indentation ends at the given column, if it is known. -/
def blockBreaks (column : Option Nat) : Nat → Nat → List Char → Cursor →
    Option (Nat × List Char × Cursor)
  | 0, widest, lineEnds, c => some (widest, lineEnds, c)
  | fuel + 1, widest, lineEnds, c =>
    let within := column.all (c.column < ·)
    if within && c.next? = some ' ' then blockBreaks column fuel widest lineEnds (c.drop 1)
    else if within && c.next? = some '\t' then none
    else
      let widest := max widest c.column
      match c.nextLine? with
      | some (e, after) => blockBreaks column fuel widest (lineEnds ++ [e]) after
      | none => some (widest, lineEnds, c)

/-- What has been read of a block scalar's lines. -/
structure BlockLines where
  /-- The text without the end of its last line. -/
  text : List Char := []
  /-- What the end of the last line stands for; nothing before the first line. -/
  lineEnd : List Char := []
  /-- What the ends of the empty lines after it stand for. -/
  emptyLines : List Char
  /-- Whether the last line began with a blank. -/
  indented : Bool := false

/-- What stands for the line ends between two lines: lines that begin with a blank are never
folded. -/
def BlockLines.joint (lines : BlockLines) (fold nextIndented : Bool) : List Char :=
  if fold && lines.lineEnd = ['\n'] && !lines.indented && !nextIndented then
    if lines.emptyLines.isEmpty then [' '] else lines.emptyLines
  else lines.lineEnd ++ lines.emptyLines

/-- The lines that begin at a column. -/
def blockLines (fold : Bool) (column : Nat) : Nat → BlockLines → Cursor →
    Option (BlockLines × Cursor)
  | 0, lines, c => some (lines, c)
  | fuel + 1, lines, c => do
    match c.next? with
    | none => return (lines, c)
    | some first =>
      if c.column ≠ column then return (lines, c)
      let (line, c) := c.takeWhile fun e => !isLineEnd e
      let (lineEnd, c) := match c.nextLine? with
        | some (e, after) => ([e], after)
        | none => ([], c)
      let (_, emptyLines, after) ← blockBreaks (some column) (c.rest.length + 1) 0 [] c
      blockLines fold column fuel {
        text := lines.text ++ lines.joint fold (isBlank first) ++ line
        lineEnd, emptyLines, indented := isBlank first } after

/-- A block scalar, after its mark. Its lines stand at least at the given column, which is one
right of the open collection. -/
def readBlock (fold : Bool) (leastColumn : Nat) (c : Cursor) : Option (List Char × Cursor) := do
  let (chomping, increment, n) ← blockHeader c.rest
  let c := ((c.drop n).skipWhile isBlank).skipComment
  if !isGap c.next? then none
  let c := c.afterLineEnd
  let known := increment.map (leastColumn - 1 + ·)
  let (widest, emptyLines, c) ← blockBreaks known (c.rest.length + 1) 0 [] c
  let column := known.getD (max (max widest leastColumn) 1)
  let (lines, c) ← blockLines fold column (c.rest.length + 1) { emptyLines } c
  let tail := match chomping with
    | .strip => []
    | .clip => lines.lineEnd
    | .keep => lines.lineEnd ++ lines.emptyLines
  return (lines.text ++ tail, c)

end Ingress.Yaml
