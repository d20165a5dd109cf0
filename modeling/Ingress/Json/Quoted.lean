import Ingress.Json.Reader

/-!
# JSON strings

A string stands between quotes. A backslash begins an escape: a letter for a character that is
hard to write, or the code units of a character. Halves of a surrogate pair stand together or not
at all, and a control character has to be escaped.
-/

namespace Ingress.Json

/-- The value of a hexadecimal digit. -/
def hexDigit? (c : Char) : Option Nat :=
  if '0' ≤ c ∧ c ≤ '9' then some (c.toNat - '0'.toNat)
  else if 'a' ≤ c ∧ c ≤ 'f' then some (c.toNat - 'a'.toNat + 10)
  else if 'A' ≤ c ∧ c ≤ 'F' then some (c.toNat - 'A'.toNat + 10)
  else none

/-- The number that four hexadecimal digits stand for. -/
def codeUnit? (a b c d : Char) : Option Nat := do
  let a ← hexDigit? a
  let b ← hexDigit? b
  let c ← hexDigit? c
  let d ← hexDigit? d
  return ((a * 16 + b) * 16 + c) * 16 + d

/-- The character that a letter after a backslash stands for. -/
def shortEscape? : Char → Option Char
  | '"' => some '"'
  | '\\' => some '\\'
  | '/' => some '/'
  | 'b' => some '\x08'
  | 'f' => some '\x0c'
  | 'n' => some '\n'
  | 'r' => some '\r'
  | 't' => some '\t'
  | _ => none

/-- A code unit in four hexadecimal digits. A text of less than four bytes ends too early,
whatever they are. -/
def readCodeUnit : Reader Nat
  | a :: b :: c :: d :: rest =>
    match codeUnit? a b c d with
    | some unit => .ok (unit, rest)
    | none => .error .malformed
  | text =>
    let bytes := (text.map Char.utf8Size).foldr (· + ·) 0
    .error (if bytes < 4 then .truncated else .malformed)

/-- The character of one code unit, or of two with an escape each. -/
def readUnicodeEscape : Reader Char := fun text => do
  let (high, rest) ← readCodeUnit text
  if high < 0xD800 ∨ 0xE000 ≤ high then return (Char.ofNat high, rest)
  if 0xDC00 ≤ high then throw .malformed
  let (_, rest) ← readWord ['\\', 'u'] rest
  let (low, rest) ← readCodeUnit rest
  if low < 0xDC00 ∨ 0xE000 ≤ low then throw .malformed
  return (Char.ofNat (0x10000 + (high - 0xD800) * 0x400 + (low - 0xDC00)), rest)

/-- The character that an escape stands for, after its backslash. -/
def readEscape : Reader Char
  | 'u' :: rest => readUnicodeEscape rest
  | c :: rest =>
    match shortEscape? c with
    | some c => .ok (c, rest)
    | none => .error .malformed
  | [] => .error .truncated

/-- The characters of a string up to its closing quote. Every round takes a character, so the
length of the text is fuel enough. -/
def readCharacters : Nat → Reader (List Char)
  | _, [] => .error .truncated
  | 0, _ => .error .malformed
  | _, '"' :: rest => .ok ([], rest)
  | fuel + 1, '\\' :: rest => do
    let (c, rest) ← readEscape rest
    let (characters, rest) ← readCharacters fuel rest
    return (c :: characters, rest)
  | fuel + 1, c :: rest => do
    if c < ' ' then throw .malformed
    let (characters, rest) ← readCharacters fuel rest
    return (c :: characters, rest)

/-- A string, after its opening quote. -/
def readString (fuel : Nat) : Reader String := fun text => do
  let (characters, rest) ← readCharacters fuel text
  return (String.ofList characters, rest)

end Ingress.Json
