/-!
# Reading JSON from left to right

A reader takes something off the front of a text and leaves the rest, or says what is wrong. Of
several faults the leftmost is found. Here are the readers that everything else is put together
from: blanks, words, and series between commas.
-/

namespace Ingress.Json

/-- What is wrong with a text. -/
inductive Fault where
  /-- It ends too early. -/
  | truncated
  /-- It is no JSON. -/
  | malformed
  /-- It is JSON, but not of the shape that is asked for. -/
  | unfit
  deriving DecidableEq, Repr

/-- A reader takes a value off the front of a text and leaves the rest. -/
abbrev Reader (α : Type) := List Char → Except Fault (α × List Char)

/-- The four characters that may stand between tokens. -/
def isBlank (c : Char) : Bool :=
  c = ' ' || c = '\n' || c = '\t' || c = '\r'

/-- The text from its first character that is not blank. -/
def skipBlanks (text : List Char) : List Char :=
  text.dropWhile isBlank

/-- The fault of a text that should go on differently: it may just have ended. -/
def faultAt : List Char → Fault
  | [] => .truncated
  | _ => .malformed

/-- A given word. -/
def readWord : List Char → Reader Unit
  | [], text => .ok ((), text)
  | c :: word, d :: rest => if c = d then readWord word rest else .error .malformed
  | _ :: _, [] => .error .truncated

/-- Items between commas up to a closing mark, where an item has to follow. Every round
consumes a character, so the length of the text, or more, is fuel enough. -/
def readItems (close : Char) (item : Reader α) : Nat → Reader (List α)
  | 0, text => .error (faultAt text)
  | fuel + 1, text => do
    let (value, rest) ← item (skipBlanks text)
    match skipBlanks rest with
    | [] => throw .truncated
    | c :: rest =>
      if c = close then return ([value], rest)
      else if c = ',' then
        let (values, rest) ← readItems close item fuel rest
        return (value :: values, rest)
      else throw .malformed

/-- Items between commas up to a closing mark, possibly none, after the opening mark. -/
def readSeries (close : Char) (item : Reader α) (fuel : Nat) : Reader (List α) := fun text =>
  match skipBlanks text with
  | [] => .error .truncated
  | c :: rest =>
    if c = close then .ok ([], rest)
    else readItems close item fuel (c :: rest)

/-- A key up to the value behind its colon. The reader of the key starts behind the quote. -/
def readKey (key : Reader κ) : Reader κ
  | '"' :: rest => do
    let (name, rest) ← key rest
    match skipBlanks rest with
    | ':' :: rest => return (name, skipBlanks rest)
    | rest => throw (faultAt rest)
  | text => .error (faultAt text)

/-- A key and a value. -/
def readField (key : Reader κ) (value : Reader α) : Reader (κ × α) := fun text => do
  let (name, rest) ← readKey key text
  let (value, rest) ← value rest
  return ((name, value), rest)

end Ingress.Json
