import Ingress.Json.Numeral
import Ingress.Json.Quoted

/-!
# JSON texts

The grammar is the strict one: no trailing comma, no leading zero, no comment. A document may nest
127 containers. Reading a whole text (`Json.ofText`) allows blanks on both sides of one value and
nothing else.
-/

namespace Ingress.Json

/-- A value that is no container. -/
def readScalar (fuel : Nat) : Reader Json
  | [] => .error .truncated
  | '"' :: rest => (readString fuel rest).map fun (value, rest) => (.string value, rest)
  | 'n' :: rest => (readWord ['u', 'l', 'l'] rest).map fun (_, rest) => (.null, rest)
  | 't' :: rest => (readWord ['r', 'u', 'e'] rest).map fun (_, rest) => (.bool true, rest)
  | 'f' :: rest => (readWord ['a', 'l', 's', 'e'] rest).map fun (_, rest) => (.bool false, rest)
  | text => readNumber text

/-- A value that starts here and nests at most the given number of containers, none of which
has more items than the fuel says. -/
def readValue (fuel : Nat) : Nat → Reader Json
  | depth + 1, '[' :: rest =>
    (readSeries ']' (readValue fuel depth) fuel rest).map
      fun (items, rest) => (.array items, rest)
  | depth + 1, '{' :: rest =>
    (readSeries '}' (readField (readString fuel) (readValue fuel depth)) fuel rest).map
      fun (fields, rest) => (.object fields, rest)
  | _, text => readScalar fuel text

/-- How many containers may be open at once. -/
def maxDepth : Nat := 127

/-- What a reader finds in a text, if there is nothing else in it. -/
def readAll (reader : Nat → Reader α) (text : String) : Except Fault α := do
  let (value, rest) ← reader text.length (skipBlanks text.toList)
  match skipBlanks rest with
  | [] => return value
  | _ => throw .malformed

/-- The document that a text holds, if it holds exactly one. -/
def ofText (text : String) : Option Json :=
  (readAll (fun fuel => readValue fuel maxDepth) text).toOption

end Ingress.Json
