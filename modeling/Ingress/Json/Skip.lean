import Ingress.Json.Text

/-!
# Passing over JSON values

A value that nobody asks for has to be well formed, but nothing is made of it: its numbers may
have any size, its escapes may stand for halves of a surrogate pair, and its containers may nest
to any depth. A number that ends too early is never taken for a part of one.
-/

namespace Ingress.Json

/-- Pass over what follows a backslash. -/
def skipEscape : Reader Unit
  | 'u' :: rest => (readCodeUnit rest).map fun (_, rest) => ((), rest)
  | c :: rest => if (shortEscape? c).isSome then .ok ((), rest) else .error .malformed
  | [] => .error .truncated

/-- Pass over a string behind its opening quote. Every round takes a character, so the length of
the text is fuel enough. -/
def skipString : Nat → Reader Unit
  | _, [] => .error .truncated
  | 0, _ => .error .malformed
  | _, '"' :: rest => .ok ((), rest)
  | fuel + 1, '\\' :: rest => do
    let (_, rest) ← skipEscape rest
    skipString fuel rest
  | fuel + 1, c :: rest => if c < ' ' then .error .malformed else skipString fuel rest

/-- Pass over a value that is no container. -/
def skipScalar (fuel : Nat) : Reader Unit
  | [] => .error .truncated
  | '"' :: rest => skipString fuel rest
  | 'n' :: rest => readWord ['u', 'l', 'l'] rest
  | 't' :: rest => readWord ['r', 'u', 'e'] rest
  | 'f' :: rest => readWord ['a', 'l', 's', 'e'] rest
  | text => (readNumeral .malformed text).map fun (_, rest) => ((), rest)

/-- Pass over a value that nests at most the given number of containers, none of which has more
items than the fuel says. -/
def skipNested (fuel : Nat) : Nat → Reader Unit
  | depth + 1, '[' :: rest =>
    (readSeries ']' (skipNested fuel depth) fuel rest).map fun (_, rest) => ((), rest)
  | depth + 1, '{' :: rest =>
    (readSeries '}' (readField (skipString fuel) (skipNested fuel depth)) fuel rest).map
      fun (_, rest) => ((), rest)
  | _, text => skipScalar fuel text

/-- Pass over a value. Every container that it opens takes a character, so the fuel is depth
enough. -/
def skipValue (fuel : Nat) : Reader Unit := skipNested fuel fuel

end Ingress.Json
