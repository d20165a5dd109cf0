import Ingress.Json.Double
import Ingress.Json.Reader
import Ingress.Json.Value

/-!
# JSON numbers

A number is written with digits, perhaps with a sign, a fraction and an exponent. One that is
whole and fits in 64 bits is kept exactly. Every other one is kept as a double, and may not be too
large for one: it is taken for its leading digits, as many as fit in 64 bits, times a power of ten,
and both the digits and the power are rounded to a double before they are multiplied or divided.
-/

namespace Ingress.Json

/-- The number that a decimal digit stands for. -/
def digitValue (c : Char) : Nat := c.toNat - '0'.toNat

/-- The number that decimal digits stand for. -/
def ofDigits (digits : List Char) : Nat :=
  digits.foldl (fun n c => n * 10 + digitValue c) 0

/-- How a number is written. -/
structure Numeral where
  /-- Whether there is a minus sign. -/
  negative : Bool
  /-- The digits of the whole part. -/
  whole : List Char
  /-- The digits behind the point, none where there is no point. -/
  fraction : List Char
  /-- The exponent, if there is one. -/
  exponent : Option Int
  deriving DecidableEq

/-- Digits, of which there must be one. Where the text ends instead, there is the given fault. -/
def readDigits (atEnd : Fault) : Reader (List Char) := fun text =>
  match text.takeWhile Char.isDigit with
  | [] => .error (if text.isEmpty then atEnd else .malformed)
  | digits => .ok (digits, text.dropWhile Char.isDigit)

/-- The whole part of a number: a zero alone, or digits that begin with another. -/
def readWhole (atEnd : Fault) : Reader (List Char)
  | '0' :: rest => if rest.head?.any Char.isDigit then .error .malformed else .ok (['0'], rest)
  | text => readDigits atEnd text

/-- A point and digits, or nothing. -/
def readFraction (atEnd : Fault) : Reader (List Char)
  | '.' :: rest => readDigits atEnd rest
  | rest => .ok ([], rest)

/-- An exponent behind its mark, with its sign. -/
def readSignedExponent (atEnd : Fault) : Reader Int
  | '-' :: rest =>
    (readDigits atEnd rest).map fun (digits, rest) => (-(ofDigits digits : Int), rest)
  | '+' :: rest => (readDigits atEnd rest).map fun (digits, rest) => ((ofDigits digits : Int), rest)
  | rest => (readDigits atEnd rest).map fun (digits, rest) => ((ofDigits digits : Int), rest)

/-- A mark and an exponent, or nothing. -/
def readExponent (atEnd : Fault) : Reader (Option Int)
  | 'e' :: rest | 'E' :: rest =>
    (readSignedExponent atEnd rest).map fun (exponent, rest) => (some exponent, rest)
  | rest => .ok (none, rest)

/-- A number, with the fault of a text that ends where a digit has to follow. -/
def readNumeral (atEnd : Fault) : Reader Numeral := fun text => do
  let (negative, rest) := match text with
    | '-' :: rest => (true, rest)
    | _ => (false, text)
  let (whole, rest) ← readWhole atEnd rest
  let (fraction, rest) ← readFraction atEnd rest
  let (exponent, rest) ← readExponent atEnd rest
  return ({ negative, whole, fraction, exponent }, rest)

/-- Append digits to a number as long as 64 bits hold it; how many are left over. -/
def appendDigits : Nat → List Char → Nat × Nat
  | n, [] => (n, 0)
  | n, c :: rest =>
    let next := n * 10 + digitValue c
    if next < Nat.pow 2 64 then appendDigits next rest else (n, rest.length + 1)

namespace Numeral

/-- The leading digits, and the power of ten that they are taken times. -/
def scaled (n : Numeral) : Nat × Int :=
  let (significand, dropped) := appendDigits 0 n.whole
  let (significand, ignored) := appendDigits significand n.fraction
  (significand,
    n.exponent.getD 0 + (dropped : Int) - ((n.fraction.length - ignored : Nat) : Int))

/-- The double that a number is kept as, without its sign; none if it is too large. What is divided
by more than the greatest power of ten is divided twice, and after that nothing is left. -/
def double? (n : Numeral) : Option Double :=
  let (significand, power) := n.scaled
  let leading := Double.ofRatio significand 1
  let double :=
    if 0 ≤ power then leading.mul (.tenTo (min power 308).toNat)
    else if -308 ≤ power then leading.div (.tenTo (-power).toNat)
    else if -616 ≤ power then (leading.div (.tenTo 308)).div (.tenTo (-power - 308).toNat)
    else .ofRatio 0 1
  if significand = 0 || (power ≤ 308 && double.isFinite) then some double else none

/-- The whole number that a numeral stands for, if it is written as one and 64 bits hold it. A
negative zero is no whole number. -/
def integer? (n : Numeral) : Option Int :=
  let value := ofDigits n.whole
  if n.fraction ≠ [] ∨ n.exponent.isSome then none
  else if n.negative then if 0 < value ∧ value ≤ Nat.pow 2 63 then some (-value) else none
  else if value < Nat.pow 2 64 then some value
  else none

end Numeral

/-- A number. -/
def readNumber : Reader Json := fun text => do
  let (numeral, rest) ← readNumeral .truncated text
  match numeral.integer? with
  | some value => return (.integer value, rest)
  | none =>
    match numeral.double? with
    | some double =>
      return (.real (String.ofList ((if numeral.negative then ['-'] else []) ++ double.text)), rest)
    | none => throw .malformed

end Ingress.Json
