/-!
# Doubles

A double is a mantissa of 53 bits times a power of two. Products and quotients of doubles are
rounded to the double next to the exact ratio (`Double.ofRatio`). A double is written with the
fewest decimal digits that no other double is closer to (`Double.text`).
-/

namespace Ingress.Json

/-- A double that is not negative. -/
structure Double where
  /-- The mantissa. -/
  mantissa : Nat
  /-- The power of two that the mantissa is taken times. -/
  exponent : Int
  deriving DecidableEq

namespace Double

/-- The exponent of the least doubles. -/
def leastExponent : Int := -1074

/-- The exponent of the greatest doubles. -/
def greatestExponent : Int := 971

/-- The natural number next to a ratio, of two the even one. -/
def nearest (n d : Nat) : Nat :=
  let quotient := n / d
  let twice := 2 * (n % d)
  if twice > d ∨ (twice = d ∧ quotient % 2 = 1) then quotient + 1 else quotient

/-- A ratio divided by a power of two. -/
def lowered (n d : Nat) (exponent : Int) : Nat × Nat :=
  (n * Nat.pow 2 (-exponent).toNat, d * Nat.pow 2 exponent.toNat)

/-- The exponent of the double next to a ratio: the ratio divided by that power of two has 53 bits,
or less if the exponent is the least one. -/
def exponentOf (n d : Nat) : Int :=
  let guess := (n.log2 : Int) - d.log2 - 53
  let (top, bottom) := lowered n d guess
  max leastExponent (if Nat.pow 2 53 * bottom ≤ top then guess + 1 else guess)

/-- The double next to a ratio, of two the one with the even mantissa. Nothing keeps its exponent
from being greater than the greatest. -/
def ofRatio (n d : Nat) : Double :=
  if n = 0 then { mantissa := 0, exponent := leastExponent }
  else
    let exponent := exponentOf n d
    let (top, bottom) := lowered n d exponent
    let mantissa := nearest top bottom
    if mantissa = Nat.pow 2 53 then { mantissa := Nat.pow 2 52, exponent := exponent + 1 }
    else { mantissa, exponent }

/-- The double next to a power of ten. -/
def tenTo (power : Nat) : Double := ofRatio (Nat.pow 10 power) 1

/-- The numerator of a double as a ratio. -/
def numerator (x : Double) : Nat := x.mantissa * Nat.pow 2 x.exponent.toNat

/-- The denominator of a double as a ratio. -/
def denominator (x : Double) : Nat := Nat.pow 2 (-x.exponent).toNat

/-- The double next to a product. -/
def mul (x y : Double) : Double :=
  ofRatio (x.numerator * y.numerator) (x.denominator * y.denominator)

/-- The double next to a quotient. -/
def div (x y : Double) : Double :=
  ofRatio (x.numerator * y.denominator) (x.denominator * y.numerator)

/-- Whether an exponent is not too great. -/
def isFinite (x : Double) : Bool := x.exponent ≤ greatestExponent

/-- The decimal digits of a natural number, without the zeros at its end, and how many those
were. -/
def significantDigits (n : Nat) : List Char × Nat :=
  let digits := Nat.toDigits 10 n
  let significant := (digits.reverse.dropWhile (· = '0')).reverse
  (significant, digits.length - significant.length)

/-- How many digits a positive double has before the point; not positive if zeros follow the
point. -/
def magnitude (x : Double) : Int :=
  let digits (n : Nat) : Int := (Nat.toDigits 10 n).length
  let guess := digits x.numerator - digits x.denominator
  if Nat.pow 10 guess.toNat * x.denominator ≤ x.numerator * Nat.pow 10 (-guess).toNat then
    guess + 1
  else guess

/-- The multiple of a power of ten that stands for a positive double, if there is one: the next
one below or above, the nearer one if both do. A decimal stands for a double as long as no other
double is nearer to it. Below a power of two the doubles are twice as dense. -/
def onGrid? (x : Double) (power : Int) : Option Nat :=
  let step := Nat.pow 10 power.toNat * Nat.pow 2 (2 - x.exponent).toNat
  let quarter := Nat.pow 10 (-power).toNat * Nat.pow 2 (x.exponent - 2).toNat
  let dense := x.mantissa = Nat.pow 2 52 ∧ leastExponent < x.exponent
  let least := (4 * x.mantissa - (if dense then 1 else 2)) * quarter
  let greatest := (4 * x.mantissa + 2) * quarter
  let standsFor (n : Nat) : Bool :=
    if x.mantissa % 2 = 0 then least ≤ n * step && n * step ≤ greatest
    else least < n * step && n * step < greatest
  let below := 4 * x.mantissa * quarter / step
  let near := nearest (4 * x.mantissa * quarter) step
  let far := 2 * below + 1 - near
  if standsFor near then some near else if standsFor far then some far else none

/-- The fewest digits that stand for a positive double and the power of ten that they are taken
times. Seventeen always do. -/
def shortest (x : Double) : List Char × Int :=
  let found := (List.range 17).findSome? fun count =>
    let power := x.magnitude - (count + 1 : Nat)
    (x.onGrid? power).map fun n =>
      let (digits, zeros) := significantDigits n
      (digits, power + zeros)
  found.getD ([], 0)

/-- Digits times a power of ten: without an exponent if at most sixteen digits stand before the
point and at most four zeros follow it, else with an exponent and one digit before the point. -/
def decimalText (digits : List Char) (power : Int) : List Char :=
  let place := digits.length + power
  if 0 ≤ power ∧ place ≤ 16 then digits ++ List.replicate power.toNat '0' ++ ['.', '0']
  else if 0 < place ∧ place ≤ 16 then digits.take place.toNat ++ '.' :: digits.drop place.toNat
  else if -5 < place ∧ place ≤ 0 then '0' :: '.' :: List.replicate (-place).toNat '0' ++ digits
  else
    let fraction := match digits.drop 1 with
      | [] => []
      | rest => '.' :: rest
    digits.take 1 ++ fraction ++ 'e' :: (toString (place - 1)).toList

/-- The shortest text that stands for a double. -/
def text (x : Double) : List Char :=
  if x.mantissa = 0 then ['0', '.', '0']
  else
    let (digits, power) := x.shortest
    decimalText digits power

end Double

end Ingress.Json
