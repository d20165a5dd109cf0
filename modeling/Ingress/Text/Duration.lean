/-!
# Durations

A duration in words: in the largest of the units `s` and `ms` of which it holds one, with a
fraction as long as it has to be.
-/

namespace Ingress.Text

/-- The digits of a fraction without the zeros at its end. -/
def trimFraction (digits : List Char) : List Char :=
  (digits.reverse.dropWhile (· = '0')).reverse

/-- The three digits of a number below a thousand. -/
def threeDigits (n : Nat) : List Char :=
  let digits := Nat.toDigits 10 n
  List.replicate (3 - digits.length) '0' ++ digits

/-- A number of milliseconds in words; nothing at all is counted in nanoseconds. -/
def durationText (milliseconds : Nat) : String :=
  let seconds := milliseconds / 1000
  let fraction := trimFraction (threeDigits (milliseconds % 1000))
  if milliseconds = 0 then "0ns"
  else if seconds = 0 then toString milliseconds ++ "ms"
  else if fraction.isEmpty then toString seconds ++ "s"
  else toString seconds ++ "." ++ String.ofList fraction ++ "s"

end Ingress.Text
