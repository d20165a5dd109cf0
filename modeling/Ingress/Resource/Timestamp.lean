import Ingress.Text.Blank

/-!
# Points in time

A timestamp is a date and a time of day in coordinated universal time, down to
the second. It is written as RFC 3339 has it, with `Z` for the offset, and read a little
more freely: blanks may stand between the parts, a blank may stand for the `T`, and a
fraction of a second is skipped. An offset other than zero is taken off on reading.
-/

namespace Ingress

/-- A second of coordinated universal time, by its date and time of day. -/
structure Timestamp where
  /-- The year of the proleptic Gregorian calendar. -/
  year : Int
  /-- The month, from 1. -/
  month : Nat
  /-- The day of the month, from 1. -/
  day : Nat
  /-- The hour, from 0. -/
  hour : Nat
  /-- The minute, from 0. -/
  minute : Nat
  /-- The second, from 0; 60 is a leap second. -/
  second : Nat
  deriving DecidableEq, Repr

namespace Timestamp

/-- The start of 1970, which stands for a point in time that was left out. -/
def epoch : Timestamp := ⟨1970, 1, 1, 0, 0, 0⟩

/-- Why a text is no timestamp. -/
inductive Error where
  /-- A number is outside the range of its part. -/
  | outOfRange
  /-- A character stands where another was expected. -/
  | invalid
  /-- The text ends too early. -/
  | tooShort
  /-- Something follows the timestamp. -/
  | tooLong
  /-- The offset leads out of the years that there are. -/
  | impossible
  deriving DecidableEq, Repr

/-- The wording of an error. -/
def Error.message : Error → String
  | .outOfRange => "input is out of range"
  | .invalid => "input contains invalid characters"
  | .tooShort => "premature end of input"
  | .tooLong => "trailing input"
  | .impossible => "no possible date and time matching input"

/-- Whether a year has a 29th of February. -/
def isLeapYear (year : Int) : Bool :=
  year % 4 = 0 && (year % 100 ≠ 0 || year % 400 = 0)

/-- The number of days of a month. -/
def daysInMonth (year : Int) (month : Nat) : Nat :=
  if month = 2 then (if isLeapYear year then 29 else 28)
  else if month = 4 ∨ month = 6 ∨ month = 9 ∨ month = 11 then 30
  else 31

/-- The days from the first of March of year zero to a date. Years are counted from March,
so that a leap day ends its year. -/
def dayNumber (year : Int) (month day : Nat) : Int :=
  let y := if month ≤ 2 then year - 1 else year
  let monthFromMarch := (month + 9) % 12
  y * 365 + y.fdiv 4 - y.fdiv 100 + y.fdiv 400 + ((153 * monthFromMarch + 2) / 5 : Nat) +
    (day : Int) - 1

/-- The date that a number of days after the first of March of year zero is. -/
def dateOfDayNumber (n : Int) : Int × Nat × Nat :=
  let era := n.fdiv 146097
  let dayOfEra := (n - era * 146097).toNat
  let yearOfEra := (dayOfEra - dayOfEra / 1460 + dayOfEra / 36524 - dayOfEra / 146096) / 365
  let dayOfYear := dayOfEra - (365 * yearOfEra + yearOfEra / 4 - yearOfEra / 100)
  let monthFromMarch := (5 * dayOfYear + 2) / 153
  let day := dayOfYear - (153 * monthFromMarch + 2) / 5 + 1
  let month := if monthFromMarch < 10 then monthFromMarch + 3 else monthFromMarch - 9
  let year := era * 400 + yearOfEra + (if month ≤ 2 then 1 else 0)
  (year, month, day)

/-- The timestamp a number of minutes earlier. -/
def minusMinutes (t : Timestamp) (minutes : Int) : Timestamp :=
  if minutes = 0 then t
  else
    let total := dayNumber t.year t.month t.day * 1440 + t.hour * 60 + t.minute - minutes
    let (year, month, day) := dateOfDayNumber (total.fdiv 1440)
    let ofDay := (total.fmod 1440).toNat
    { year, month, day, hour := ofDay / 60, minute := ofDay % 60, second := t.second }

/-- A number in decimal digits, filled up with zeros to a width. -/
def padded (width n : Nat) : String :=
  let digits := toString n
  String.ofList (List.replicate (width - digits.length) '0') ++ digits

/-- A year: four digits, or a sign and at least four digits outside of 0 to 9999. -/
def yearText (year : Int) : String :=
  if 0 ≤ year ∧ year ≤ 9999 then padded 4 year.toNat
  else (if year < 0 then "-" else "+") ++ padded 4 year.natAbs

/-- The written form. -/
def text (t : Timestamp) : String :=
  yearText t.year ++ "-" ++ padded 2 t.month ++ "-" ++ padded 2 t.day ++ "T" ++
    padded 2 t.hour ++ ":" ++ padded 2 t.minute ++ ":" ++ padded 2 t.second ++ "Z"

/-- The text from its first character that is not white. -/
def trimStart (text : List Char) : List Char :=
  text.dropWhile Text.isWhite

/-- A number of one digit up to a greatest number of digits. -/
def takeNumber (width : Nat) (text : List Char) : Except Error (Nat × List Char) :=
  let digits := (text.take width).takeWhile Char.isDigit
  match text, digits with
  | [], _ => .error .tooShort
  | _, [] => .error .invalid
  | _, _ =>
    .ok (digits.foldl (fun n c => n * 10 + (c.toNat - '0'.toNat)) 0, text.drop digits.length)

/-- A number inside a range, after blanks. -/
def takePart (width least greatest : Nat) (text : List Char) :
    Except Error (Nat × List Char) := do
  let (n, rest) ← takeNumber width (trimStart text)
  if least ≤ n ∧ n ≤ greatest then return (n, rest) else throw .outOfRange

/-- A year: up to four digits, or a sign and any number of digits; 32 bits hold it. -/
def takeYear (text : List Char) : Except Error (Int × List Char) := do
  let (year, rest) ←
    match trimStart text with
    | '-' :: rest => (takeNumber rest.length rest).map fun (n, rest) => (-(n : Int), rest)
    | '+' :: rest => (takeNumber rest.length rest).map fun (n, rest) => ((n : Int), rest)
    | text => (takeNumber 4 text).map fun (n, rest) => ((n : Int), rest)
  if year < -2147483648 ∨ 2147483647 < year then throw .outOfRange
  return (year, rest)

/-- A given character, after blanks. -/
def takeMark (mark : Char) (text : List Char) : Except Error (List Char) :=
  match trimStart text with
  | [] => .error .tooShort
  | c :: rest => if c = mark then .ok rest else .error .invalid

/-- Two digits. A text of a single byte is too short for them. -/
def takeTwoDigits : List Char → Except Error (Nat × List Char)
  | a :: b :: rest =>
    if a.isDigit ∧ b.isDigit then
      .ok ((a.toNat - '0'.toNat) * 10 + (b.toNat - '0'.toNat), rest)
    else .error .invalid
  | [a] => .error (if a.utf8Size = 1 then .tooShort else .invalid)
  | [] => .error .tooShort

/-- The minutes of an offset after its sign: hours, colons or blanks, minutes. -/
def takeOffsetMinutes (text : List Char) : Except Error (Nat × List Char) := do
  let (hours, rest) ← takeTwoDigits text
  let (minutes, rest) ← takeTwoDigits (rest.dropWhile fun c => c = ':' || Text.isWhite c)
  if 59 < minutes then throw .outOfRange
  return (hours * 60 + minutes, rest)

/-- An offset from universal time in minutes. -/
def takeOffset : List Char → Except Error (Int × List Char)
  | [] => .error .tooShort
  | 'Z' :: rest | 'z' :: rest => .ok (0, rest)
  | c :: rest =>
    if (c :: rest).take 3 |>.map Char.toUpper |> (· == ['U', 'T', 'C']) then
      .ok (0, rest.drop 2)
    else if c = '+' then
      (takeOffsetMinutes rest).map fun (n, rest) => ((n : Int), rest)
    else if c = '-' ∨ c = '\u2212' then
      (takeOffsetMinutes rest).map fun (n, rest) => (-(n : Int), rest)
    else .error .invalid

/-- The text after a fraction of a second, if there is one. -/
def dropFraction : List Char → Except Error (List Char)
  | '.' :: rest => do
    let _ ← takeNumber 9 rest
    return rest.dropWhile Char.isDigit
  | rest => .ok rest

/-- The mark between date and time. -/
def takeSeparator : List Char → Except Error (List Char)
  | [] => .error .tooShort
  | c :: rest => if c = 'T' ∨ c = 't' ∨ c = ' ' then .ok rest else .error .invalid

/-- Whether a year is one of those that there are. -/
def isYear (year : Int) : Bool :=
  -262143 ≤ year && year ≤ 262142

/-- The timestamp that a text stands for. -/
def ofText (text : String) : Except Error Timestamp := do
  let (year, rest) ← takeYear text.toList
  let (month, rest) ← takePart 2 1 12 (← takeMark '-' rest)
  let (day, rest) ← takePart 2 1 31 (← takeMark '-' rest)
  let (hour, rest) ← takePart 2 0 23 (← takeSeparator rest)
  let (minute, rest) ← takePart 2 0 59 (← takeMark ':' rest)
  let (second, rest) ← takePart 2 0 60 (← takeMark ':' rest)
  let (offset, rest) ← takeOffset (trimStart (← dropFraction rest))
  if trimStart rest ≠ [] then throw .tooLong
  if daysInMonth year month < day then throw .outOfRange
  if !isYear year || 1440 ≤ offset.natAbs then throw .outOfRange
  let t := minusMinutes { year, month, day, hour, minute, second } offset
  if isYear t.year then return t else throw .impossible

end Timestamp

end Ingress
