/-!
# Timestamps

Points in time to the nanosecond, read from texts such as `2024-03-01T10:15:30.120+0100` and
written in UTC. Days are counted in the proleptic Gregorian calendar.
-/

namespace IssueTracker

/-- Nanoseconds since the start of 1970 in UTC, without leap seconds. -/
structure Timestamp where
  nanoseconds : Int
  deriving DecidableEq, Inhabited

namespace Timestamp

/-! ## Calendar -/

/-- Whether a year has a leap day. -/
def isLeap (year : Int) : Bool := year % 4 = 0 && (year % 100 != 0 || year % 400 = 0)

/-- The number of days of a month. -/
def daysInMonth (year : Int) (month : Nat) : Nat :=
  if month = 2 then (if isLeap year then 29 else 28)
  else if month = 4 || month = 6 || month = 9 || month = 11 then 30
  else 31

/-- Days from the start of 1970 to a date. Years are counted from March, so that the leap day
ends them. -/
def daysFromCivil (year : Int) (month day : Nat) : Int :=
  let y := if month ≤ 2 then year - 1 else year
  let m : Int := (month + 9) % 12
  let dayOfYear := (153 * m + 2) / 5 + day - 1
  365 * y + y / 4 - y / 100 + y / 400 + dayOfYear - 719468

/-- A date. -/
structure Civil where
  year : Int
  month : Nat
  day : Nat
  deriving DecidableEq

/-- The date a number of days after the start of 1970. -/
def civilFromDays (days : Int) : Civil :=
  let z := days + 719468
  let era := z / 146097
  let dayOfEra := z % 146097
  let yearOfEra := (dayOfEra - dayOfEra / 1460 + dayOfEra / 36524 - dayOfEra / 146096) / 365
  let dayOfYear := dayOfEra - (365 * yearOfEra + yearOfEra / 4 - yearOfEra / 100)
  let m := (5 * dayOfYear + 2) / 153
  let day := dayOfYear - (153 * m + 2) / 5 + 1
  let month := if m < 10 then m + 3 else m - 9
  ⟨yearOfEra + era * 400 + (if month ≤ 2 then 1 else 0), month.toNat, day.toNat⟩

/-! ## Writing -/

/-- A number with zeros in front, up to a width. -/
def padded (width n : Nat) : String :=
  let ds := Nat.toDigits 10 n
  String.ofList (List.replicate (width - ds.length) '0' ++ ds)

/-- A fraction of a second without trailing zeros, with its point. -/
def renderFraction (nanos : Nat) : String :=
  if nanos = 0 then ""
  else
    let ds := (padded 9 nanos).toList
    "." ++ String.ofList (ds.reverse.dropWhile (· = '0')).reverse

/-- A year: four digits, or a sign and six digits below zero. -/
def renderYear (year : Int) : String :=
  if year < 0 then "-" ++ padded 6 year.natAbs else padded 4 year.natAbs

/-- The text of a point in time, in UTC. -/
def render (t : Timestamp) : String :=
  let seconds := t.nanoseconds / 1000000000
  let nanos := (t.nanoseconds % 1000000000).toNat
  let date := civilFromDays (seconds / 86400)
  let time := (seconds % 86400).toNat
  renderYear date.year ++ "-" ++ padded 2 date.month ++ "-" ++ padded 2 date.day ++ "T" ++
    padded 2 (time / 3600) ++ ":" ++ padded 2 (time / 60 % 60) ++ ":" ++ padded 2 (time % 60) ++
    renderFraction nanos ++ "Z"

/-! ## Reading -/

/-- Whether a character may stand before a number. -/
def isGap (c : Char) : Bool := c = ' ' || c = '\t' || c = '\n' || c = '\r' || c = '\x0c'

/-- The value of decimal digits. -/
def digitsValue (cs : List Char) : Nat := cs.foldl (fun n c => n * 10 + (c.toNat - '0'.toNat)) 0

/-- The digits ahead, at most `width` of them. -/
def spanDigits (width : Nat) (cs : List Char) : List Char × List Char :=
  let ds := (cs.take width).takeWhile Char.isDigit
  (ds, cs.drop ds.length)

/-- A number of one to `width` digits, perhaps after blanks. -/
def number (width : Nat) (cs : List Char) : Option (Nat × List Char) :=
  match spanDigits width (cs.dropWhile isGap) with
  | ([], _) => none
  | (ds, rest) => some (digitsValue ds, rest)

/-- A number between bounds. -/
def numberWithin (width low high : Nat) (cs : List Char) : Option (Nat × List Char) :=
  (number width cs).filter fun (n, _) => low ≤ n && n ≤ high

/-- One given character. -/
def expect (c : Char) : List Char → Option (List Char)
  | d :: rest => if c = d then some rest else none
  | [] => none

/-- A year of one to four digits, perhaps signed. -/
def year (cs : List Char) : Option (Int × List Char) :=
  match cs with
  | '-' :: rest => (number 4 rest).map fun (n, rest) => (-n, rest)
  | '+' :: rest => (number 4 rest).map fun (n, rest) => (n, rest)
  | _ => (number 4 cs).map fun (n, rest) => (n, rest)

/-- An optional fraction of a second with one to nine digits, in nanoseconds. -/
def fraction : List Char → Option (Nat × List Char)
  | '.' :: rest =>
    match spanDigits 9 rest with
    | ([], _) => none
    | (ds, rest) => some (digitsValue ds * Nat.pow 10 (9 - ds.length), rest)
  | cs => some (0, cs)

/-- Two digits up to a bound. -/
def twoDigits (high : Nat) : List Char → Option (Nat × List Char)
  | a :: b :: rest =>
    if a.isDigit && b.isDigit && digitsValue [a, b] ≤ high then some (digitsValue [a, b], rest)
    else none
  | _ => none

/-- Two digits of seconds, if two digits are ahead. -/
def offsetSeconds (cs : List Char) : Option (Nat × List Char) :=
  match cs with
  | a :: b :: _ => if a.isDigit && b.isDigit then twoDigits 59 cs else some (0, cs)
  | _ => some (0, cs)

/-- An offset from UTC in seconds: a sign, hours, minutes and perhaps seconds. -/
def offset (cs : List Char) : Option (Int × List Char) := do
  let (sign, rest) ← match cs with
    | '+' :: rest => some (1, rest)
    | '-' :: rest => some (-1, rest)
    | _ => none
  let (hours, rest) ← twoDigits 25 rest
  let (minutes, rest) ← twoDigits 59 rest
  let (seconds, rest) ← offsetSeconds rest
  return (sign * ((hours * 3600 + minutes * 60 + seconds : Nat) : Int), rest)

/-- The first second that is representable. -/
def minSecond : Int := -377705023201

/-- The last second that is representable. -/
def maxSecond : Int := 253402207200

/-- The point in time that a text names, if it is a valid and representable one. A leap second
counts as the second before it. -/
def parse? (text : String) : Option Timestamp := do
  let (year, rest) ← year text.toList
  let rest ← expect '-' rest
  let (month, rest) ← numberWithin 2 1 12 rest
  let rest ← expect '-' rest
  let (day, rest) ← numberWithin 2 1 31 rest
  let rest ← expect 'T' rest
  let (hour, rest) ← numberWithin 2 0 23 rest
  let rest ← expect ':' rest
  let (minute, rest) ← numberWithin 2 0 59 rest
  let rest ← expect ':' rest
  let (second, rest) ← numberWithin 2 0 60 rest
  let (nanos, rest) ← fraction rest
  let (shift, rest) ← offset rest
  if rest ≠ [] ∨ daysInMonth year month < day then none
  else
    let time : Int := (hour * 3600 + minute * 60 + min second 59 : Nat)
    let seconds := daysFromCivil year month day * 86400 + time - shift
    if minSecond ≤ seconds ∧ seconds ≤ maxSecond then some ⟨seconds * 1000000000 + nanos⟩
    else none

end Timestamp

end IssueTracker
