/-!
# `Calendar` — points in time as calendar dates

A point in time is a number of milliseconds since the beginning of 1970 in UTC. The calendar is the Gregorian
one, taken back without end, and days have 86400 seconds.

## Contents
- `Timestamp`, `Timestamp.ofMillis`, `Timestamp.toMillis`: the calendar.
- `Timestamp.rfc3339`, `Timestamp.display`: two texts for a point in time.
- `Timestamp.isShown`: the years that are shown as dates.
- `Timestamp.millisOfText?`: reading an RFC 3339 date.
-/

namespace ItemQuery

/-- A point in time as a date and a time of day in UTC. -/
structure Timestamp where
  year : Int
  month : Nat
  day : Nat
  hour : Nat
  minute : Nat
  second : Nat
  millisecond : Nat
  deriving DecidableEq, Repr

namespace Timestamp

/-! ## The calendar -/

/-- The number of days from the beginning of 1970 to a date. The year is counted from March, so that a leap
    day is the last of its year; 400 such years have 146097 days. -/
def daysOfDate (year : Int) (month day : Nat) : Int :=
  let y := if month ≤ 2 then year - 1 else year
  let era := Int.fdiv y 400
  let yearOfEra := y - era * 400
  let dayOfYear : Int := (153 * ((month + 9) % 12) + 2) / 5 + day - 1
  let dayOfEra := yearOfEra * 365 + yearOfEra / 4 - yearOfEra / 100 + dayOfYear
  era * 146097 + dayOfEra - 719468

/-- The date that lies a number of days after the beginning of 1970. -/
def dateOfDays (days : Int) : Int × Nat × Nat :=
  let z := days + 719468
  let era := Int.fdiv z 146097
  let dayOfEra := (z - era * 146097).toNat
  let yearOfEra := (dayOfEra - dayOfEra / 1460 + dayOfEra / 36524 - dayOfEra / 146096) / 365
  let dayOfYear := dayOfEra - (365 * yearOfEra + yearOfEra / 4 - yearOfEra / 100)
  let m := (5 * dayOfYear + 2) / 153
  let day := dayOfYear - (153 * m + 2) / 5 + 1
  let month := if m < 10 then m + 3 else m - 9
  let year := era * 400 + yearOfEra
  (if month ≤ 2 then year + 1 else year, month, day)

/-- The date and time of a point in time. -/
def ofMillis (ms : Int) : Timestamp :=
  let days := Int.fdiv ms 86400000
  let rest := (ms - days * 86400000).toNat
  let (year, month, day) := dateOfDays days
  { year, month, day,
    hour := rest / 3600000, minute := rest / 60000 % 60, second := rest / 1000 % 60,
    millisecond := rest % 1000 }

/-- The point in time of a date and time. -/
def toMillis (t : Timestamp) : Int :=
  daysOfDate t.year t.month t.day * 86400000 +
    (t.hour * 3600000 + t.minute * 60000 + t.second * 1000 + t.millisecond : Nat)

/-! ## Texts -/

/-- Digits with zeros in front up to a width. -/
def padded (width n : Nat) : String :=
  let ds := Nat.toDigits 10 n
  String.ofList (List.replicate (width - ds.length) '0' ++ ds)

/-- Thousandths without trailing zeros; none at all for zero. -/
def fraction (ms : Nat) : String :=
  let ds := (padded 3 ms).toList
  String.ofList (ds.reverse.dropWhile (· == '0')).reverse

/-- The year in four digits or more, with a sign if it is not one of those from 0 to 9999. -/
def yearText (year : Int) : String :=
  (if year < 0 then "-" else if 9999 < year then "+" else "") ++ padded 4 year.natAbs

/-- The date with dashes. -/
def dateText (t : Timestamp) : String :=
  yearText t.year ++ "-" ++ padded 2 t.month ++ "-" ++ padded 2 t.day

/-- Whether the year has at most six digits. A point in time beyond is shown by its milliseconds. -/
def isShown (t : Timestamp) : Bool := t.year.natAbs ≤ 999999

/-- The RFC 3339 text in UTC, with a fraction of a second only if there is one. -/
def rfc3339 (t : Timestamp) : String :=
  t.dateText ++ "T" ++ padded 2 t.hour ++ ":" ++ padded 2 t.minute ++ ":" ++ padded 2 t.second ++
    (if t.millisecond = 0 then "" else "." ++ fraction t.millisecond) ++ "Z"

/-- The text in messages and ids: the hour is not padded, the fraction has at least one digit. -/
def display (t : Timestamp) : String :=
  t.dateText ++ " " ++ t.hour.repr ++ ":" ++ padded 2 t.minute ++ ":" ++ padded 2 t.second ++ "." ++
    (if t.millisecond = 0 then "0" else fraction t.millisecond) ++ " +00:00:00"

/-! ## Reading -/

/-- The number of days of a month. -/
def daysInMonth (year : Int) (month : Nat) : Nat :=
  if month = 2 then
    if year % 4 = 0 && (year % 100 != 0 || year % 400 = 0) then 29 else 28
  else if month = 4 || month = 6 || month = 9 || month = 11 then 30
  else 31

/-- Exactly so many digits. -/
def takeNumber (width : Nat) (s : List Char) : Option (Nat × List Char) :=
  let ds := s.take width
  if ds.length = width && ds.all Char.isDigit then some (Nat.ofDigitChars 10 ds 0, s.drop width) else none

/-- One given character. -/
def takeChar (cs : List Char) : List Char → Option (List Char)
  | c :: rest => if cs.contains c then some rest else none
  | [] => none

/-- An offset from UTC in minutes. -/
def takeOffset : List Char → Option (Int × List Char)
  | 'Z' :: rest => some (0, rest)
  | 'z' :: rest => some (0, rest)
  | sign :: rest => do
    let sign ← if sign = '+' then some 1 else if sign = '-' then some (-1 : Int) else none
    let (h, rest) ← takeNumber 2 rest
    let rest ← takeChar [':'] rest
    let (m, rest) ← takeNumber 2 rest
    if h < 24 && m < 60 then some (sign * (h * 60 + m : Nat), rest) else none
  | [] => none

/-- Any ASCII character, which may stand between the date and the time. -/
def takeSeparator : List Char → Option (List Char)
  | c :: rest => if c.toNat < 0x80 then some rest else none
  | [] => none

/-- A fraction of a second in nanoseconds, if there is one; digits beyond the ninth are dropped. -/
def takeFraction : List Char → Option (Nat × List Char)
  | '.' :: rest =>
    let ds := rest.takeWhile Char.isDigit
    if ds = [] then none
    else some (Nat.ofDigitChars 10 ((ds ++ List.replicate 8 '0').take 9) 0, rest.dropWhile Char.isDigit)
  | s => some (0, s)

/-- Whether a month begins at a point in time. -/
def beginsMonth (t : Timestamp) : Bool :=
  t.day = 1 && t.hour = 0 && t.minute = 0 && t.second = 0 && t.millisecond = 0

/-- The milliseconds that seconds and nanoseconds make together, cut toward the beginning of 1970. -/
def cutToMillis (seconds : Int) (nanoseconds : Nat) : Int :=
  (seconds * 1000000000 + nanoseconds).tdiv 1000000

/-- The milliseconds that an RFC 3339 text stands for. A leap second may stand only at the end of a month in
    UTC, and counts as the last nanosecond before it. -/
def millisOfText? (s : String) : Option Int := do
  let (year, s) ← takeNumber 4 s.toList
  let s ← takeChar ['-'] s
  let (month, s) ← takeNumber 2 s
  let s ← takeChar ['-'] s
  let (day, s) ← takeNumber 2 s
  let s ← takeSeparator s
  let (hour, s) ← takeNumber 2 s
  let s ← takeChar [':'] s
  let (minute, s) ← takeNumber 2 s
  let s ← takeChar [':'] s
  let (second, s) ← takeNumber 2 s
  let (nanosecond, s) ← takeFraction s
  let (offset, s) ← takeOffset s
  guard (s = [] && 1 ≤ month && month ≤ 12 && 1 ≤ day && day ≤ daysInMonth year month &&
    hour < 24 && minute < 60 && second ≤ 60)
  let t : Timestamp := { year, month, day, hour, minute, second := min second 59, millisecond := 0 }
  let seconds := t.toMillis / 1000 - offset * 60
  if second ≤ 59 then return cutToMillis seconds nanosecond
  else if (ofMillis ((seconds + 1) * 1000)).beginsMonth then return cutToMillis seconds 999999999
  else none

end Timestamp

end ItemQuery
