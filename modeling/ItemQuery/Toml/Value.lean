import ItemQuery.Calendar

/-!
# `Toml.Value` — the values of a configuration text

## Contents
- `DateTime`, `DateTime.text`: dates and times in their canonical form.
- `Value`: all values; a table keeps the order of its entries.
-/

namespace ItemQuery.Toml

/-- A day of the calendar. -/
structure Date where
  year : Nat
  month : Nat
  day : Nat
  deriving DecidableEq, Repr

/-- A time of day; the second may be 60. -/
structure Time where
  hour : Nat
  minute : Nat
  second : Nat
  nanosecond : Nat
  deriving DecidableEq, Repr

/-- The distance from UTC. -/
inductive Zone where
  | utc
  | minutes (n : Int)
  deriving DecidableEq, Repr

/-- A date, a time, or both with or without a zone. -/
structure DateTime where
  date : Option Date
  time : Option Time
  zone : Option Zone
  deriving DecidableEq, Repr

/-- A value. -/
inductive Value where
  | string (s : String)
  | integer (n : Int)
  | float (x : Float)
  | boolean (b : Bool)
  | dateTime (d : DateTime)
  | array (items : List Value)
  | table (entries : List (String × Value))

/-! ## Canonical dates and times -/

open Timestamp (padded)

/-- A date with dashes. -/
def Date.text (d : Date) : String := padded 4 d.year ++ "-" ++ padded 2 d.month ++ "-" ++ padded 2 d.day

/-- A time with colons; a fraction without trailing zeros. -/
def Time.text (t : Time) : String :=
  let fraction := String.ofList ((padded 9 t.nanosecond).toList.reverse.dropWhile (· == '0')).reverse
  padded 2 t.hour ++ ":" ++ padded 2 t.minute ++ ":" ++ padded 2 t.second ++
    if t.nanosecond = 0 then "" else "." ++ fraction

/-- A zone as a letter or a signed distance. -/
def Zone.text : Zone → String
  | utc => "Z"
  | minutes n =>
    (if n < 0 then "-" else "+") ++ padded 2 (n.natAbs / 60) ++ ":" ++ padded 2 (n.natAbs % 60)

/-- The canonical text, with a `T` between date and time. -/
def DateTime.text (d : DateTime) : String :=
  let date := (d.date.map Date.text).getD ""
  let time := (d.time.map Time.text).getD ""
  let separator := if d.date.isSome && d.time.isSome then "T" else ""
  date ++ separator ++ time ++ (d.zone.map Zone.text).getD ""

end ItemQuery.Toml
