import ItemQuery.Bson.Basic
import ItemQuery.Calendar
import ItemQuery.Decimal.Layout

/-!
# `Bson.Display` — values as plain text

The text of a value where a text is wanted, such as an id. Texts inside arrays and documents stand in quotes
but without escapes.
-/

namespace ItemQuery

namespace Bson

/-- A point in time as a date, or by its milliseconds if it lies too far off. -/
def displayDate (ms : Int64) : String :=
  let t := Timestamp.ofMillis ms.toInt
  if t.isShown then t.display else ms.toInt.repr

mutual

/-- A value as text. -/
def display : Bson → String
  | null => "null"
  | bool b => if b then "true" else "false"
  | int32 n => n.toInt.repr
  | int64 n => n.toInt.repr
  | double x => Decimal.displayFloat x.toFloat
  | string s => "\"" ++ s ++ "\""
  | objectId id => "ObjectId(\"" ++ id.hex ++ "\")"
  | date ms => "DateTime(\"" ++ displayDate ms ++ "\")"
  | array items => "[" ++ displayItems true items ++ "]"
  | document entries => "\x7b" ++ displayEntries true entries ++ "\x7d"
  | other v => v.text

/-- Items with a comma before each but the first. -/
def displayItems : Bool → List Bson → String
  | _, [] => ""
  | first, v :: vs => (if first then "" else ", ") ++ v.display ++ displayItems false vs

/-- Entries with a comma before each but the first, and a blank at both ends if there are any. -/
def displayEntries : Bool → List (String × Bson) → String
  | first, [] => if first then "" else " "
  | first, (k, v) :: es =>
    (if first then " " else ", ") ++ "\"" ++ k ++ "\": " ++ v.display ++ displayEntries false es

end

end Bson

end ItemQuery
