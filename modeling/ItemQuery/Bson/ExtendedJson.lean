import ItemQuery.Bson.Basic
import ItemQuery.Calendar
import ItemQuery.Json.Basic
import ItemQuery.Json.Source

/-!
# `Bson.ExtendedJson` — documents as JSON

In relaxed extended JSON a value that JSON has is written as itself, and a value that JSON lacks as an object
whose key names its type: `{"$oid": …}`, `{"$date": …}`, `{"$numberDouble": "NaN"}`.

## Contents
- `Bson.toJson`: values as JSON.
- `Bson.ofNode?`, `Bson.documentOfNode?`: values and documents from the structure of a JSON text.
-/

namespace ItemQuery

open Decimal (Magnitude isNegative)
open Json (Node Number)
open Text (integerOfText?)

namespace Bson

/-! ## Writing -/

/-- A double; the values that JSON lacks are named. -/
def doubleJson : Double → Json
  | .negativeNaN => .object [("$numberDouble", .string "-NaN")]
  | .ofFloat x =>
    match Magnitude.ofFloat x with
    | .finite _ => .float x
    | .notANumber => .object [("$numberDouble", .string "NaN")]
    | .infinite =>
      .object [("$numberDouble", .string (if isNegative x then "-Infinity" else "Infinity"))]

/-- A point in time: a date in the years from 1970 to 9999, a number of milliseconds otherwise. -/
def dateJson (ms : Int64) : Json :=
  let t := Timestamp.ofMillis ms.toInt
  if 0 ≤ ms.toInt && t.year ≤ 9999 then .object [("$date", .string t.rfc3339)]
  else .object [("$date", .object [("$numberLong", .string ms.toInt.repr)])]

mutual

/-- A value as relaxed extended JSON. -/
def toJson : Bson → Json
  | null => .null
  | bool b => .bool b
  | int32 n => .int n.toInt
  | int64 n => .int n.toInt
  | double x => doubleJson x
  | string s => .string s
  | objectId id => .object [("$oid", .string id.hex)]
  | date ms => dateJson ms
  | array items => .array (itemsJson items)
  | document entries => .object (entriesJson entries)
  | other v => v.json

/-- Items as JSON. -/
def itemsJson : List Bson → List Json
  | [] => []
  | v :: vs => v.toJson :: itemsJson vs

/-- Entries as members. -/
def entriesJson : List (String × Bson) → List (String × Json)
  | [] => []
  | (k, v) :: es => (k, v.toJson) :: entriesJson es

end

/-! ## Reading -/

/-- The value of an object whose one key names a type. -/
def typed? (key : String) (v : Bson) : Option Bson :=
  match v with
  | string s =>
    if key = "$oid" then (ObjectId.ofHex? s).map objectId
    else if key = "$date" then (Timestamp.millisOfText? s).map fun ms => date (Int64.ofInt ms)
    else if key = "$numberLong" then
      (integerOfText? (-Int.pow 2 63) (Int.pow 2 63 - 1) s).map fun n => int64 (Int64.ofInt n)
    else if key = "$numberInt" then
      (integerOfText? (-Int.pow 2 31) (Int.pow 2 31 - 1) s).map fun n => int32 (Int32.ofInt n)
    else if key = "$numberDouble" then (Double.ofText? s).map double
    else none
  | int64 n => if key = "$date" then some (date n) else none
  | _ => none

/-- A number: an integer is as narrow as it can be, anything else is a double. -/
def ofNumber : Number → Bson
  | .int n =>
    if -Int.pow 2 31 ≤ n && n < Int.pow 2 31 then int32 (Int32.ofInt n)
    else if -Int.pow 2 63 ≤ n && n < Int.pow 2 63 then int64 (Int64.ofInt n)
    else double (.ofFloat (Float.ofInt n))
  | .float x => double (.ofFloat x)

mutual

/-- The value of a node in extended JSON. A key given twice has its later value. -/
def ofNode? : Node → Option Bson
  | .null => some null
  | .bool b => some (bool b)
  | .number l => l.number.map ofNumber
  | .string s => s.map string
  | .array items _ => (itemsOfNodes? items).map array
  | .object members _ => do
    let entries ← entriesOfNodes? [] members
    match entries with
    | [(key, v)] => return (typed? key v).getD (document entries)
    | _ => return document entries
  | .broken => none

/-- The values of nodes. -/
def itemsOfNodes? : List Node → Option (List Bson)
  | [] => some []
  | n :: ns => do
    let v ← ofNode? n
    return v :: (← itemsOfNodes? ns)

/-- The entries of members, after those before them. -/
def entriesOfNodes? : Document → List (Option String × Node) → Option Document
  | acc, [] => some acc
  | acc, (k, n) :: ms => do
    let v ← ofNode? n
    entriesOfNodes? (Assoc.set (← k) v acc) ms

end

/-- The document of an object, whose own keys name no type. -/
def documentOfNode? : Node → Option Document
  | .object members _ => entriesOfNodes? [] members
  | _ => none

end Bson

/-- A document as relaxed extended JSON. -/
def documentJson (d : Document) : Json := (Bson.document d).toJson

end ItemQuery
