import ItemQuery.Predicate.Basic
import ItemQuery.Json.Decode

/-!
# `Predicate.Json` — predicates and operands as JSON

A predicate is one object: the anchor if there is one, then path, kind of condition and value of its clause.
An operand is a bare value; integers and doubles stay apart because a double always has a point or an
exponent.

## Contents
- `Operand.toJson`, `Clause.toJson`, `Predicate.toJson`, `predicatesJson`.
- `Operand.readers`, `Operand.read`: an operand from JSON.
-/

namespace ItemQuery

open Json (Decoder)

/-- An operand as a bare value. -/
def Operand.toJson : Operand → Json
  | bool b => .bool b
  | int n => .int n.toInt
  | float x => .float x.toFloat
  | text s => .string s

/-- What a condition compares with; presence compares with nothing. -/
def Condition.valueJson : Condition → Option Json
  | equals v => some v.toJson
  | contains s => some (.string s)
  | atLeast v => some v.toJson
  | atMost v => some v.toJson
  | between lo hi => some (.object [("gte", lo.toJson), ("lte", hi.toJson)])
  | oneOf ns => some (.array (ns.map fun n => .int n.toInt))
  | present => none

/-- The members that describe a clause. -/
def Clause.members (c : Clause) : List (String × Json) :=
  [("path", .string c.path.text), ("op", .string c.condition.name)] ++
    (c.condition.valueJson.map fun v => ("value", v)).toList

/-- A clause as an object. -/
def Clause.toJson (c : Clause) : Json := .object c.members

/-- A predicate as an object. -/
def Predicate.toJson (p : Predicate) : Json :=
  .object ((p.anchor.map fun a => ("anchor", a.toJson)).toList ++ p.clause.members)

/-- A list of predicates as an array. -/
def predicatesJson (ps : List Predicate) : Json := .array (ps.map Predicate.toJson)

/-- The readers of the kinds of operands, in the order in which they are tried. -/
def Operand.readers : List (Content → Option Operand) := [
  fun c => c.bool?.map .bool,
  fun c => c.int64?.map .int,
  fun c => c.float?.map .ofFloat,
  fun c => c.string?.map .text]

/-- Read an operand. Its kind is not written, so that each is tried. -/
def Operand.read : Decoder Operand := Json.untagged? "FilterValue" Operand.readers

end ItemQuery
