import ItemQuery.Currency.Table
import ItemQuery.Json.Decode

/-!
# `Currency.Json` — currency tables as JSON objects

A table is one object with a member for each entry, in order. In a text that is read a name may stand twice;
the later code wins.
-/

namespace ItemQuery.Currency

open Json (Decoder ReadError Node string?)

/-- Pairs of texts as the members of an object. -/
def pairsJson (pairs : List (String × String)) : Json :=
  .object (pairs.map fun (name, code) => (name, .string code))

/-- A table as an object. -/
def Table.toJson (t : Table) : Json := pairsJson t.entries

/-- Walk the members of an object whose values are strings. -/
def readPairs (closed : Bool) : List (Option String × Node) → Except ReadError (List (String × String))
  | [] => if closed then .ok [] else .error .notJson
  | (none, _) :: _ => .error .notJson
  | (some name, v) :: ms => do
    let code ← string? v
    return (name, code) :: (← readPairs closed ms)

/-- Read a table. -/
def Table.read : Decoder Table
  | .object members closed => Table.ofPairs <$> readPairs closed members
  | n => n.mismatch "a map"

end ItemQuery.Currency
