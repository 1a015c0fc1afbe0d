/-!
# `Content` — values that are kept before they are read

Where it is not known yet who reads a value, be it that several readers are tried on it or that it belongs to a record
that others are read beside, the value is first kept as it is. What is kept forgets the format that the value came
from: numbers have their kind and texts their characters, and a record is a list or a map. The readers of kept values
are of their own, and are not always those of the format.

## Contents
- `Content`, `Content.ofInt`: values that are kept.
- `Content.bool?`, `Content.int64?`, `Content.natural?`, `Content.float?`, `Content.string?`: the readers of scalars.
- `Content.entries?`, `Content.record?`: tables and records.
-/

namespace ItemQuery

/-- A value that is kept. -/
inductive Content where
  | null
  | bool (b : Bool)
  /-- A number that a format gives without a sign. -/
  | unsigned (n : Nat)
  | signed (n : Int)
  | float (x : Float)
  | string (s : String)
  | list (items : List Content)
  | map (entries : List (String × Content))

namespace Content

/-- An integer as it is kept: only one below zero has a sign. -/
def ofInt (n : Int) : Content := if 0 ≤ n then unsigned n.toNat else signed n

/-! ## Scalars -/

/-- A boolean. -/
def bool? : Content → Option Bool
  | bool b => some b
  | _ => none

/-- An integer, with a sign or without. -/
def integer? : Content → Option Int
  | unsigned n => some n
  | signed n => some n
  | _ => none

/-- An integer between two bounds. -/
def integerWithin? (least greatest : Int) (c : Content) : Option Int :=
  c.integer?.filter fun n => least ≤ n && n ≤ greatest

/-- A signed 64-bit integer. -/
def int64? (c : Content) : Option Int64 := (c.integerWithin? (-Int.pow 2 63) (Int.pow 2 63 - 1)).map Int64.ofInt

/-- A natural number of so many bits. -/
def natural? (bits : Nat) (c : Content) : Option Nat := (c.integerWithin? 0 (Int.pow 2 bits - 1)).map Int.toNat

/-- A double; an integer is taken to the nearest one. -/
def float? : Content → Option Float
  | float x => some x
  | c => c.integer?.map Float.ofInt

/-- A text. -/
def string? : Content → Option String
  | string s => some s
  | _ => none

/-! ## Tables and records -/

/-- The entries of a map. -/
def entries? : Content → Option (List (String × Content))
  | map entries => some entries
  | _ => none

/-- The entries of a record with these fields. A list has the fields in their order and may leave out some at its
    end, but has no other items. -/
def record? (fields : List String) : Content → Option (List (String × Content))
  | list items => if fields.length < items.length then none else some (fields.zip items)
  | c => c.entries?

end Content

end ItemQuery
