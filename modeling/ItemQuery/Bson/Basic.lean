import ItemQuery.Assoc
import ItemQuery.Double
import ItemQuery.Json.Basic
import ItemQuery.Text.Digits

/-!
# `Bson.Basic` — the values of the document store

Records and queries are documents: ordered lists of keys with values, in which a key stands once. Types of
values that records and queries of items do not use are not told apart: of such a value only its text and its
JSON are known.

## Contents
- `ObjectId`, `OtherValue`, `Bson`, `Document`.
- `ObjectId.hex`, `ObjectId.ofHex?`: object ids as text.
-/

namespace ItemQuery

/-- The twelve bytes of an object id. -/
structure ObjectId where
  bytes : Vector UInt8 12
  deriving DecidableEq

/-- A value that is known by its text and its JSON. -/
structure OtherValue where
  text : String
  json : Json

/-- A value of the document store. -/
inductive Bson where
  | null
  | bool (b : Bool)
  | int32 (n : Int32)
  | int64 (n : Int64)
  | double (x : Double)
  | string (s : String)
  | objectId (id : ObjectId)
  /-- A point in time, in milliseconds since the beginning of 1970 in UTC. -/
  | date (ms : Int64)
  | array (items : List Bson)
  | document (entries : List (String × Bson))
  /-- Binary data, a regular expression, a decimal of 128 bits and so on. -/
  | other (v : OtherValue)

/-- An ordered document. -/
abbrev Document := List (String × Bson)

namespace ObjectId

/-- The two digits of a byte. -/
def byteDigits (b : UInt8) : List Char := [Nat.digitChar (b.toNat / 16), Nat.digitChar (b.toNat % 16)]

/-- The id as 24 hexadecimal digits in lower case. -/
def hex (id : ObjectId) : String := String.ofList (id.bytes.toList.flatMap byteDigits)

/-- The bytes that pairs of digits stand for. -/
def bytesOfDigits : List Char → Option (List UInt8)
  | [] => some []
  | [_] => none
  | a :: b :: rest => do
    let n := (← Text.hexValue? a) * 16 + (← Text.hexValue? b)
    return UInt8.ofNat n :: (← bytesOfDigits rest)

/-- The id that 24 hexadecimal digits stand for. -/
def ofHex? (s : String) : Option ObjectId := do
  let bytes := (← bytesOfDigits s.toList).toArray
  if h : bytes.size = 12 then some ⟨⟨bytes, h⟩⟩ else none

end ObjectId

end ItemQuery
