import ItemQuery.Content
import ItemQuery.Toml.Reader

/-!
# `Toml.Decode` — from the values of a text to values of a type

A record is read from a table by the names of its fields, or from an array by their order. Entries that it
does not know are ignored, like items behind the last field, and fields that are not given have their defaults, so a
value is refused only where it stands for a field of another type.

## Contents
- `Decoder` and the decoders of scalars.
- `Value.entries?`, `Value.record?`: tables and records; a field of one is read by `Assoc.field?`.
- `Value.content`: values as they are kept.
- `TextFault`, `decodeText`: a whole text.
-/

namespace ItemQuery.Toml

/-- A way to read a value of type `α`. -/
abbrev Decoder (α : Type) := Value → Option α

/-- The entries of a table. -/
abbrev Entries := List (String × Value)

/-! ## Scalars -/

/-- A string. -/
def text? : Decoder String
  | .string s => some s
  | _ => none

/-- A boolean. -/
def boolean? : Decoder Bool
  | .boolean b => some b
  | _ => none

/-- An integer between two bounds. -/
def integerWithin? (least greatest : Int) : Decoder Int
  | .integer n => if least ≤ n && n ≤ greatest then some n else none
  | _ => none

/-- A signed 64-bit integer. -/
def int64? : Decoder Int64 := fun v => (integerWithin? (-Int.pow 2 63) (Int.pow 2 63 - 1) v).map Int64.ofInt

/-- A natural number of so many bits. -/
def natural? (bits : Nat) : Decoder Nat := fun v => (integerWithin? 0 (Int.pow 2 bits - 1) v).map Int.toNat

/-! ## Tables and records -/

/-- The key under which a date or time stands where a table is wanted. -/
def dateTimeKey : String := "$__toml_private_datetime"

/-- The entries of a value as a table. A date or time is a table with its text as the only entry. -/
def Value.entries? : Value → Option Entries
  | .table entries => some entries
  | .dateTime d => some [(dateTimeKey, .string d.text)]
  | _ => none

/-- The entries of a value as a record with these fields. -/
def Value.record? (fields : List String) : Value → Option Entries
  | .array items => some (fields.zip items)
  | v => v.entries?

/-! ## Kept values -/

mutual

/-- A value as it is kept. Every integer has a sign, and a date or time is a map with its text. -/
def Value.content : Value → Content
  | .string s => .string s
  | .integer n => .signed n
  | .float x => .float x
  | .boolean b => .bool b
  | .dateTime d => .map [(dateTimeKey, .string d.text)]
  | .array items => .list (contents items)
  | .table entries => .map (entryContents entries)

/-- Items as they are kept. -/
def contents : List Value → List Content
  | [] => []
  | v :: vs => v.content :: contents vs

/-- Entries as they are kept. -/
def entryContents : Entries → List (String × Content)
  | [] => []
  | (name, v) :: es => (name, v.content) :: entryContents es

end

/-! ## Whole texts -/

/-- Why a text could not be read. -/
inductive TextFault where
  /-- The text is not TOML. -/
  | notToml
  /-- A value is not of the type that is wanted. -/
  | wrongType
  deriving DecidableEq, Repr

/-- The fault in words. -/
def TextFault.message : TextFault → String
  | notToml => "the text is not valid TOML"
  | wrongType => "a value has the wrong type"

/-- Read a text that holds the entries of a record. -/
def decodeText {α : Type} (d : Entries → Option α) (text : String) : Except TextFault α :=
  match parse? text with
  | none => .error .notToml
  | some entries =>
    match d entries with
    | some a => .ok a
    | none => .error .wrongType

end ItemQuery.Toml
