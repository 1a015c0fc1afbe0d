import ItemQuery.Json.Basic
import ItemQuery.Json.Source
import ItemQuery.Text.Quoted

/-!
# `Json.Decode` — from the structure of a text to values of a type

A decoder takes a `Node` to a value or to the first problem on the way, in the order of the text. A text
that is not JSON and a value that does not fit are two kinds of problem; a broken node is always the former.

Records are read by a `RecordRule`, which lists the fields in order with all the names each answers to.
Reading has two parts: `entries` walks the members (or, for a record given as an array, the items) in the
order of the text and reports the first problem; after that the fields are looked up by name, so that the
order of the members cannot matter to the result.

## Contents
- `ReadError`, `ReadError.message`: what can be wrong.
- `Decoder` and the decoders of scalars, options and lists; `untagged?` tries several.
- `RecordField`, `RecordRule`, `RecordRule.entries`: records.
- `decodeText`: a whole text.
-/

namespace ItemQuery.Json

/-! ## Problems -/

/-- What stands where something else is wanted. -/
inductive Found where
  | null
  | bool (b : Bool)
  | number (n : Number)
  | string (s : String)
  | array
  | object
  deriving DecidableEq

/-- Why a text could not be read. -/
inductive ReadError where
  /-- The text is not JSON. -/
  | notJson
  /-- A value of the wrong type. -/
  | wrongType (found : Found) (wanted : String)
  /-- An integer that does not fit. -/
  | outOfRange (n : Int) (wanted : String)
  /-- A field that the record does not have. -/
  | unknownField (name : String) (known : List String)
  /-- A field that is named a second time. -/
  | duplicateField (name : String)
  /-- A record given as an array that is too short. -/
  | wrongLength (length : Nat) (wanted : String)
  /-- A value that none of the kinds of a type admits. -/
  | noVariant (type : String)
  deriving DecidableEq

/-- How a found value is named in a message. -/
def Found.describe : Found → String
  | .null => "null"
  | .bool b => "boolean `" ++ (if b then "true" else "false") ++ "`"
  | .number (.int n) => "integer `" ++ n.repr ++ "`"
  | .number (.float x) => "floating point `" ++ String.ofList (writeFloat x) ++ "`"
  | .string s => "string " ++ Text.quote s
  | .array => "sequence"
  | .object => "map"

/-- The choice of field names in a message. -/
def expectedOneOf : List String → String
  | [] => "there are no fields"
  | [a] => "expected `" ++ a ++ "`"
  | [a, b] => "expected `" ++ a ++ "` or `" ++ b ++ "`"
  | names => "expected one of " ++ ", ".intercalate (names.map fun n => "`" ++ n ++ "`")

/-- The wording of a problem; a text that is not JSON has none here. -/
def ReadError.message : ReadError → String
  | .notJson => "not JSON"
  | .wrongType found wanted => "invalid type: " ++ found.describe ++ ", expected " ++ wanted
  | .outOfRange n wanted => "invalid value: integer `" ++ n.repr ++ "`, expected " ++ wanted
  | .unknownField name known => "unknown field `" ++ name ++ "`, " ++ expectedOneOf known
  | .duplicateField name => "duplicate field `" ++ name ++ "`"
  | .wrongLength length wanted => "invalid length " ++ length.repr ++ ", expected " ++ wanted
  | .noVariant type => "data did not match any variant of untagged enum " ++ type

/-! ## Scalars, options, lists -/

/-- A way to read a value of type `α`. -/
abbrev Decoder (α : Type) := Node → Except ReadError α

/-- What a node is to someone who wants something else. An array or object is named without a look at what
    it holds; a scalar has to be readable itself. -/
def Node.found : Node → Except ReadError Found
  | .null => .ok .null
  | .bool b => .ok (.bool b)
  | .number l => match l.number with
    | some n => .ok (.number n)
    | none => .error .notJson
  | .string s => match s with
    | some s => .ok (.string s)
    | none => .error .notJson
  | .array _ _ => .ok .array
  | .object _ _ => .ok .object
  | .broken => .error .notJson

/-- The problem of a node that stands where `wanted` should. -/
def Node.mismatch {α : Type} (n : Node) (wanted : String) : Except ReadError α := do
  throw (.wrongType (← n.found) wanted)

/-- A boolean. -/
def bool? : Decoder Bool
  | .bool b => .ok b
  | n => n.mismatch "a boolean"

/-- A string. -/
def string? : Decoder String
  | .string (some s) => .ok s
  | n => n.mismatch "a string"

/-- An integer between two bounds. -/
def integer? (wanted : String) (least greatest : Int) : Decoder Int
  | .number l => match l.number with
    | some (.int n) => if least ≤ n && n ≤ greatest then .ok n else .error (.outOfRange n wanted)
    | _ => (Node.number l).mismatch wanted
  | n => n.mismatch wanted

/-- A signed 64-bit integer. -/
def int64? : Decoder Int64 := fun n => do
  return Int64.ofInt (← integer? "i64" (-Int.pow 2 63) (Int.pow 2 63 - 1) n)

/-- A natural number of so many bits. -/
def natural? (wanted : String) (bits : Nat) : Decoder Nat := fun n => do
  return (← integer? wanted 0 (Int.pow 2 bits - 1) n).toNat

/-- A double; an integer is taken to the nearest one. -/
def float? : Decoder Float
  | .number l => match l.number with
    | some (.int n) => .ok (Float.ofInt n)
    | some (.float x) => .ok x
    | none => .error .notJson
  | n => n.mismatch "f64"

/-- A value that may be absent, which is written `null`. -/
def option? {α : Type} (d : Decoder α) : Decoder (Option α)
  | .null => .ok none
  | n => some <$> d n

/-- A value of a type whose kinds are not told apart in the text. It is kept whole, up to the nesting that a text may
    have, and then read by the first of the readers that takes it. -/
def untagged? {α : Type} (type : String) (readers : List (Content → Option α)) : Decoder α := fun n =>
  match n.content? 127 with
  | none => .error .notJson
  | some c =>
    match readers.findSome? fun reader => reader c with
    | some a => .ok a
    | none => .error (.noVariant type)

/-- Items up to the end of an array. -/
def items? {α : Type} (d : Decoder α) (closed : Bool) : List Node → Except ReadError (List α)
  | [] => if closed then .ok [] else .error .notJson
  | v :: vs => do
    let a ← d v
    return a :: (← items? d closed vs)

/-- A list. -/
def list? {α : Type} (d : Decoder α) : Decoder (List α)
  | .array items closed => items? d closed items
  | n => n.mismatch "a sequence"

/-! ## Records -/

/-- A field of a record: its name, all the names it answers to in ascending order, how its value is read, and
    the value it has when it is not given. -/
structure RecordField (α : Type) where
  name : String
  names : List String
  read : Decoder α
  absent : α

/-- A field with one name. -/
def RecordField.plain {α : Type} (name : String) (read : Decoder α) (absent : α) : RecordField α :=
  ⟨name, [name], read, absent⟩

/-- A field as its record's rule sees it: the type of the value no longer shows. -/
structure FieldRule where
  name : String
  names : List String
  check : Node → Except ReadError Unit

/-- The rule of a field. -/
def RecordField.rule {α : Type} (f : RecordField α) : FieldRule :=
  ⟨f.name, f.names, fun n => (fun _ => ()) <$> f.read n⟩

/-- What a record does with a field it does not know. -/
inductive Unknown where
  /-- The field is a problem. -/
  | refused
  /-- The field is skipped; its value need only be whole. -/
  | skipped
  /-- The field is kept for a second reading; its value must be sound, nested at most so deep. -/
  | kept (depth : Nat)

/-- How a record is read. -/
structure RecordRule where
  /-- What messages call it. -/
  typeName : String
  /-- The fields in order. -/
  fields : List FieldRule
  /-- What happens to other fields. -/
  unknown : Unknown
  /-- Whether the record may be given as an array of its fields. -/
  positional : Bool
  /-- Whether such an array has to give every field. -/
  complete : Bool

/-- The value of each field that is given, under the field's name. -/
abbrev Entries := List (String × Node)

/-- The field that answers to a name. -/
def RecordRule.find (r : RecordRule) (name : String) : Option FieldRule :=
  r.fields.find? fun f => f.names.contains name

/-- Whether an unknown field may stay. -/
def RecordRule.admit (r : RecordRule) (name : String) (v : Node) : Except ReadError Unit :=
  match r.unknown with
  | .refused => .error (.unknownField name (r.fields.flatMap FieldRule.names))
  | .skipped => if v.isWhole then .ok () else .error .notJson
  | .kept depth => if v.isSound depth then .ok () else .error .notJson

/-- Walk the members of an object; `seen` holds the fields that were given before. -/
def RecordRule.members (r : RecordRule) (closed : Bool) (seen : List String) :
    List (Option String × Node) → Except ReadError Entries
  | [] => if closed then .ok [] else .error .notJson
  | (none, _) :: _ => .error .notJson
  | (some key, v) :: ms =>
    match r.find key with
    | none => do
      r.admit key v
      r.members closed seen ms
    | some f =>
      if seen.contains f.name then .error (.duplicateField f.name)
      else do
        f.check v
        return (f.name, v) :: (← r.members closed (f.name :: seen) ms)

/-- Walk the items of an array, one for each field; `given` counts those before. -/
def RecordRule.items (r : RecordRule) (closed : Bool) :
    Nat → List FieldRule → List Node → Except ReadError Entries
  | _, [], [] => if closed then .ok [] else .error .notJson
  | _, [], _ :: _ => .error .notJson
  | given, _ :: _, [] =>
    if !closed then .error .notJson
    else if r.complete then
      .error (.wrongLength given (r.typeName ++ " with " ++ r.fields.length.repr ++ " elements"))
    else .ok []
  | given, f :: fs, v :: vs => do
    f.check v
    return (f.name, v) :: (← r.items closed (given + 1) fs vs)

/-- The fields that a node gives, or its first problem as a record. -/
def RecordRule.entries (r : RecordRule) : Decoder Entries
  | .object members closed => r.members closed [] members
  | .array items closed =>
    if r.positional then r.items closed 0 r.fields items
    else (Node.array items closed).mismatch r.typeName
  | n => n.mismatch r.typeName

/-- The value of a field among those that are given. -/
def RecordField.get {α : Type} (f : RecordField α) (entries : Entries) : Except ReadError α :=
  match entries.lookup f.name with
  | some v => f.read v
  | none => .ok f.absent

/-! ## Whole texts -/

/-- Read a text that holds one value. What follows the value is looked at last. -/
def decodeText {α : Type} (d : Decoder α) (text : String) : Except ReadError α := do
  let source := Source.ofString text
  let a ← d source.node
  if source.ended then return a else throw .notJson

end ItemQuery.Json
