import ItemQuery.Decimal.Layout

/-!
# `Json.Basic` — JSON values and their texts

Everything that is answered as JSON is first a `Json` value: objects keep the order of their members, and
integers and doubles are two kinds, so that a double is written as a double whatever its value.

## Contents
- `Json`: the values.
- `Json.write`, `Json.compact`: the text without blanks.
- `Json.writePretty`, `Json.pretty`: one item or member a line, two blanks a level.
- `Layout.json`: how doubles are written.
-/

namespace ItemQuery

open Decimal (Layout Magnitude isNegative)

/-- A JSON value to be written. -/
inductive Json where
  | null
  | bool (b : Bool)
  | int (n : Int)
  | float (x : Float)
  | string (s : String)
  | array (items : List Json)
  | object (members : List (String × Json))

namespace Json

/-- The value, or `null` for an absent one. -/
def option {α : Type} (f : α → Json) : Option α → Json
  | none => null
  | some a => f a

/-! ## Scalars -/

/-- In JSON a double always shows a point or an exponent. The exponent appears from `1e16` on and below
    `1e-5`, with its sign; of two equally near decimals the even one is written. -/
def layout : Layout := ⟨fun e => -5 ≤ e && e ≤ 15, true, .toEven⟩

/-- A double; JSON has no other word than `null` for one that is not finite. -/
def writeFloat (x : Float) : List Char :=
  match Magnitude.ofFloat x with
  | .finite b => layout.writeFinite (isNegative x) b
  | _ => "null".toList

/-- One hexadecimal digit in lower case. -/
def hexDigit (n : Nat) : Char := Nat.digitChar n

/-- One character of a string. Only the quote, the backslash and the controls below U+0020 are escaped. -/
def escapeChar (c : Char) : List Char :=
  if c = '"' then ['\\', '"']
  else if c = '\\' then ['\\', '\\']
  else if c = '\x08' then ['\\', 'b']
  else if c = '\x0c' then ['\\', 'f']
  else if c = '\n' then ['\\', 'n']
  else if c = '\r' then ['\\', 'r']
  else if c = '\t' then ['\\', 't']
  else if c.toNat < 0x20 then ['\\', 'u', '0', '0', hexDigit (c.toNat / 16), hexDigit (c.toNat % 16)]
  else [c]

/-- A string with its quotes. -/
def writeString (s : String) : List Char := '"' :: s.toList.flatMap escapeChar ++ ['"']

/-! ## Without blanks -/

mutual

/-- The text without blanks. -/
def write : Json → List Char
  | null => "null".toList
  | bool b => (if b then "true" else "false").toList
  | int n => n.repr.toList
  | float x => writeFloat x
  | string s => writeString s
  | array items => '[' :: writeItems true items ++ [']']
  | object members => '\x7b' :: writeMembers true members ++ ['\x7d']

/-- Items with a comma before each but the first. -/
def writeItems : Bool → List Json → List Char
  | _, [] => []
  | first, v :: vs => (if first then [] else [',']) ++ v.write ++ writeItems false vs

/-- Members with a comma before each but the first. -/
def writeMembers : Bool → List (String × Json) → List Char
  | _, [] => []
  | first, (k, v) :: ms =>
    (if first then [] else [',']) ++ writeString k ++ ':' :: v.write ++ writeMembers false ms

end

/-- The text without blanks. -/
def compact (v : Json) : String := String.ofList v.write

/-! ## One item or member a line -/

/-- A line break and the blanks of a level. -/
def newline (level : Nat) : List Char := '\n' :: List.replicate (2 * level) ' '

mutual

/-- The text with one item or member a line; an empty array or object stays on its line. -/
def writePretty : Nat → Json → List Char
  | level, array (v :: vs) =>
    '[' :: prettyItems (level + 1) true (v :: vs) ++ newline level ++ [']']
  | level, object (m :: ms) =>
    '\x7b' :: prettyMembers (level + 1) true (m :: ms) ++ newline level ++ ['\x7d']
  | _, v => v.write

/-- Items on lines of their own. -/
def prettyItems : Nat → Bool → List Json → List Char
  | _, _, [] => []
  | level, first, v :: vs =>
    (if first then [] else [',']) ++ newline level ++ writePretty level v ++ prettyItems level false vs

/-- Members on lines of their own. -/
def prettyMembers : Nat → Bool → List (String × Json) → List Char
  | _, _, [] => []
  | level, first, (k, v) :: ms =>
    (if first then [] else [',']) ++ newline level ++ writeString k ++ ':' :: ' ' :: writePretty level v ++
      prettyMembers level false ms

end

/-- The text with one item or member a line. -/
def pretty (v : Json) : String := String.ofList (v.writePretty 0)

end Json

end ItemQuery
