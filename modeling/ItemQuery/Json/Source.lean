import ItemQuery.Content
import ItemQuery.Json.Number
import ItemQuery.Text.Digits

/-!
# `Json.Source` — the structure of a text that should be JSON

A text is read into a `Node` before anybody asks what it means. Reading never fails: where the text stops
being JSON the tree ends, with `broken` in place of a value or with an array or object that is not closed.
Whoever walks the tree from left to right therefore meets the first problem first, be it one of the text
or one of the value that it holds.

## Contents
- `Node`: values, kept as they are written.
- `Source.ofString`: reading a text.
- `Node.isWhole`: there is nothing broken inside; such a value can be skipped.
- `Node.isSound`: also every string is text, every number a double, and the nesting limited.
- `Node.content?`: such a value as it is kept.
-/

namespace ItemQuery.Json

open Text (hexValue?)

/-- A value as it stands in a text. -/
inductive Node where
  | null
  | bool (b : Bool)
  | number (l : Literal)
  /-- A string; `none` if it holds half of a surrogate pair, which is no text. -/
  | string (s : Option String)
  /-- The items; `closed` if the bracket follows the last one. -/
  | array (items : List Node) (closed : Bool)
  /-- The members, with keys like strings; `closed` if the brace follows the last one. -/
  | object (members : List (Option String × Node)) (closed : Bool)
  /-- No value stands here. -/
  | broken

/-! ## Strings -/

/-- A piece of a string: a character, or the 16-bit unit of an escape. -/
inductive Piece where
  | char (c : Char)
  | unit (n : Nat)

/-- The character that a one-letter escape stands for. -/
def unescape (c : Char) : Option Char :=
  if c = '"' || c = '\\' || c = '/' then some c
  else if c = 'b' then some '\x08'
  else if c = 'f' then some '\x0c'
  else if c = 'n' then some '\n'
  else if c = 'r' then some '\r'
  else if c = 't' then some '\t'
  else none

/-- The pieces up to the closing quote, and what follows it. -/
def readPieces : List Char → Option (List Piece × List Char)
  | [] => none
  | '"' :: rest => some ([], rest)
  | '\\' :: 'u' :: a :: b :: c :: d :: rest => do
    let n := (← hexValue? a) * 4096 + (← hexValue? b) * 256 + (← hexValue? c) * 16 + (← hexValue? d)
    let (ps, rest) ← readPieces rest
    return (.unit n :: ps, rest)
  | '\\' :: e :: rest => do
    let c ← unescape e
    let (ps, rest) ← readPieces rest
    return (.char c :: ps, rest)
  | c :: rest =>
    if c.toNat < 0x20 || c = '\\' then none
    else (readPieces rest).map fun (ps, rest) => (.char c :: ps, rest)

/-- Put the pieces together. Two units that are the halves of a surrogate pair, the high one first, are one
    character; a half without the other is none. -/
def joinPieces : List Piece → Option (List Char)
  | [] => some []
  | .char c :: ps => (joinPieces ps).map (c :: ·)
  | .unit n :: .unit m :: ps =>
    if 0xd800 ≤ n && n < 0xdc00 then
      if 0xdc00 ≤ m && m < 0xe000 then
        (joinPieces ps).map (Char.ofNat (0x10000 + (n - 0xd800) * 0x400 + (m - 0xdc00)) :: ·)
      else none
    else if 0xdc00 ≤ n && n < 0xe000 then none
    else (joinPieces (.unit m :: ps)).map (Char.ofNat n :: ·)
  | .unit n :: ps =>
    if 0xd800 ≤ n && n < 0xe000 then none
    else (joinPieces ps).map (Char.ofNat n :: ·)

/-- A string after its opening quote. -/
def readString (s : List Char) : Option (Option String × List Char) :=
  (readPieces s).map fun (ps, rest) => ((joinPieces ps).map String.ofList, rest)

/-! ## Values -/

/-- The four blanks of JSON. -/
def isBlank (c : Char) : Bool := c = ' ' || c = '\n' || c = '\t' || c = '\r'

/-- Without leading blanks. -/
def skipBlanks (s : List Char) : List Char := s.dropWhile isBlank

/-- What stands between the items of an array or the members of an object. -/
inductive Next where
  | close (rest : List Char)
  | item (rest : List Char)
  | broken

/-- The closing character, or a comma, which only the first item lacks. -/
def next (closing : Char) (first : Bool) (s : List Char) : Next :=
  match skipBlanks s with
  | [] => .broken
  | c :: rest =>
    if c = closing then .close rest
    else if first then .item (c :: rest)
    else if c = ',' then .item (skipBlanks rest)
    else .broken

mutual

/-- The value at the start of a text and what follows it, `none` if the text breaks off inside. Of two steps
    at least one takes a character, so that twice the length of the text bounds their number. -/
def readNode : Nat → List Char → Node × Option (List Char)
  | 0, _ => (.broken, none)
  | steps + 1, s =>
    match skipBlanks s with
    | '[' :: rest =>
      let (items, rest) := readItems steps true rest
      (.array items rest.isSome, rest)
    | '\x7b' :: rest =>
      let (members, rest) := readMembers steps true rest
      (.object members rest.isSome, rest)
    | '"' :: rest =>
      match readString rest with
      | some (text, rest) => (.string text, some rest)
      | none => (.broken, none)
    | 'n' :: 'u' :: 'l' :: 'l' :: rest => (.null, some rest)
    | 't' :: 'r' :: 'u' :: 'e' :: rest => (.bool true, some rest)
    | 'f' :: 'a' :: 'l' :: 's' :: 'e' :: rest => (.bool false, some rest)
    | s =>
      match Literal.lex s with
      | some (l, rest) => (.number l, some rest)
      | none => (.broken, none)

/-- The items up to the closing bracket. -/
def readItems : Nat → Bool → List Char → List Node × Option (List Char)
  | 0, _, _ => ([], none)
  | steps + 1, first, s =>
    match next ']' first s with
    | .close rest => ([], some rest)
    | .broken => ([], none)
    | .item s =>
      match readNode steps s with
      | (v, none) => ([v], none)
      | (v, some rest) =>
        let (vs, rest) := readItems steps false rest
        (v :: vs, rest)

/-- The members up to the closing brace. A key without a value is a member whose value is broken. -/
def readMembers : Nat → Bool → List Char → List (Option String × Node) × Option (List Char)
  | 0, _, _ => ([], none)
  | steps + 1, first, s =>
    match next '\x7d' first s with
    | .close rest => ([], some rest)
    | .item ('"' :: s) =>
      match readString s with
      | none => ([], none)
      | some (key, s) =>
        match skipBlanks s with
        | ':' :: s =>
          match readNode steps s with
          | (v, none) => ([(key, v)], none)
          | (v, some rest) =>
            let (ms, rest) := readMembers steps false rest
            ((key, v) :: ms, rest)
        | _ => ([(key, .broken)], none)
    | _ => ([], none)

end

/-- A text as read. -/
structure Source where
  /-- The first value of the text. -/
  node : Node
  /-- Whether nothing but blanks follows it. -/
  ended : Bool

/-- Read a text. -/
def Source.ofList (s : List Char) : Source :=
  match readNode (2 * s.length + 2) s with
  | (v, some rest) => ⟨v, rest.all isBlank⟩
  | (v, none) => ⟨v, false⟩

/-- Read a text. -/
def Source.ofString (s : String) : Source := .ofList s.toList

/-! ## Whole and sound values -/

mutual

/-- Nothing inside is broken. -/
def Node.isWhole : Node → Bool
  | .broken => false
  | .array items closed => closed && allWhole items
  | .object members closed => closed && membersWhole members
  | _ => true

/-- All items are whole. -/
def allWhole : List Node → Bool
  | [] => true
  | v :: vs => v.isWhole && allWhole vs

/-- All members are whole. -/
def membersWhole : List (Option String × Node) → Bool
  | [] => true
  | (_, v) :: ms => v.isWhole && membersWhole ms

end

mutual

/-- Nothing inside is broken, no string or key is less than text, no number is beyond the range of doubles,
    and arrays and objects are nested at most `depth` deep. -/
def Node.isSound : Nat → Node → Bool
  | _, .broken => false
  | _, .null => true
  | _, .bool _ => true
  | _, .number l => l.number.isSome
  | _, .string s => s.isSome
  | 0, .array _ _ => false
  | 0, .object _ _ => false
  | depth + 1, .array items closed => closed && allSound depth items
  | depth + 1, .object members closed => closed && membersSound depth members

/-- All items are sound. -/
def allSound : Nat → List Node → Bool
  | _, [] => true
  | depth, v :: vs => v.isSound depth && allSound depth vs

/-- All keys and values are sound. -/
def membersSound : Nat → List (Option String × Node) → Bool
  | _, [] => true
  | depth, (k, v) :: ms => k.isSome && v.isSound depth && membersSound depth ms

end

/-! ## Kept values -/

/-- A number as it is kept. -/
def Number.content : Number → Content
  | .int n => .ofInt n
  | .float x => .float x

mutual

/-- A value as it is kept, unless it cannot be: then something inside is broken, less than text, beyond the range of
    doubles, or nested more than `depth` deep. -/
def Node.content? : Nat → Node → Option Content
  | _, .broken => none
  | _, .null => some .null
  | _, .bool b => some (.bool b)
  | _, .number l => l.number.map Number.content
  | _, .string s => s.map .string
  | 0, .array _ _ => none
  | 0, .object _ _ => none
  | depth + 1, .array items closed => if closed then (contents? depth items).map .list else none
  | depth + 1, .object members closed => if closed then (memberContents? depth members).map .map else none

/-- All items as they are kept. -/
def contents? : Nat → List Node → Option (List Content)
  | _, [] => some []
  | depth, v :: vs => do return (← v.content? depth) :: (← contents? depth vs)

/-- All keys and values as they are kept. -/
def memberContents? : Nat → List (Option String × Node) → Option (List (String × Content))
  | _, [] => some []
  | depth, (k, v) :: ms => do return (← k, ← v.content? depth) :: (← memberContents? depth ms)

end

end ItemQuery.Json
