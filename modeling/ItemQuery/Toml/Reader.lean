import ItemQuery.Toml.Table

/-!
# `Toml.Reader` — configuration texts

## Contents
- `value?`: values, nested to a limited depth.
- `statements?`: the headers and pairs of a text.
- `parse?`: the table that a text describes.
-/

namespace ItemQuery.Toml

/-- The path of a dotted key and its last part. -/
def splitLast? : List String → Option (List String × String)
  | [] => none
  | parts => parts.getLast?.map fun k => (parts.dropLast, k)

/-! ## Values -/

/-- The values of an array up to its bracket; the last may have a comma behind it. -/
def items? (value : Reader Value) : Nat → Reader (List Value)
  | 0, _ => none
  | steps + 1, s => do
    match ← skipTrivia? (s.length + 1) s with
    | ']' :: s => return ([], s)
    | s => do
      let (v, s) ← value s
      match ← skipTrivia? (s.length + 1) s with
      | ']' :: s => return ([v], s)
      | ',' :: s => do
        let (vs, s) ← items? value steps s
        return (v :: vs, s)
      | _ => none

/-- A dotted key, an equals sign and a value. -/
def pair? (value : Reader Value) : Reader (List String × String × Value) := fun s => do
  let (parts, s) ← key? s
  let (path, k) ← splitLast? parts
  match s with
  | '=' :: s => do
    let (v, s) ← value (skipBlanks s)
    return ((path, k, v), s)
  | _ => none

/-- The pairs of a table in braces, of which there is at least one, on one line. -/
def pairs? (value : Reader Value) : Nat → Reader (List (List String × String × Value))
  | 0, _ => none
  | steps + 1, s => do
    let (p, s) ← pair? value s
    match skipBlanks s with
    | '\x7d' :: s => return ([p], s)
    | ',' :: s => do
      let (ps, s) ← pairs? value steps s
      return (p :: ps, s)
    | _ => none

/-- A value; arrays and tables in braces may be nested `depth` deep. -/
def value? : Nat → Reader Value
  | 0, s => scalar? s
  | depth + 1, s =>
    match s with
    | '[' :: s => do
      let (vs, s) ← items? (value? depth) (s.length + 1) s
      return (.array vs, s)
    | '\x7b' :: s =>
      match skipBlanks s with
      | '\x7d' :: s => some (.table [], s)
      | s => do
        let (ps, s) ← pairs? (value? depth) (s.length + 1) s
        let items ← setAllDotted? [] ps
        return (.table (finishEntries items), s)
    | s => scalar? s

/-! ## Texts -/

/-- A header between brackets that are open already, with the rest of its line. -/
def header? (closing : List Char) : Reader (List String × String) := fun s => do
  let (parts, s) ← key? s
  let header ← splitLast? parts
  guard (s.take closing.length = closing)
  return (header, ← skipRestOfLine? (s.drop closing.length))

/-- The statements up to the end of a text. -/
def statementsFrom? : Nat → List Char → Option (List Statement)
  | 0, _ => none
  | steps + 1, s =>
    match skipBlanks s with
    | [] => some []
    | '[' :: '[' :: s => do
      let ((path, k), s) ← header? [']', ']'] s
      return .arrayHeader path k :: (← statementsFrom? steps s)
    | '[' :: s => do
      let ((path, k), s) ← header? [']'] s
      return .header path k :: (← statementsFrom? steps s)
    | c :: s =>
      if c = '#' || c = '\n' || c = '\r' then do
        statementsFrom? steps (← skipRestOfLine? (c :: s))
      else do
        let ((path, k, v), s) ← pair? (value? (depthLimit - 1)) (c :: s)
        return .pair path k v :: (← statementsFrom? steps (← skipRestOfLine? s))

/-- The statements of a text, which may begin with a byte order mark. -/
def statements? (s : List Char) : Option (List Statement) :=
  match s with
  | '\ufeff' :: s => statementsFrom? (s.length + 1) s
  | s => statementsFrom? (s.length + 1) s

/-- The table that a text describes. -/
def parse? (text : String) : Option (List (String × Value)) := statements? text.toList >>= assemble?

end ItemQuery.Toml
