import ItemQuery.Assoc
import ItemQuery.Toml.Scalar

/-!
# `Toml.Table` — putting tables together

A configuration text names tables by headers and by dotted keys, and a table may be named more than once on
the way to others. How a table came about decides what may still be added to it: a table with a header of its
own is complete, one that only stands in the path of a header may get its own header later, and one that only
stands in the path of dotted keys may get more of these.

## Contents
- `Origin`, `Item`: tables under construction.
- `update?`: change the table at the end of a path.
- `setDotted?`, `Statement`, `assemble?`: from statements to the finished table.
-/

namespace ItemQuery.Toml

/-- How a table came about. -/
inductive Origin where
  /-- By a header of its own. -/
  | header
  /-- In the path of a header. -/
  | headerPath
  /-- In the path of a dotted key. -/
  | keyPath
  deriving DecidableEq, Repr

/-- What stands under a key of a table under construction. -/
inductive Item where
  /-- A finished value. -/
  | value (v : Value)
  /-- A table. -/
  | table (origin : Origin) (entries : List (String × Item))
  /-- An array of tables, each with a header. -/
  | tables (elements : List (List (String × Item)))

/-- The entries of a table under construction. -/
abbrev Items := List (String × Item)

/-- Change the table at the end of a path by `f`, which is told how that table came about. Tables that are
    missing on the way come about as `origin` says. A dotted key must not pass through a table that has a
    header; of an array of tables the last one is meant. -/
def update? (origin : Origin) (f : Origin → Items → Option Items) :
    List String → Origin → Items → Option Items
  | [], o, items => f o items
  | k :: path, _, items =>
    match items.lookup k with
    | none => do
      let inner ← update? origin f path origin []
      return Assoc.set k (.table origin inner) items
    | some (.value _) => none
    | some (.table o inner) =>
      if origin = .keyPath && o = .header then none
      else do
        let inner ← update? origin f path o inner
        return Assoc.set k (.table o inner) items
    | some (.tables elements) => do
      let inner ← update? origin f path .header (elements.getLast?.getD [])
      return Assoc.set k (.tables (elements.dropLast ++ [inner])) items

/-- Give a dotted key a value. The table that gets it is the current one for a plain key, else one that came
    about by dotted keys alone; the key must be new there. -/
def setDotted? (path : List String) (k : String) (v : Value) : Items → Option Items :=
  update? .keyPath
    (fun o items =>
      if (o = .keyPath) = (path ≠ []) && (items.lookup k).isNone then some (Assoc.set k (.value v) items)
      else none)
    path .header

/-- Give dotted keys their values in order. -/
def setAllDotted? (items : Items) : List (List String × String × Value) → Option Items
  | [] => some items
  | (path, k, v) :: pairs => do
    let items ← setDotted? path k v items
    setAllDotted? items pairs

mutual

/-- The finished value. -/
def Item.finish : Item → Value
  | .value v => v
  | .table _ entries => .table (finishEntries entries)
  | .tables elements => .array (finishTables elements)

/-- The finished entries. -/
def finishEntries : Items → List (String × Value)
  | [] => []
  | (k, item) :: items => (k, item.finish) :: finishEntries items

/-- The finished tables. -/
def finishTables : List Items → List Value
  | [] => []
  | t :: ts => .table (finishEntries t) :: finishTables ts

end

/-- A header or a pair. -/
inductive Statement where
  /-- A table with the path and key of its header. -/
  | header (path : List String) (k : String)
  /-- One more table of an array of tables. -/
  | arrayHeader (path : List String) (k : String)
  /-- A dotted key with its value. -/
  | pair (path : List String) (k : String) (v : Value)

/-- Open the table of a header: it is new, or it stood only in the path of other headers. -/
def openTable? (path : List String) (k : String) : Items → Option Items :=
  update? .headerPath
    (fun _ items =>
      match items.lookup k with
      | none => some (Assoc.set k (.table .header []) items)
      | some (.table .headerPath inner) => some (Assoc.set k (.table .header inner) items)
      | some _ => none)
    path .header

/-- Add an empty table to an array of tables. -/
def appendTable? (path : List String) (k : String) : Items → Option Items :=
  update? .headerPath
    (fun _ items =>
      match items.lookup k with
      | none => some (Assoc.set k (.tables [[]]) items)
      | some (.tables elements) => some (Assoc.set k (.tables (elements ++ [[]])) items)
      | some _ => none)
    path .header

/-- Change the table of the last header, which stands under `k` at the end of a path. -/
def updateCurrent? (f : Items → Option Items) (path : List String) (k : String) : Items → Option Items :=
  update? .headerPath
    (fun _ items =>
      match items.lookup k with
      | some (.table .header inner) => do return Assoc.set k (.table .header (← f inner)) items
      | some (.tables elements) => do
        let inner ← f (elements.getLast?.getD [])
        return Assoc.set k (.tables (elements.dropLast ++ [inner])) items
      | _ => none)
    path .header

/-- Follow statements in order; `current` is the path and key of the last header. -/
def follow? (root : Items) (current : Option (List String × String)) : List Statement → Option Items
  | [] => some root
  | .header path k :: rest => do
    let root ← openTable? path k root
    follow? root (some (path, k)) rest
  | .arrayHeader path k :: rest => do
    let root ← appendTable? path k root
    follow? root (some (path, k)) rest
  | .pair path k v :: rest => do
    let root ← match current with
      | none => setDotted? path k v root
      | some (p, c) => updateCurrent? (setDotted? path k v) p c root
    follow? root current rest

/-- The table that statements describe. -/
def assemble? (statements : List Statement) : Option (List (String × Value)) :=
  (follow? [] none statements).map finishEntries

end ItemQuery.Toml
