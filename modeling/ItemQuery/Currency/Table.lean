import ItemQuery.Assoc
import ItemQuery.Fault

/-!
# `Currency.Table` — currency names and their codes

Price notes on records use short codes where criteria use display names. A table takes the one to the other.
Its entries stand in the order in which their names were first inserted; inserting a name again replaces its
code. A look-up wants the exact name.

## Contents
- `Table`, with the proof that no name stands twice.
- `Table.insert`, `Table.exchange`, `Table.extend`, `Table.ofPairs`, `Table.builtin`.
- `Table.get?`, `Table.resolve`, `Table.contains`.
-/

namespace ItemQuery.Currency

/-- An ordered table from display names to codes. -/
structure Table where
  entries : List (String × String)
  distinct : (Assoc.keys entries).Nodup

namespace Table

instance : DecidableEq Table := fun a b =>
  decidable_of_iff (a.entries = b.entries) ⟨fun h => by cases a; cases b; simp_all, fun h => h ▸ rfl⟩

/-- No entries. -/
def empty : Table := ⟨[], List.nodup_nil⟩

/-- The code that a name has. -/
def get? (t : Table) (name : String) : Option String := t.entries.lookup name

/-- Whether a name is listed. -/
def contains (t : Table) (name : String) : Bool := (t.get? name).isSome

/-- The number of entries. -/
def size (t : Table) : Nat := t.entries.length

/-- Whether there are no entries. -/
def isEmpty (t : Table) : Bool := t.entries.isEmpty

/-- Give a name a code. -/
def insert (t : Table) (name code : String) : Table :=
  ⟨Assoc.set name code t.entries, Assoc.nodup_keys_set t.distinct⟩

/-- Give a name a code, and tell the one that it had just before. -/
def exchange (t : Table) (name code : String) : Option String × Table :=
  let r := Assoc.exchange name code t.entries
  (r.1, ⟨r.2, Assoc.nodup_keys_exchange t.distinct⟩)

theorem exchange_eq (t : Table) (name code : String) : t.exchange name code = (t.get? name, t.insert name code) := by
  simp only [exchange, Assoc.exchange_eq, get?, insert]

/-- Insert pairs one after the other. -/
def extend (t : Table) (pairs : List (String × String)) : Table :=
  ⟨Assoc.setAll t.entries pairs, Assoc.nodup_keys_setAll t.distinct pairs⟩

/-- The table of some pairs, of which later ones win. -/
def ofPairs (pairs : List (String × String)) : Table := empty.extend pairs

/-- The category that a refused look-up names. -/
def category : String := "currency"

/-- The code that a name has, or the fault of a name that is not listed. -/
def resolve (t : Table) (name : String) : Except Fault String :=
  match t.get? name with
  | some code => .ok code
  | none => .error (.unknownCategory category name)

/-- The same entries, in whatever order. -/
def sameEntries (a b : Table) : Bool :=
  a.size == b.size && a.entries.all fun (name, code) => b.get? name == some code

end Table

/-! ## The built-in table -/

/-- The version of the built-in entries. -/
def builtinVersion : Nat := 1

/-- The currencies known without configuration. -/
def builtinEntries : List (String × String) :=
  [("Blessed Orb", "blessed"),
   ("Cartographer's Chisel", "chisel"),
   ("Chaos Orb", "chaos"),
   ("Chromatic Orb", "chrom"),
   ("Divine Orb", "divine"),
   ("Exalted Orb", "exa"),
   ("Gemcutter's Prism", "gcp"),
   ("Jeweller's Orb", "jew"),
   ("Orb of Alchemy", "alch"),
   ("Orb of Alteration", "alt"),
   ("Orb of Chance", "chance"),
   ("Orb of Fusing", "fuse"),
   ("Orb of Regret", "regret"),
   ("Orb of Scouring", "scour"),
   ("Regal Orb", "regal"),
   ("Vaal Orb", "vaal"),
   ("Perandus Coin", "coin"),
   ("Silver Coin", "silver")]

/-- The table of the built-in entries. -/
def Table.builtin : Table := ofPairs builtinEntries

end ItemQuery.Currency
