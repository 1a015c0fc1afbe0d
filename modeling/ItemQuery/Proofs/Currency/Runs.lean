import ItemQuery.Currency.Json
import ItemQuery.Proofs.Compiler.Layout
import ItemQuery.Proofs.Json.Written
import Mathlib.Data.Finset.Card

/-!
# `Proofs.Currency.Runs` — a table lists what was written to it

A table is changed by single entries and by many at once, in any sequence, and names that it has already may be
written again. What it lists is a matter of all that was ever written to it, its first entries included: each name
once, where it was first written, with the code that was written last. `Table.Lists` says this of a table and a list
of writes. A table lists its own entries, one more write keeps the property (`lists_insert`), and so does a run
(`lists_run`).

All that is asked of a table follows from its listing: look-ups, the texts that it is written to and read from, and
which currencies the compiler accepts.

## Contents
- `Table.names`, `lastCode`, `Table.Lists`: the listing of a table and what was written to it.
- `Edit`, `Table.run`: sequences of changes.
- `lists_insert`, `lists_extend`, `lists_run`: one write, many, and a run.
- `ofPairs_entries`, `read_toJson`: a table is found from its listing and from its text.
- `compile_currency_iff`: what the compiler accepts.
- `run_listing`: the whole.
-/

namespace ItemQuery.Currency

open Json (decodeText memberNodes)

/-! ## Writes -/

/-- The code that was written last for a name. -/
def lastCode (writes : List (String × String)) (name : String) : Option String := writes.reverse.lookup name

theorem lastCode_append_singleton (writes : List (String × String)) (name code other : String) :
    lastCode (writes ++ [(name, code)]) other = if other = name then some code else lastCode writes other := by
  rw [lastCode, List.reverse_append, List.reverse_singleton, List.singleton_append, Assoc.lookup_cons, lastCode]

namespace Table

/-- The names in the order of the listing. -/
def names (t : Table) : List String := t.entries.map Prod.fst

/-- **The table lists these writes**: each name once, in the order of first writes, with the code of the last. -/
structure Lists (t : Table) (writes : List (String × String)) : Prop where
  names : t.names = (writes.map Prod.fst).eraseDups
  codes : ∀ name, t.get? name = lastCode writes name

end Table

/-- A change of a table. -/
inductive Edit where
  | insert (name code : String)
  | extend (pairs : List (String × String))

/-- What a change writes, in order. -/
def Edit.writes : Edit → List (String × String)
  | insert name code => [(name, code)]
  | extend pairs => pairs

namespace Table

variable {t : Table} {writes : List (String × String)}

/-- The table after a change. -/
def after (t : Table) : Edit → Table
  | .insert name code => (t.exchange name code).2
  | .extend pairs => t.extend pairs

/-- The table after a sequence of changes. -/
def run (t : Table) (edits : List Edit) : Table := edits.foldl after t

/-- **One write is listed.** -/
theorem lists_insert (h : t.Lists writes) (name code : String) :
    (t.insert name code).Lists (writes ++ [(name, code)]) := by
  constructor
  · have hnames : t.names = Assoc.keys t.entries := rfl
    show Assoc.keys (Assoc.set name code t.entries) = _
    rw [Assoc.keys_set, List.map_append, List.map_singleton, Assoc.eraseDups_append_singleton, ← h.names, hnames]
  · intro other
    rw [lastCode_append_singleton, ← h.codes]
    exact Assoc.lookup_set name other code t.entries

/-- Pairs are listed like single writes, one after the other. -/
theorem lists_extend (h : t.Lists writes) (pairs : List (String × String)) :
    (t.extend pairs).Lists (writes ++ pairs) := by
  induction pairs generalizing t writes with
  | nil => rwa [List.append_nil]
  | cons p pairs ih =>
      have hrest := ih (lists_insert h p.1 p.2)
      rwa [List.append_assoc, List.singleton_append] at hrest

/-- A table is the one of its own entries, since its names are distinct. -/
theorem ofPairs_entries (t : Table) : ofPairs t.entries = t := by
  have hentries : (ofPairs t.entries).entries = t.entries := Assoc.setAll_of_nodup (l := []) t.distinct
  cases t
  exact Table.mk.injEq .. ▸ hentries

/-- A table lists its own entries. -/
theorem lists_entries (t : Table) : t.Lists t.entries := by
  have hempty : empty.Lists [] := ⟨rfl, fun _ => rfl⟩
  have hextend := lists_extend hempty t.entries
  rwa [List.nil_append, show empty.extend t.entries = t from ofPairs_entries t] at hextend

/-- **One change is listed.** -/
theorem lists_after (h : t.Lists writes) (edit : Edit) : (t.after edit).Lists (writes ++ edit.writes) := by
  cases edit with
  | insert name code =>
      rw [after, exchange_eq]
      exact lists_insert h name code
  | extend pairs => exact lists_extend h pairs

/-- **A run is listed.** -/
theorem lists_run (h : t.Lists writes) (edits : List Edit) :
    (t.run edits).Lists (writes ++ edits.flatMap Edit.writes) := by
  induction edits generalizing t writes with
  | nil => rwa [List.flatMap_nil, List.append_nil]
  | cons edit edits ih =>
      rw [List.flatMap_cons, ← List.append_assoc]
      exact ih (lists_after h edit)

/-! ## What follows from the listing -/

/-- As many names are listed as were written. -/
theorem Lists.size_eq (h : t.Lists writes) : t.size = (writes.map Prod.fst).toFinset.card := by
  have hsame : (writes.map Prod.fst).toFinset = t.names.toFinset := by
    ext name
    rw [List.mem_toFinset, List.mem_toFinset, h.names, List.mem_eraseDups]
  have hcard : t.names.toFinset.card = t.names.length := List.toFinset_card_of_nodup t.distinct
  rw [hsame, hcard, Table.names, List.length_map, size]

/-- An entry is the last write of its name. -/
theorem Lists.mem_entries_iff (h : t.Lists writes) (name code : String) :
    (name, code) ∈ t.entries ↔ lastCode writes name = some code := by
  rw [← h.codes, get?, Assoc.lookup_eq_some_iff t.distinct]

theorem get?_eq_some_iff (t : Table) (name code : String) : t.get? name = some code ↔ (name, code) ∈ t.entries :=
  Assoc.lookup_eq_some_iff t.distinct name code

theorem contains_iff (t : Table) (name : String) : t.contains name = true ↔ name ∈ t.names := by
  rw [contains, Option.isSome_iff_exists, names, List.mem_map]
  constructor
  · rintro ⟨code, hcode⟩
    exact ⟨(name, code), (t.get?_eq_some_iff name code).mp hcode, rfl⟩
  · rintro ⟨⟨_, code⟩, hmem, rfl⟩
    exact ⟨code, (t.get?_eq_some_iff _ code).mpr hmem⟩

theorem resolve_eq_ok_iff (t : Table) (name code : String) :
    t.resolve name = .ok code ↔ (name, code) ∈ t.entries := by
  rw [← get?_eq_some_iff, resolve]
  cases t.get? name <;> simp

theorem resolve_eq_error_iff (t : Table) (name : String) (fault : Fault) :
    t.resolve name = .error fault ↔ name ∉ t.names ∧ fault = .unknownCategory category name := by
  rw [← contains_iff, contains, resolve]
  cases t.get? name <;> simp [eq_comm]

/-! ## The text of a table -/

theorem readPairs_memberNodes (pairs : List (String × String)) :
    readPairs true (memberNodes (pairs.map fun p => (p.1, Json.string p.2))) = .ok pairs := by
  induction pairs with
  | nil => rfl
  | cons p pairs ih =>
      rw [List.map_cons, memberNodes, readPairs, ih]
      rfl

/-- **A table is read from its own text.** -/
theorem read_toJson (t : Table) : decodeText Table.read t.toJson.compact = .ok t := by
  rw [Json.decodeText_compact]
  show Table.ofPairs <$> readPairs true (memberNodes (t.entries.map fun p => (p.1, Json.string p.2))) = .ok t
  rw [readPairs_memberNodes]
  exact congrArg Except.ok (ofPairs_entries t)

end Table

end ItemQuery.Currency

namespace ItemQuery

open Currency (Table Edit lastCode)

/-! ## What the compiler accepts -/

theorem ordered_currency (name : String) : ({ currencyName := some name } : Criteria).Ordered := by
  constructor
  case price => exact fun _ => Bounds.not_inverted_of_isEmpty rfl
  case modifiers => exact List.forall_mem_nil _
  all_goals exact Bounds.not_inverted_of_isEmpty rfl

/-- **A currency alone is accepted exactly if it is listed**, and then asks for its code. -/
theorem Compiler.compile_currency_iff (t : Table) (options : Options) (name : String) (ps : List Predicate) :
    ({ currencies := t, options := options } : Compiler).compile { currencyName := some name } = .ok ps ↔
      ∃ code, (name, code) ∈ t.entries ∧ ps = [.on "Price.Currency" (.equals (.text code))] := by
  have hemitted {code : String} (hcode : t.get? name = some code) :
      emitted ⟨t, options⟩ { currencyName := some name } = [.on "Price.Currency" (.equals (.text code))] := by
    have hprice : priceEmitted ⟨t, options⟩ { currencyName := some name } =
        [.on "Price.Currency" (.equals (.text code))] := by
      rw [priceEmitted, Option.bind_some, hcode]
      rfl
    rw [emitted, hprice]
    rfl
  rw [compile_eq_ok_iff]
  constructor
  · rintro ⟨hadmits, rfl⟩
    obtain ⟨code, hcode⟩ := hadmits.code rfl
    exact ⟨code, (t.get?_eq_some_iff name code).mp hcode, hemitted hcode⟩
  · rintro ⟨code, hmem, rfl⟩
    have hcode : t.get? name = some code := (t.get?_eq_some_iff name code).mpr hmem
    refine ⟨⟨?_, List.forall_mem_nil _, fun _ => ordered_currency name⟩, (hemitted hcode).symm⟩
    intro other hother
    rw [← Option.some.inj hother, Table.contains, hcode]
    rfl

/-! ## The whole -/

/-- **A table after any run of changes** lists every name that was written once, in the order of first writes, with
    the code that was written last; what was there at the start counts as written. Every change of one entry tells the
    code before. All look-ups agree with the listing, on every text, and so does the compiler. From its listing, and
    from its text, a table is made again. -/
theorem Currency.Table.run_listing (start : Table) (edits : List Edit) :
    let t := start.run edits
    let writes := start.entries ++ edits.flatMap Edit.writes
    t.entries.map Prod.fst = (writes.map Prod.fst).eraseDups ∧
    (∀ name code, (name, code) ∈ t.entries ↔ lastCode writes name = some code) ∧
    t.size = (writes.map Prod.fst).toFinset.card ∧
    (∀ name code, t.exchange name code = (lastCode writes name, start.run (edits ++ [.insert name code]))) ∧
    (∀ name code, t.get? name = some code ↔ (name, code) ∈ t.entries) ∧
    (∀ name code, t.resolve name = .ok code ↔ (name, code) ∈ t.entries) ∧
    (∀ name fault, t.resolve name = .error fault ↔
      name ∉ t.entries.map Prod.fst ∧ fault = .unknownCategory "currency" name) ∧
    (∀ name, t.contains name = true ↔ name ∈ t.entries.map Prod.fst) ∧
    Table.ofPairs t.entries = t ∧
    Json.decodeText Table.read t.toJson.compact = .ok t ∧
    ∀ options name ps,
      ({ currencies := t, options := options } : Compiler).compile { currencyName := some name } = .ok ps ↔
        ∃ code, (name, code) ∈ t.entries ∧ ps = [.on "Price.Currency" (.equals (.text code))] := by
  intro t writes
  have hlists : t.Lists writes := lists_run start.lists_entries edits
  refine ⟨hlists.names, hlists.mem_entries_iff, hlists.size_eq, ?_, t.get?_eq_some_iff, t.resolve_eq_ok_iff,
    t.resolve_eq_error_iff, t.contains_iff, t.ofPairs_entries, t.read_toJson, Compiler.compile_currency_iff t⟩
  intro name code
  rw [exchange_eq, hlists.codes, run, List.foldl_append, List.foldl_cons, List.foldl_nil, after, exchange_eq]
  rfl

/-- A name that is written again keeps its place and loses its code. -/
example : ((Table.ofPairs [("Chaos Orb", "c"), ("Vaal Orb", "v")]).run
    [.extend [("Silver Coin", "s"), ("Chaos Orb", "chaos")], .insert "Vaal Orb" "vaal"]).entries =
      [("Chaos Orb", "chaos"), ("Vaal Orb", "vaal"), ("Silver Coin", "s")] := by decide

end ItemQuery
