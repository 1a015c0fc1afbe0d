import ItemQuery.Toml.Reader
import Mathlib.Data.List.Basic

/-!
# `Proofs.Toml.Distinct` — no key stands twice

A configuration text that gives a key of a table twice is refused, so that whoever looks a key up, or walks the
entries of a table, need not ask which of two entries counts. This holds of the table of the whole text and of every
table in it, in whatever way it came about: by a header, by dotted keys, in braces, or as an element of an array.

Tables under construction have the property from the beginning. A key is only ever set by `Assoc.set`, which keeps
keys distinct, and everything that changes a table at the end of a path goes through `update?`; so one lemma about
`update?` (`update?_distinct`) serves pairs, headers and headers of arrays alike. From there on it is a matter of one
statement, then of all statements, and at last of the finished table.

## Contents
- `Value.Distinct`, `Item.Distinct`, `Items.Distinct`: the property of values, and of tables under construction.
- `update?_distinct`, `setDotted?_distinct`, `follow?_distinct`: one change, one pair, all statements.
- `Item.Distinct.finish`: finished tables.
- `Reader.Yields`, `scalar?_yields`, `value?_yields`: values as they are read.
- `parse?_distinct`: whole texts.
-/

namespace ItemQuery.Toml

open Assoc (keys)

/-! ## The property -/

/-- **No table in the value names a key twice.** -/
inductive Value.Distinct : Value → Prop
  | string (s : String) : Distinct (.string s)
  | integer (n : Int) : Distinct (.integer n)
  | float (x : Float) : Distinct (.float x)
  | boolean (b : Bool) : Distinct (.boolean b)
  | dateTime (d : DateTime) : Distinct (.dateTime d)
  | array {items : List Value} (h : ∀ v ∈ items, Distinct v) : Distinct (.array items)
  | table {entries : List (String × Value)} (hkeys : (keys entries).Nodup)
      (h : ∀ e ∈ entries, Distinct e.2) : Distinct (.table entries)

/-- The same of what stands in a table under construction. -/
inductive Item.Distinct : Item → Prop
  | value {v : Value} (h : v.Distinct) : Distinct (.value v)
  | table {o : Origin} {items : Items} (hkeys : (keys items).Nodup) (h : ∀ e ∈ items, Distinct e.2) :
      Distinct (.table o items)
  | tables {elements : List Items} (hkeys : ∀ items ∈ elements, (keys items).Nodup)
      (h : ∀ items ∈ elements, ∀ e ∈ items, Distinct e.2) : Distinct (.tables elements)

/-- A table under construction names no key twice, and neither does what stands in it. -/
structure Items.Distinct (items : Items) : Prop where
  keys : (keys items).Nodup
  items : ∀ e ∈ items, e.2.Distinct

/-! ## Changing a table -/

variable {items items' inner : Items} {elements : List Items} {item : Item} {o origin : Origin} {path : List String}
  {k : String} {v : Value} {value : Reader Value} {rest : List Char}

theorem Items.distinct_nil : Items.Distinct [] := ⟨List.nodup_nil, List.forall_mem_nil _⟩

theorem Item.distinct_table_iff : (Item.table o items).Distinct ↔ Items.Distinct items := by
  constructor
  · intro h
    cases h with
    | table hkeys h => exact ⟨hkeys, h⟩
  · exact fun h => .table h.keys h.items

theorem Item.distinct_tables_iff : (Item.tables elements).Distinct ↔ ∀ items ∈ elements, Items.Distinct items := by
  constructor
  · intro h
    cases h with
    | tables hkeys h => exact fun items hmem => ⟨hkeys items hmem, h items hmem⟩
  · exact fun h => .tables (fun items hmem => (h items hmem).keys) (fun items hmem => (h items hmem).items)

theorem Items.Distinct.of_lookup (h : Items.Distinct items) (hlookup : items.lookup k = some item) : item.Distinct :=
  h.items (k, item) ((Assoc.lookup_eq_some_iff h.keys k item).mp hlookup)

/-- **Setting a key** keeps the keys distinct. -/
theorem Items.Distinct.set (h : Items.Distinct items) (hitem : item.Distinct) :
    Items.Distinct (Assoc.set k item items) := by
  refine ⟨Assoc.nodup_keys_set h.keys, ?_⟩
  intro e he
  rcases Assoc.mem_of_mem_set he with rfl | he
  · exact hitem
  · exact h.items e he

/-- The last element of an array of tables, or no entries where there is none. -/
theorem Items.distinct_getLast (h : ∀ items ∈ elements, Items.Distinct items) :
    Items.Distinct (elements.getLast?.getD []) := by
  cases hlast : elements.getLast? with
  | none => exact Items.distinct_nil
  | some items => exact h items (List.mem_of_getLast? hlast)

theorem Item.distinct_tables_concat (h : ∀ items ∈ elements, Items.Distinct items) (hinner : Items.Distinct inner) :
    (Item.tables (elements.dropLast ++ [inner])).Distinct := by
  rw [Item.distinct_tables_iff]
  intro items hmem
  rcases List.mem_append.mp hmem with hmem | hmem
  · exact h items (List.dropLast_subset elements hmem)
  · rw [List.mem_singleton.mp hmem]
    exact hinner

/-- **A change at the end of a path** keeps the keys distinct everywhere, if it does so where it takes place. -/
theorem update?_distinct {f : Origin → Items → Option Items}
    (hf : ∀ o items items', Items.Distinct items → f o items = some items' → Items.Distinct items')
    (h : Items.Distinct items) (hupdate : update? origin f path o items = some items') : Items.Distinct items' := by
  induction path generalizing o items items' with
  | nil => exact hf o items items' h hupdate
  | cons k path ih =>
      rw [update?] at hupdate
      split at hupdate
      · -- a table that is missing on the way
        obtain ⟨inner, hinner, hset⟩ := Option.bind_eq_some_iff.mp hupdate
        rw [← Option.some.inj hset]
        exact h.set (Item.distinct_table_iff.mpr (ih Items.distinct_nil hinner))
      · exact nomatch hupdate
      · rename_i o' inner hlookup
        split at hupdate
        · exact nomatch hupdate
        · obtain ⟨inner', hinner, hset⟩ := Option.bind_eq_some_iff.mp hupdate
          rw [← Option.some.inj hset]
          have hbefore : Items.Distinct inner := Item.distinct_table_iff.mp (h.of_lookup hlookup)
          exact h.set (Item.distinct_table_iff.mpr (ih hbefore hinner))
      · rename_i elements hlookup
        obtain ⟨inner, hinner, hset⟩ := Option.bind_eq_some_iff.mp hupdate
        rw [← Option.some.inj hset]
        have hbefore := Item.distinct_tables_iff.mp (h.of_lookup hlookup)
        exact h.set (Item.distinct_tables_concat hbefore (ih (Items.distinct_getLast hbefore) hinner))

/-- One pair. -/
theorem setDotted?_distinct (hv : v.Distinct) (h : Items.Distinct items)
    (hset : setDotted? path k v items = some items') : Items.Distinct items' := by
  refine update?_distinct ?_ h hset
  intro o items items' h hchange
  split at hchange
  · rw [← Option.some.inj hchange]
    exact h.set (.value hv)
  · exact nomatch hchange

/-- Pairs in order. -/
theorem setAllDotted?_distinct {pairs : List (List String × String × Value)} (hpairs : ∀ p ∈ pairs, p.2.2.Distinct)
    (h : Items.Distinct items) (hset : setAllDotted? items pairs = some items') : Items.Distinct items' := by
  induction pairs generalizing items with
  | nil => exact Option.some.inj hset ▸ h
  | cons p pairs ih =>
      obtain ⟨next, hnext, hrest⟩ := Option.bind_eq_some_iff.mp hset
      obtain ⟨hp, hpairs⟩ := List.forall_mem_cons.mp hpairs
      exact ih hpairs (setDotted?_distinct hp h hnext) hrest

/-- One header. -/
theorem openTable?_distinct (h : Items.Distinct items) (hopen : openTable? path k items = some items') :
    Items.Distinct items' := by
  refine update?_distinct ?_ h hopen
  intro o items items' h hchange
  split at hchange
  · rw [← Option.some.inj hchange]
    exact h.set (Item.distinct_table_iff.mpr Items.distinct_nil)
  · rename_i inner hlookup
    rw [← Option.some.inj hchange]
    exact h.set (Item.distinct_table_iff.mpr (Item.distinct_table_iff.mp (h.of_lookup hlookup)))
  · exact nomatch hchange

/-- One header of an array of tables. -/
theorem appendTable?_distinct (h : Items.Distinct items) (happend : appendTable? path k items = some items') :
    Items.Distinct items' := by
  refine update?_distinct ?_ h happend
  intro o items items' h hchange
  split at hchange
  · rw [← Option.some.inj hchange]
    refine h.set (Item.distinct_tables_iff.mpr ?_)
    simpa using Items.distinct_nil
  · rename_i elements hlookup
    rw [← Option.some.inj hchange]
    have hbefore := Item.distinct_tables_iff.mp (h.of_lookup hlookup)
    refine h.set (Item.distinct_tables_iff.mpr ?_)
    simpa [or_imp, forall_and] using ⟨hbefore, Items.distinct_nil⟩
  · exact nomatch hchange

/-- A change of the table of the last header. -/
theorem updateCurrent?_distinct {f : Items → Option Items}
    (hf : ∀ items items', Items.Distinct items → f items = some items' → Items.Distinct items')
    (h : Items.Distinct items) (hupdate : updateCurrent? f path k items = some items') : Items.Distinct items' := by
  refine update?_distinct ?_ h hupdate
  intro o items items' h hchange
  split at hchange
  · rename_i inner hlookup
    obtain ⟨inner', hinner, hset⟩ := Option.bind_eq_some_iff.mp hchange
    rw [← Option.some.inj hset]
    have hbefore : Items.Distinct inner := Item.distinct_table_iff.mp (h.of_lookup hlookup)
    exact h.set (Item.distinct_table_iff.mpr (hf _ _ hbefore hinner))
  · rename_i elements hlookup
    obtain ⟨inner', hinner, hset⟩ := Option.bind_eq_some_iff.mp hchange
    rw [← Option.some.inj hset]
    have hbefore := Item.distinct_tables_iff.mp (h.of_lookup hlookup)
    exact h.set (Item.distinct_tables_concat hbefore (hf _ _ (Items.distinct_getLast hbefore) hinner))
  · exact nomatch hchange

/-- The value of a pair has the property. -/
def Statement.Distinct : Statement → Prop
  | .pair _ _ v => v.Distinct
  | _ => True

/-- **All statements in order** keep the keys distinct. -/
theorem follow?_distinct {statements : List Statement} {current : Option (List String × String)}
    (hstatements : ∀ s ∈ statements, s.Distinct) (h : Items.Distinct items)
    (hfollow : follow? items current statements = some items') : Items.Distinct items' := by
  induction statements generalizing items current with
  | nil => exact Option.some.inj hfollow ▸ h
  | cons s statements ih =>
      obtain ⟨hs, hlater⟩ := List.forall_mem_cons.mp hstatements
      cases s with
      | header path k =>
          obtain ⟨next, hnext, hrest⟩ := Option.bind_eq_some_iff.mp hfollow
          exact ih hlater (openTable?_distinct h hnext) hrest
      | arrayHeader path k =>
          obtain ⟨next, hnext, hrest⟩ := Option.bind_eq_some_iff.mp hfollow
          exact ih hlater (appendTable?_distinct h hnext) hrest
      | pair path k v =>
          cases current with
          | none =>
              obtain ⟨next, hnext, hrest⟩ := Option.bind_eq_some_iff.mp hfollow
              exact ih hlater (setDotted?_distinct hs h hnext) hrest
          | some header =>
              obtain ⟨next, hnext, hrest⟩ := Option.bind_eq_some_iff.mp hfollow
              have hnext : Items.Distinct next := updateCurrent?_distinct (fun _ _ => setDotted?_distinct hs) h hnext
              exact ih hlater hnext hrest

/-! ## Finished tables -/

theorem finishEntries_eq_map (items : Items) : finishEntries items = items.map fun e => (e.1, e.2.finish) := by
  induction items with
  | nil => rfl
  | cons e items ih => rw [finishEntries, ih, List.map_cons]

theorem finishTables_eq_map (elements : List Items) :
    finishTables elements = elements.map fun items => .table (finishEntries items) := by
  induction elements with
  | nil => rfl
  | cons items elements ih => rw [finishTables, ih, List.map_cons]

theorem keys_finishEntries (items : Items) : keys (finishEntries items) = keys items := by
  rw [finishEntries_eq_map, keys, List.map_map]
  rfl

/-- Entries are finished if each of them is. -/
theorem distinct_finishEntries (hkeys : (keys items).Nodup) (h : ∀ e ∈ items, e.2.finish.Distinct) :
    (keys (finishEntries items)).Nodup ∧ ∀ e ∈ finishEntries items, e.2.Distinct := by
  refine ⟨?_, ?_⟩
  · rw [keys_finishEntries]
    exact hkeys
  · rw [finishEntries_eq_map]
    exact List.forall_mem_map.mpr h

/-- **A finished item** names no key twice. -/
theorem Item.Distinct.finish (h : item.Distinct) : item.finish.Distinct := by
  induction h with
  | value h => exact h
  | table hkeys _ ih =>
      obtain ⟨hkeys, hentries⟩ := distinct_finishEntries hkeys ih
      exact .table hkeys hentries
  | tables hkeys _ ih =>
      rw [Item.finish, finishTables_eq_map]
      refine .array (List.forall_mem_map.mpr ?_)
      intro items hmem
      obtain ⟨hkeys, hentries⟩ := distinct_finishEntries (hkeys items hmem) (ih items hmem)
      exact .table hkeys hentries

theorem Items.Distinct.finish (h : Items.Distinct items) :
    (Assoc.keys (finishEntries items)).Nodup ∧ ∀ e ∈ finishEntries items, e.2.Distinct :=
  distinct_finishEntries h.keys fun e he => (h.items e he).finish

/-! ## Values as they are read -/

/-- All that a reader reads has a property. -/
def Reader.Yields {α : Type} (r : Reader α) (P : α → Prop) : Prop := ∀ s a rest, r s = some (a, rest) → P a

/-- What is read stands first. -/
theorem fst_of_some {α : Type} {a b : α} {s t : List Char} (h : some (a, s) = some (b, t)) : a = b :=
  (Prod.mk.inj (Option.some.inj h)).1

theorem integer?_distinct {n : Int} (h : integer? n = some v) : v.Distinct := by
  unfold integer? at h
  split at h
  · rw [← Option.some.inj h]
    exact .integer n
  · exact nomatch h

theorem float?_distinct {negative : Bool} {digits : List Char} {e : Int} (h : float? negative digits e = some v) :
    v.Distinct := by
  unfold float? at h
  dsimp only at h
  split at h
  · rw [← Option.some.inj h]
    exact .float _
  split at h
  · exact nomatch h
  · rw [← Option.some.inj h]
    exact .float _

/-- A value that is made of what was read, with the rest of the text beside it. -/
theorem distinct_of_return {o : Option Value} {s : List Char} (ho : ∀ v, o = some v → v.Distinct)
    (h : (do return (← o, s)) = some (v, rest)) : v.Distinct := by
  obtain ⟨w, hw, h⟩ := Option.bind_eq_some_iff.mp h
  rw [← fst_of_some h]
  exact ho w hw

theorem distinct_of_exponent {negative : Bool} {digits s : List Char} {places : Nat}
    (h : (do let (e, s) ← exponent? s; return (← float? negative digits (e - places), s)) = some (v, rest)) :
    v.Distinct := by
  obtain ⟨e, -, h⟩ := Option.bind_eq_some_iff.mp h
  exact distinct_of_return (fun _ => float?_distinct) h

theorem decimal?_yields : Reader.Yields decimal? Value.Distinct := by
  intro s v rest h
  unfold decimal? at h
  dsimp only at h
  split at h
  · rw [← fst_of_some h]
    exact .float _
  · rw [← fst_of_some h]
    exact .float _
  · obtain ⟨⟨whole, s⟩, -, h⟩ := Option.bind_eq_some_iff.mp h
    dsimp only at h
    split at h
    · obtain ⟨⟨fraction, s⟩, -, h⟩ := Option.bind_eq_some_iff.mp h
      dsimp only at h
      split at h
      · exact distinct_of_exponent h
      · exact distinct_of_exponent h
      · exact distinct_of_return (fun _ => float?_distinct) h
    · exact distinct_of_exponent h
    · exact distinct_of_exponent h
    · exact distinct_of_return (fun _ => integer?_distinct) h

theorem number?_yields : Reader.Yields number? Value.Distinct := by
  have hbased (base : Nat) : Reader.Yields (based? base) Value.Distinct := by
    intro s v rest h
    obtain ⟨⟨ds, s⟩, -, h⟩ := Option.bind_eq_some_iff.mp h
    obtain ⟨n, -, h⟩ := Option.bind_eq_some_iff.mp h
    exact distinct_of_return (fun _ => integer?_distinct) h
  intro s v rest h
  unfold number? at h
  split at h
  · exact hbased 16 _ _ _ h
  · exact hbased 8 _ _ _ h
  · exact hbased 2 _ _ _ h
  · exact decimal?_yields _ _ _ h

/-- Scalars hold no tables. -/
theorem scalar?_yields : Reader.Yields scalar? Value.Distinct := by
  intro s v rest h
  unfold scalar? at h
  split at h
  · rw [← fst_of_some h]
    exact .boolean true
  · rw [← fst_of_some h]
    exact .boolean false
  · split at h
    · obtain ⟨⟨t, s⟩, -, h⟩ := Option.map_eq_some_iff.mp h
      rw [← (Prod.mk.inj h).1]
      exact .string t
    · split at h
      · rw [← fst_of_some h]
        exact .dateTime _
      · exact number?_yields _ _ _ h
  · exact nomatch h

/-- The items of an array, if each of them has the property. -/
theorem items?_yields (hvalue : value.Yields Value.Distinct) (steps : Nat) :
    Reader.Yields (items? value steps) fun items => ∀ v ∈ items, v.Distinct := by
  induction steps with
  | zero => exact fun s items rest h => nomatch h
  | succ steps ih =>
      intro s items rest h
      obtain ⟨s, -, h⟩ := Option.bind_eq_some_iff.mp h
      split at h
      · rw [← fst_of_some h]
        exact List.forall_mem_nil _
      · obtain ⟨⟨v, s⟩, hv, h⟩ := Option.bind_eq_some_iff.mp h
        have hv : v.Distinct := hvalue _ _ _ hv
        obtain ⟨s, -, h⟩ := Option.bind_eq_some_iff.mp h
        split at h
        · rw [← fst_of_some h]
          exact List.forall_mem_singleton.mpr hv
        · obtain ⟨⟨vs, s⟩, hvs, h⟩ := Option.bind_eq_some_iff.mp h
          rw [← fst_of_some h]
          exact List.forall_mem_cons.mpr ⟨hv, ih _ _ _ hvs⟩
        · exact nomatch h

theorem pair?_yields (hvalue : value.Yields Value.Distinct) :
    Reader.Yields (pair? value) fun p => p.2.2.Distinct := by
  intro s p rest h
  obtain ⟨⟨parts, s⟩, -, h⟩ := Option.bind_eq_some_iff.mp h
  obtain ⟨⟨path, k⟩, -, h⟩ := Option.bind_eq_some_iff.mp h
  dsimp only at h
  split at h
  · obtain ⟨⟨v, s⟩, hv, h⟩ := Option.bind_eq_some_iff.mp h
    rw [← fst_of_some h]
    exact hvalue _ _ _ hv
  · exact nomatch h

/-- The pairs in braces, if each of their values has the property. -/
theorem pairs?_yields (hvalue : value.Yields Value.Distinct) (steps : Nat) :
    Reader.Yields (pairs? value steps) fun pairs => ∀ p ∈ pairs, p.2.2.Distinct := by
  induction steps with
  | zero => exact fun s pairs rest h => nomatch h
  | succ steps ih =>
      intro s pairs rest h
      obtain ⟨⟨p, s⟩, hp, h⟩ := Option.bind_eq_some_iff.mp h
      have hp : p.2.2.Distinct := pair?_yields hvalue _ _ _ hp
      dsimp only at h
      split at h
      · rw [← fst_of_some h]
        exact List.forall_mem_singleton.mpr hp
      · obtain ⟨⟨ps, s⟩, hps, h⟩ := Option.bind_eq_some_iff.mp h
        rw [← fst_of_some h]
        exact List.forall_mem_cons.mpr ⟨hp, ih _ _ _ hps⟩
      · exact nomatch h

/-- **Values**, nested as deep as they may be. -/
theorem value?_yields (depth : Nat) : Reader.Yields (value? depth) Value.Distinct := by
  induction depth with
  | zero => exact scalar?_yields
  | succ depth ih =>
      intro s v rest h
      unfold value? at h
      split at h
      · obtain ⟨⟨vs, s⟩, hvs, h⟩ := Option.bind_eq_some_iff.mp h
        rw [← fst_of_some h]
        exact .array (items?_yields ih _ _ _ _ hvs)
      · split at h
        · rw [← fst_of_some h]
          exact .table List.nodup_nil (List.forall_mem_nil _)
        · obtain ⟨⟨ps, s⟩, hps, h⟩ := Option.bind_eq_some_iff.mp h
          obtain ⟨items, hitems, h⟩ := Option.bind_eq_some_iff.mp h
          rw [← fst_of_some h]
          have hpairs := pairs?_yields ih _ _ _ _ hps
          obtain ⟨hkeys, hentries⟩ := (setAllDotted?_distinct hpairs Items.distinct_nil hitems).finish
          exact .table hkeys hentries
      · exact scalar?_yields _ _ _ h

/-! ## Whole texts -/

theorem statementsFrom?_distinct {steps : Nat} {s : List Char} {statements : List Statement}
    (h : statementsFrom? steps s = some statements) : ∀ s ∈ statements, s.Distinct := by
  induction steps generalizing s statements with
  | zero => exact nomatch h
  | succ steps ih =>
      unfold statementsFrom? at h
      split at h
      · rw [← Option.some.inj h]
        exact List.forall_mem_nil _
      · obtain ⟨⟨⟨path, k⟩, s⟩, -, h⟩ := Option.bind_eq_some_iff.mp h
        obtain ⟨later, hlater, h⟩ := Option.bind_eq_some_iff.mp h
        rw [← Option.some.inj h]
        exact List.forall_mem_cons.mpr ⟨trivial, ih hlater⟩
      · obtain ⟨⟨⟨path, k⟩, s⟩, -, h⟩ := Option.bind_eq_some_iff.mp h
        obtain ⟨later, hlater, h⟩ := Option.bind_eq_some_iff.mp h
        rw [← Option.some.inj h]
        exact List.forall_mem_cons.mpr ⟨trivial, ih hlater⟩
      · split at h
        · obtain ⟨s, -, h⟩ := Option.bind_eq_some_iff.mp h
          exact ih h
        · obtain ⟨⟨⟨path, k, v⟩, s⟩, hpair, h⟩ := Option.bind_eq_some_iff.mp h
          obtain ⟨s', -, h⟩ := Option.bind_eq_some_iff.mp h
          obtain ⟨later, hlater, h⟩ := Option.bind_eq_some_iff.mp h
          rw [← Option.some.inj h]
          have hv : v.Distinct := pair?_yields (value?_yields _) _ _ _ hpair
          exact List.forall_mem_cons.mpr ⟨hv, ih hlater⟩

/-- **A text that is read** names no key twice, neither by itself nor in a table that it holds. -/
theorem parse?_distinct {text : String} {entries : List (String × Value)} (h : parse? text = some entries) :
    (keys entries).Nodup ∧ ∀ e ∈ entries, e.2.Distinct := by
  obtain ⟨statements, hstatements, h⟩ := Option.bind_eq_some_iff.mp h
  obtain ⟨items, hitems, rfl⟩ := Option.map_eq_some_iff.mp h
  have hdistinct : ∀ s ∈ statements, s.Distinct := by
    unfold statements? at hstatements
    split at hstatements
    · exact statementsFrom?_distinct hstatements
    · exact statementsFrom?_distinct hstatements
  exact (follow?_distinct hdistinct Items.distinct_nil hitems).finish

end ItemQuery.Toml
