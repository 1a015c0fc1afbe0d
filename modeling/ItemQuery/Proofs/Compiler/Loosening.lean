import ItemQuery.Proofs.Compiler.Outcome
import ItemQuery.Proofs.Path.Names

/-!
# `Proofs.Compiler.Loosening` — a looser configuration keeps every result

Two compilers are run on the same criteria. One is looser than the other *for these criteria* if it has the same
code for their currency, allows names at least as long, and is strict only where the other is
(`Compiler.Loosens`). Nothing is asked of the rest of the two tables. The table is looked at under one name only,
the limit bounds a length from above, and strictness only takes results away, so that what the tighter compiler
returns is returned by the looser one.

A table that is extended under other names is a special case, and there even the faults stay: every step does what
it did before (`compile_extend`).

## Contents
- `get?_extend`: what a table says of a name stays when others are inserted.
- `Compiler.Loosens`, `admits_of_loosens`, `emitted_of_loosens`: the order, and what it keeps.
- `compile_extend`: tables extended under other names.
- `compile_loosened`: all of it.
-/

namespace ItemQuery

/-! ## Tables -/

/-- Inserting other names changes nothing for a name. -/
theorem Currency.Table.get?_extend (t : Currency.Table) (pairs : List (String × String)) {name : String}
    (h : name ∉ Assoc.keys pairs) : (t.extend pairs).get? name = t.get? name := by
  show (Assoc.setAll t.entries pairs).lookup name = t.entries.lookup name
  -- by induction on the pairs, over whatever was inserted before them
  generalize t.entries = entries
  induction pairs generalizing entries with
  | nil => rfl
  | cons p pairs ih =>
      rw [Assoc.keys_cons, List.mem_cons, not_or] at h
      have hset : (Assoc.set p.1 p.2 entries).lookup name = entries.lookup name := by
        rw [Assoc.lookup_set, if_neg h.1]
      exact (ih h.2 (Assoc.set p.1 p.2 entries)).trans hset

namespace Compiler

/-! ## Looser compilers -/

/-- **`b` is looser than `a` for some criteria**: it has the same code for their currency, its limit on names is
    not smaller, and it is strict only if `a` is. -/
structure Loosens (b a : Compiler) (x : Criteria) : Prop where
  code : ∀ name, x.currencyName = some name → b.currencies.get? name = a.currencies.get? name
  limit : a.options.nameLimit ≤ b.options.nameLimit
  strict : b.options.strictRanges = true → a.options.strictRanges = true

variable {a b : Compiler} {x : Criteria}

theorem admits_of_loosens (h : b.Loosens a x) (ha : a.Admits x) : b.Admits x where
  listed := by
    intro name hname
    have hlisted := ha.listed name hname
    rw [Currency.Table.contains] at hlisted ⊢
    rwa [h.code name hname]
  names := by
    intro m hm
    exact checkName_of_le h.limit (ha.names m hm)
  ordered := by
    intro hstrict
    exact ha.ordered (h.strict hstrict)

/-- What is emitted depends on the code of the currency, and on nothing else of a compiler. -/
theorem emitted_of_loosens (h : b.Loosens a x) : b.emitted x = a.emitted x := by
  have hcode : x.currencyName.bind b.currencies.get? = x.currencyName.bind a.currencies.get? := by
    cases hname : x.currencyName with
    | none => rfl
    | some name => exact h.code name hname
  have hprice : b.priceEmitted x = a.priceEmitted x := by
    rw [priceEmitted, priceEmitted, hcode]
  rw [emitted, emitted, hprice]

theorem compile_of_loosens {ps : List Predicate} (h : b.Loosens a x) (ha : a.compile x = .ok ps) :
    b.compile x = .ok ps := by
  obtain ⟨hadmits, rfl⟩ := (compile_eq_ok_iff a x ps).mp ha
  exact (compile_eq_ok_iff b x _).mpr ⟨admits_of_loosens h hadmits, (emitted_of_loosens h).symm⟩

/-! ## Extended tables -/

/-- The compiler with pairs inserted into its table, one after the other. -/
def extended (c : Compiler) (pairs : List (String × String)) : Compiler :=
  { c with currencies := c.currencies.extend pairs }

/-- The step of the price looks at the table under the name of the currency only. -/
theorem price_extended {c : Compiler} {pairs : List (String × String)}
    (h : ∀ name, x.currencyName = some name → name ∉ Assoc.keys pairs) :
    (c.extended pairs).price x = c.price x := by
  cases hname : x.currencyName with
  | none => rw [price_none hname, price_none hname]
  | some name =>
      have hget : (c.extended pairs).currencies.get? name = c.currencies.get? name :=
        Currency.Table.get?_extend c.currencies pairs (h name hname)
      cases hcode : c.currencies.get? name with
      | none => rw [price_unlisted hname hcode, price_unlisted hname (hget.trans hcode)]
      | some code =>
          rw [price_listed hname hcode, price_listed hname (hget.trans hcode)]
          rfl

/-- **Other names in the table change neither results nor faults.** -/
theorem compile_extend {c : Compiler} {pairs : List (String × String)}
    (h : ∀ name, x.currencyName = some name → name ∉ Assoc.keys pairs) :
    (c.extended pairs).compile x = c.compile x := by
  have hsteps : (c.extended pairs).steps x = c.steps x := by
    rw [steps, price_extended h]
    rfl
  rw [compile, hsteps, compile]

/-- The compiler with another limit on names. -/
def limited (c : Compiler) (limit : Nat) : Compiler :=
  { c with options := { c.options with nameLimit := limit } }

/-- **Loosening the configuration never changes an accepted search.** What a compiler returns is returned by every
    compiler with the same code for the currency of the criteria, a limit on names that is not smaller, and strict
    ranges only if the first has them. In particular pairs may be inserted into the table under other names, in any
    order; this changes no fault either. And the limit may be raised. -/
theorem compile_loosened :
    (∀ (a b : Compiler) (x : Criteria) (ps : List Predicate), b.Loosens a x →
      a.compile x = .ok ps → b.compile x = .ok ps) ∧
    (∀ (c : Compiler) (x : Criteria) (pairs : List (String × String)),
      (∀ name, x.currencyName = some name → name ∉ Assoc.keys pairs) →
      (c.extended pairs).compile x = c.compile x) ∧
    ∀ (c : Compiler) (x : Criteria) (ps : List Predicate) (limit : Nat), c.options.nameLimit ≤ limit →
      c.compile x = .ok ps → (c.limited limit).compile x = .ok ps := by
  refine ⟨fun _ _ _ _ => compile_of_loosens, fun _ _ _ => compile_extend, ?_⟩
  intro c x ps limit hle hc
  have hloosens : (c.limited limit).Loosens c x := ⟨fun _ _ => rfl, hle, id⟩
  exact compile_of_loosens hloosens hc

/-- A price and a modifier under a looser compiler, whose table has another code for another name. -/
theorem loosened_chaos_search :
    let x : Criteria :=
      { currencyName := some "Chaos Orb", price := ⟨some 1.0, some 5.0⟩, modifiers := [{ name := "Life" }] }
    let tight : Compiler := ⟨.ofPairs [("Chaos Orb", "chaos"), ("Vaal Orb", "vaal")], ⟨true, 4⟩⟩
    let loose : Compiler := ⟨.ofPairs [("Vaal Orb", "v"), ("Chaos Orb", "chaos")], ⟨false, 128⟩⟩
    ∃ ps, tight.compile x = .ok ps ∧ loose.compile x = .ok ps ∧
      (tight.extended [("Mirror", "mirror"), ("Vaal Orb", "v")]).compile x = .ok ps ∧
      (tight.limited 5).compile x = .ok ps := by
  intro x tight loose
  have hnames : Currency.Table.get? loose.currencies "Chaos Orb" = tight.currencies.get? "Chaos Orb" := by
    decide +kernel
  have hloosens : loose.Loosens tight x := by
    refine ⟨fun name hname => ?_, by decide, nofun⟩
    obtain rfl := Option.some.inj hname
    exact hnames
  have hother : ∀ name, x.currencyName = some name →
      name ∉ Assoc.keys [("Mirror", "mirror"), ("Vaal Orb", "v")] := by
    intro name hname
    obtain rfl := Option.some.inj hname
    decide
  have htight : tight.compile x =
      .ok [⟨some ⟨⟨"Price.Currency"⟩, .equals (.text "chaos")⟩,
          ⟨⟨"Price.Number"⟩, .between (.ofFloat 1.0) (.ofFloat 5.0)⟩⟩,
        ⟨none, ⟨⟨"Mods.Life"⟩, .present⟩⟩] := by
    rfl
  refine ⟨_, htight, compile_loosened.1 _ _ x _ hloosens htight, ?_, ?_⟩
  · exact (compile_loosened.2.1 tight x _ hother).trans htight
  · exact compile_loosened.2.2 tight x _ 5 (by decide) htight

end Compiler

end ItemQuery
