import ItemQuery.Proofs.Compiler.Outcome
import Mathlib.Data.List.Forall2
import Mathlib.Data.List.Nodup

/-!
# `Proofs.Compiler.Layout` — the list that compiling produces

Compiled criteria are shown and compared as lists, so the list itself is documented: which criterion puts a
predicate on which path, when, with which condition, and in which order. This file states that documentation
on its own terms and proves that compiling meets it.

`Criteria.schema` gives every path of the fixed layout its criterion, and `Criterion.Active` and
`Criterion.Asks` say when a criterion constrains and what it then asks for. Both look at the one criterion
only. The price has rules of its own (`PriceAsks`), because it goes under the currency, and so have modifiers
(`ModifierAsks`), because their paths are not fixed.

## Contents
- `Bounds.Asks`, `Criterion.Asks`, `PriceAsks`, `ModifierAsks`: what criteria ask for.
- `Criteria.schema`, `schemaPaths`: criteria by path, and the paths in order.
- `FollowsSchema`: predicates that are on the documented paths, in order, each exactly when it should be.
- `compile_layout`: accepted criteria give a list that follows the schema, and then their modifiers.
-/

namespace ItemQuery

/-! ## What criteria ask for -/

/-- What bounds on a value ask for: a closed range, or one side of it. -/
inductive Bounds.Asks : Bounds Operand → Condition → Prop
  | both (lo hi : Operand) : Asks ⟨some lo, some hi⟩ (.between lo hi)
  | lower (lo : Operand) : Asks ⟨some lo, none⟩ (.atLeast lo)
  | upper (hi : Operand) : Asks ⟨none, some hi⟩ (.atMost hi)

/-- A criterion on the fixed layout, by its kind. -/
inductive Criterion where
  /-- A part of a text. -/
  | substring (s : Option String)
  /-- A category in the singular or plural. -/
  | category (s : Option String)
  /-- An exact text. -/
  | label (s : Option String)
  | flag (b : Option Bool)
  /-- A closed range of integers. -/
  | whole (b : Bounds Int64)
  /-- A closed range of numbers. -/
  | real (b : Bounds Float)
  /-- Bounds on a derived quantity. -/
  | derived (b : Bounds Float)
  /-- A least number. -/
  | least (n : Option Int64)
  /-- Bounds on the link count. -/
  | links (b : Bounds Int64)

namespace Criterion

/-- The criterion constrains the search. -/
def Active : Criterion → Prop
  | substring s => s.isSome
  | category s => s.isSome
  | label s => s.isSome
  | flag b => b = some true
  | whole b => b.isEmpty = false
  | real b => b.isEmpty = false
  | derived b => b.isEmpty = false
  | least n => n.isSome
  | links b => b.isEmpty = false

/-- **What a criterion asks for**, as a rule for each kind. Two bounds on a derived quantity ask for their
    mean, and two bounds on the link count ask for the lower one. -/
inductive Asks : Criterion → Condition → Prop
  | substring (s : String) : Asks (.substring (some s)) (.contains s)
  | category (s : String) : Asks (.category (some s)) (.equals (.text (pluralize s)))
  | label (s : String) : Asks (.label (some s)) (.equals (.text s))
  | flag : Asks (.flag (some true)) (.equals (.bool true))
  | whole {b : Bounds Int64} {cond : Condition} (h : (b.map Operand.int).Asks cond) :
      Asks (.whole b) cond
  | real {b : Bounds Float} {cond : Condition} (h : (b.map Operand.ofFloat).Asks cond) :
      Asks (.real b) cond
  | mean (lo hi : Float) :
      Asks (.derived ⟨some lo, some hi⟩) (.atLeast (.ofFloat (lo / 2.0 + hi / 2.0)))
  | derivedLower (lo : Float) : Asks (.derived ⟨some lo, none⟩) (.atLeast (.ofFloat lo))
  | derivedUpper (hi : Float) : Asks (.derived ⟨none, some hi⟩) (.atMost (.ofFloat hi))
  | least (n : Int64) : Asks (.least (some n)) (.atLeast (.int n))
  | linksEqual (lo hi : Int64) : Asks (.links ⟨some lo, some hi⟩) (.oneOf [lo])
  | linksFrom (lo : Int64) :
      Asks (.links ⟨some lo, none⟩) (.oneOf ([0, 1, 2, 3, 4, 5, 6].filter (lo ≤ ·)))
  | linksBelow (hi : Int64) :
      Asks (.links ⟨none, some hi⟩) (.oneOf ([0, 1, 2, 3, 4, 5, 6].filter (· < hi)))

/-- The condition that the compiler makes of a criterion, if any. -/
def condition : Criterion → Option Condition
  | substring s => s.map .contains
  | category s => s.map fun s => .equals (.text (pluralize s))
  | label s => s.map fun s => .equals (.text s)
  | flag b => if b = some true then some (.equals (.bool true)) else none
  | whole b => rangeCondition (b.map .int)
  | real b => rangeCondition (b.map .ofFloat)
  | derived b => derivedCondition b
  | least n => n.map fun n => .atLeast (.int n)
  | links b => (linkMembers b).map .oneOf

end Criterion

/-! ## The layout -/

/-- **The fixed layout**: every path but those of the price, in order, with its criterion. -/
def Criteria.schema (x : Criteria) : List (String × Criterion) :=
  [("name", .substring x.name),
   ("type", .category x.category),
   ("typeLine", .label x.typeLine),
   ("league", .label x.league),
   ("corrupted", .flag x.corrupted),
   ("verified", .flag x.verified),
   ("identified", .flag x.identified),
   ("support", .flag x.supported),
   ("ilvl", .whole x.itemLevel),
   ("sockets.socket_number", .whole x.socketCount),
   ("requirements.Int", .whole x.requirements.intelligence),
   ("requirements.Dex", .whole x.requirements.dexterity),
   ("requirements.Str", .whole x.requirements.strength),
   ("requirements.Level", .whole x.requirements.level),
   ("properties.Armour", .real x.armour),
   ("properties.Evasion Rating", .real x.evasion),
   ("properties.Energy Shield", .real x.energyShield),
   ("properties.Chance to Block", .real x.block),
   ("properties.Quality", .real x.quality),
   ("properties.Physical Damage", .derived x.physicalDamage),
   ("properties.Elemental Damage", .derived x.elementalDamage),
   ("properties.Critical Strike Chance", .derived x.criticalStrikeChance),
   ("properties.Attacks per Second", .derived x.attacksPerSecond),
   ("sockets.S", .least x.strSockets),
   ("sockets.D", .least x.dexSockets),
   ("sockets.I", .least x.intSockets),
   ("sockets.Other", .least x.otherSockets),
   ("sockets.link", .links x.linkCount)]

/-- All paths of the fixed layout, in the order in which predicates on them stand. -/
def schemaPaths : List String :=
  ["Price.Currency", "Price.Number", "name", "type", "typeLine", "league", "corrupted", "verified",
   "identified", "support", "ilvl", "sockets.socket_number", "requirements.Int", "requirements.Dex",
   "requirements.Str", "requirements.Level", "properties.Armour", "properties.Evasion Rating",
   "properties.Energy Shield", "properties.Chance to Block", "properties.Quality",
   "properties.Physical Damage", "properties.Elemental Damage",
   "properties.Critical Strike Chance", "properties.Attacks per Second", "sockets.S", "sockets.D",
   "sockets.I", "sockets.Other", "sockets.link"]

/-- The path of a predicate's own clause. -/
def Predicate.field (p : Predicate) : String := p.clause.path.text

/-- What a currency with this code and a price ask for: the currency alone if the price has no bounds, else
    the price with the currency as its anchor. -/
inductive PriceAsks (code : String) (b : Bounds Float) : Predicate → Prop
  | currency (h : b.isEmpty = true) :
      PriceAsks code b ⟨none, ⟨⟨"Price.Currency"⟩, .equals (.text code)⟩⟩
  | number {cond : Condition} (h : (b.map Operand.ofFloat).Asks cond) :
      PriceAsks code b
        ⟨some ⟨⟨"Price.Currency"⟩, .equals (.text code)⟩, ⟨⟨"Price.Number"⟩, cond⟩⟩

/-- What a modifier asks for: to be present, or to have a value within its bounds. -/
inductive ModifierAsks (m : ModifierCriterion) : Predicate → Prop
  | present (h : m.bounds.isEmpty = true) :
      ModifierAsks m ⟨none, ⟨⟨"Mods." ++ m.name⟩, .present⟩⟩
  | bounded {cond : Condition} (h : (m.bounds.map Operand.ofFloat).Asks cond) :
      ModifierAsks m ⟨none, ⟨⟨"Mods." ++ m.name⟩, cond⟩⟩

/-- **Predicates that follow the schema.** They stand in the order of the paths, no path twice. The price has
    one of its two paths exactly if a currency is given, and every other path occurs exactly if its criterion is
    active. Each predicate is what its own criterion asks for. -/
structure FollowsSchema (c : Compiler) (x : Criteria) (ps : List Predicate) : Prop where
  ordered : (ps.map Predicate.field).Sublist schemaPaths
  distinct : (ps.map Predicate.field).Nodup
  currency_iff : "Price.Currency" ∈ ps.map Predicate.field ↔
    x.currencyName.isSome ∧ x.price.isEmpty = true
  number_iff : "Price.Number" ∈ ps.map Predicate.field ↔
    x.currencyName.isSome ∧ x.price.isEmpty = false
  price : ∀ p ∈ ps, p.field = "Price.Currency" ∨ p.field = "Price.Number" →
    ∃ name code, x.currencyName = some name ∧ c.currencies.get? name = some code ∧
      PriceAsks code x.price p
  criterion_iff : ∀ path criterion, (path, criterion) ∈ x.schema →
    (path ∈ ps.map Predicate.field ↔ criterion.Active)
  criterion : ∀ path criterion, (path, criterion) ∈ x.schema → ∀ p ∈ ps, p.field = path →
    p.anchor = none ∧ criterion.Asks p.clause.condition

/-! ## Conditions of criteria -/

theorem rangeCondition_eq_some_iff {b : Bounds Operand} {cond : Condition} :
    rangeCondition b = some cond ↔ b.Asks cond := by
  constructor
  · intro h
    rcases b with ⟨_ | lo, _ | hi⟩
    · exact nomatch h
    · exact Option.some.inj h ▸ .upper hi
    · exact Option.some.inj h ▸ .lower lo
    · exact Option.some.inj h ▸ .both lo hi
  · intro h
    cases h <;> rfl

theorem rangeCondition_eq_none_iff {b : Bounds Operand} :
    rangeCondition b = none ↔ b.isEmpty = true := by
  rcases b with ⟨_ | lo, _ | hi⟩ <;> simp [rangeCondition, Bounds.isEmpty]

theorem Bounds.isEmpty_map {α β : Type} (f : α → β) (b : Bounds α) :
    (b.map f).isEmpty = b.isEmpty := by
  simp [Bounds.isEmpty, Bounds.map]

namespace Criterion

theorem condition_derived_eq_some_iff {b : Bounds Float} {cond : Condition} :
    derivedCondition b = some cond ↔ (Criterion.derived b).Asks cond := by
  constructor
  · intro h
    rcases b with ⟨_ | lo, _ | hi⟩
    · exact nomatch h
    · exact Option.some.inj h ▸ .derivedUpper hi
    · exact Option.some.inj h ▸ .derivedLower lo
    · exact Option.some.inj h ▸ .mean lo hi
  · intro h
    cases h <;> rfl

theorem condition_links_eq_some_iff {b : Bounds Int64} {cond : Condition} :
    (linkMembers b).map .oneOf = some cond ↔ (Criterion.links b).Asks cond := by
  constructor
  · intro h
    rcases b with ⟨_ | lo, _ | hi⟩
    · exact nomatch h
    · exact Option.some.inj h ▸ .linksBelow hi
    · exact Option.some.inj h ▸ .linksFrom lo
    · exact Option.some.inj h ▸ .linksEqual lo hi
  · intro h
    cases h <;> rfl

/-- The compiler makes of a criterion what it asks for. -/
theorem condition_eq_some_iff {a : Criterion} {cond : Condition} :
    a.condition = some cond ↔ a.Asks cond := by
  cases a with
  | substring s =>
      constructor
      · intro h
        obtain ⟨s, rfl, rfl⟩ := Option.map_eq_some_iff.mp h
        exact .substring s
      · rintro ⟨⟩
        rfl
  | category s =>
      constructor
      · intro h
        obtain ⟨s, rfl, rfl⟩ := Option.map_eq_some_iff.mp h
        exact .category s
      · rintro ⟨⟩
        rfl
  | label s =>
      constructor
      · intro h
        obtain ⟨s, rfl, rfl⟩ := Option.map_eq_some_iff.mp h
        exact .label s
      · rintro ⟨⟩
        rfl
  | flag b =>
      constructor
      · intro h
        obtain ⟨rfl, rfl⟩ : b = some true ∧ .equals (.bool true) = cond := by
          simpa [condition] using h
        exact .flag
      · rintro ⟨⟩
        rfl
  | whole b =>
      refine rangeCondition_eq_some_iff.trans ⟨.whole, fun h => ?_⟩
      cases h with
      | whole h => exact h
  | real b =>
      refine rangeCondition_eq_some_iff.trans ⟨.real, fun h => ?_⟩
      cases h with
      | real h => exact h
  | derived b => exact condition_derived_eq_some_iff
  | least n =>
      constructor
      · intro h
        obtain ⟨n, rfl, rfl⟩ := Option.map_eq_some_iff.mp h
        exact .least n
      · rintro ⟨⟩
        rfl
  | links b => exact condition_links_eq_some_iff

/-- The compiler makes something of a criterion exactly if it is active. -/
theorem condition_isSome_iff (a : Criterion) : a.condition.isSome ↔ a.Active := by
  have hbounds {α : Type} (b : Bounds α) (f : α → Operand) :
      (rangeCondition (b.map f)).isSome ↔ b.isEmpty = false := by
    rw [← Bounds.isEmpty_map f b, ← Bool.not_eq_true, ← rangeCondition_eq_none_iff,
      Option.isSome_iff_ne_none]
  cases a with
  | substring s => simp [condition, Active]
  | category s => simp [condition, Active]
  | label s => simp [condition, Active]
  | flag b => simp [condition, Active]
  | whole b => exact hbounds b _
  | real b => exact hbounds b _
  | derived b =>
      rcases b with ⟨_ | lo, _ | hi⟩ <;> simp [condition, Active, derivedCondition, Bounds.isEmpty]
  | least n => simp [condition, Active]
  | links b =>
      rcases b with ⟨_ | lo, _ | hi⟩ <;> simp [condition, Active, linkMembers, Bounds.isEmpty]

end Criterion

/-! ## The schema and the compiler's rows -/

/-- The rows of the compiler are those of the schema. -/
theorem Criteria.fixedRows_eq_schema (x : Criteria) :
    x.fixedRows = x.schema.map fun row => (row.1, row.2.condition) := rfl

theorem schemaPaths_eq (x : Criteria) :
    schemaPaths = ["Price.Currency", "Price.Number"] ++ x.schema.map Prod.fst := rfl

theorem nodup_schemaPaths : schemaPaths.Nodup := by decide

theorem Criteria.nodup_schema (x : Criteria) : (x.schema.map Prod.fst).Nodup := by
  have h := nodup_schemaPaths
  rw [schemaPaths_eq x] at h
  exact (List.nodup_append.mp h).2.1

/-- A path of the schema has one criterion. -/
theorem Criteria.criterion_unique {x : Criteria} {path : String} {a b : Criterion}
    (ha : (path, a) ∈ x.schema) (hb : (path, b) ∈ x.schema) : a = b :=
  congrArg Prod.snd (List.inj_on_of_nodup_map x.nodup_schema ha hb rfl)

/-- The paths of the price are not in the schema of the other criteria. -/
theorem Criteria.price_not_mem_schema {x : Criteria} {path : String} {a : Criterion}
    (ha : (path, a) ∈ x.schema) : path ≠ "Price.Currency" ∧ path ≠ "Price.Number" := by
  have h := nodup_schemaPaths
  rw [schemaPaths_eq x, List.nodup_append] at h
  have hpath : path ∈ x.schema.map Prod.fst := List.mem_map_of_mem ha
  exact ⟨fun he => h.2.2 _ (by simp) path hpath he.symm,
    fun he => h.2.2 _ (by simp) path hpath he.symm⟩

/-- The predicates of rows stand on the paths of these rows, in their order. -/
theorem contributions_sublist (rows : List (String × Option Condition)) :
    ((contributions rows).map Predicate.field).Sublist (rows.map Prod.fst) := by
  induction rows with
  | nil => exact .slnil
  | cons row rows ih =>
      obtain ⟨path, condition⟩ := row
      rw [contributions, List.flatMap_cons, List.map_append, List.map_cons]
      cases condition with
      | none => exact ih.cons path
      | some cond => exact ih.cons_cons path

/-- A predicate on the schema is what an active criterion asks for. -/
theorem mem_contributions_schema {x : Criteria} {p : Predicate} :
    p ∈ contributions x.fixedRows ↔
      ∃ path a cond, (path, a) ∈ x.schema ∧ a.Asks cond ∧ p = Predicate.on path cond := by
  rw [mem_contributions, Criteria.fixedRows_eq_schema]
  constructor
  · rintro ⟨path, cond, hrow, rfl⟩
    obtain ⟨⟨path', a⟩, ha, heq⟩ := List.mem_map.mp hrow
    obtain ⟨rfl, hcond⟩ := Prod.mk.injEq .. ▸ heq
    exact ⟨path', a, cond, ha, Criterion.condition_eq_some_iff.mp hcond, rfl⟩
  · rintro ⟨path, a, cond, ha, hasks, rfl⟩
    refine ⟨path, cond, List.mem_map.mpr ⟨(path, a), ha, ?_⟩, rfl⟩
    rw [Criterion.condition_eq_some_iff.mpr hasks]

namespace Compiler

/-! ## Price and modifiers -/

theorem pricePredicate_asks (code : String) (b : Bounds Float) :
    PriceAsks code b (pricePredicate code b) := by
  unfold pricePredicate
  split
  · rename_i cond hcond
    exact .number (rangeCondition_eq_some_iff.mp hcond)
  · rename_i hcond
    rw [rangeCondition_eq_none_iff, Bounds.isEmpty_map] at hcond
    exact .currency hcond

theorem modifierPredicate_asks (m : ModifierCriterion) : ModifierAsks m (modifierPredicate m) := by
  unfold modifierPredicate
  cases hcond : rangeCondition (m.bounds.map Operand.ofFloat) with
  | none =>
      rw [rangeCondition_eq_none_iff, Bounds.isEmpty_map] at hcond
      exact .present hcond
  | some cond => exact .bounded (rangeCondition_eq_some_iff.mp hcond)

/-- The path of the price predicate tells whether the price has bounds. -/
theorem pricePredicate_field (code : String) (b : Bounds Float) :
    (pricePredicate code b).field = if b.isEmpty then "Price.Currency" else "Price.Number" := by
  unfold pricePredicate
  split
  · rename_i cond hcond
    have hsome : b.isEmpty ≠ true := by
      rw [← Bounds.isEmpty_map Operand.ofFloat, Ne, ← rangeCondition_eq_none_iff, hcond]
      exact fun h => nomatch h
    rw [if_neg hsome]
    rfl
  · rename_i hcond
    rw [rangeCondition_eq_none_iff, Bounds.isEmpty_map] at hcond
    rw [if_pos hcond]
    rfl

/-- Of admitted criteria the currency, if there is one, has a code. -/
theorem Admits.code {c : Compiler} {x : Criteria} (h : c.Admits x) {name : String}
    (hname : x.currencyName = some name) : ∃ code, c.currencies.get? name = some code :=
  Option.isSome_iff_exists.mp (h.listed name hname)

theorem mem_priceEmitted_fields {c : Compiler} {x : Criteria} (h : c.Admits x) {path : String} :
    path ∈ (c.priceEmitted x).map Predicate.field ↔
      x.currencyName.isSome ∧ path = if x.price.isEmpty then "Price.Currency" else "Price.Number" := by
  cases hname : x.currencyName with
  | none => simp [priceEmitted, hname]
  | some name =>
      obtain ⟨code, hcode⟩ := h.code hname
      simp [priceEmitted, hname, hcode, pricePredicate_field]

theorem priceEmitted_sublist (c : Compiler) (x : Criteria) :
    ((c.priceEmitted x).map Predicate.field).Sublist ["Price.Currency", "Price.Number"] := by
  unfold priceEmitted
  split
  · rw [List.map_singleton, List.singleton_sublist, pricePredicate_field]
    split <;> simp
  · exact List.nil_sublist _

theorem contributions_field_ne {x : Criteria} {p : Predicate} (hp : p ∈ contributions x.fixedRows) :
    p.field ≠ "Price.Currency" ∧ p.field ≠ "Price.Number" := by
  obtain ⟨path, a, cond, ha, _, rfl⟩ := mem_contributions_schema.mp hp
  exact Criteria.price_not_mem_schema ha

/-- **Every clause is on a path of the layout or on a modifier's path.** -/
theorem path_of_emits {c : Compiler} {x : Criteria} {cl : Clause} (h : c.Emits x cl) :
    cl.path.text ∈ schemaPaths ∨ ∃ m ∈ x.modifiers, cl.path.text = "Mods." ++ m.name := by
  cases h with
  | currency _ _ => exact Or.inl List.mem_cons_self
  | price _ _ => exact Or.inl (List.mem_cons_of_mem _ List.mem_cons_self)
  | fixed hrow =>
      rw [Criteria.fixedRows_eq_schema] at hrow
      obtain ⟨row, hmem, heq⟩ := List.mem_map.mp hrow
      rw [schemaPaths_eq x]
      refine Or.inl (List.mem_append_right _ (List.mem_map.mpr ⟨row, hmem, ?_⟩))
      exact congrArg Prod.fst heq
  | @modifier m hm => exact Or.inr ⟨m, hm, rfl⟩

/-! ## The schema part -/

/-- A path of the schema has a predicate exactly if its criterion is active. -/
theorem mem_contributions_fields_iff {x : Criteria} {path : String} {a : Criterion}
    (ha : (path, a) ∈ x.schema) :
    path ∈ (contributions x.fixedRows).map Predicate.field ↔ a.Active := by
  rw [← Criterion.condition_isSome_iff, Option.isSome_iff_exists, List.mem_map]
  constructor
  · rintro ⟨p, hp, hpath⟩
    obtain ⟨path', b, cond, hb, hasks, rfl⟩ := mem_contributions_schema.mp hp
    obtain rfl : path' = path := hpath
    obtain rfl := Criteria.criterion_unique ha hb
    exact ⟨cond, Criterion.condition_eq_some_iff.mpr hasks⟩
  · rintro ⟨cond, hcond⟩
    exact ⟨Predicate.on path cond, mem_contributions_schema.mpr
      ⟨path, a, cond, ha, Criterion.condition_eq_some_iff.mp hcond, rfl⟩, rfl⟩

/-- **What is emitted before the modifiers follows the schema.** -/
theorem followsSchema_of_admits {c : Compiler} {x : Criteria} (h : c.Admits x) :
    FollowsSchema c x (c.priceEmitted x ++ contributions x.fixedRows) := by
  have hordered : ((c.priceEmitted x ++ contributions x.fixedRows).map Predicate.field).Sublist
      schemaPaths := by
    rw [List.map_append, schemaPaths_eq x]
    have hrows := contributions_sublist x.fixedRows
    rw [Criteria.fixedRows_eq_schema, List.map_map] at hrows
    exact (c.priceEmitted_sublist x).append hrows
  have hprice {path : String} (hpath : path = "Price.Currency" ∨ path = "Price.Number") :
      path ∈ (c.priceEmitted x ++ contributions x.fixedRows).map Predicate.field ↔
        x.currencyName.isSome ∧
          path = if x.price.isEmpty then "Price.Currency" else "Price.Number" := by
    rw [List.map_append, List.mem_append, mem_priceEmitted_fields h, or_iff_left]
    -- no row of the schema stands on a path of the price
    intro hmem
    obtain ⟨p, hp, rfl⟩ := List.mem_map.mp hmem
    exact hpath.elim (contributions_field_ne hp).1 (contributions_field_ne hp).2
  refine ⟨hordered, nodup_schemaPaths.sublist hordered, ?_, ?_, ?_, ?_, ?_⟩
  · rw [hprice (Or.inl rfl)]
    cases x.price.isEmpty <;> simp
  · rw [hprice (Or.inr rfl)]
    cases x.price.isEmpty <;> simp
  · intro p hp hpath
    rcases List.mem_append.mp hp with hp | hp
    · obtain ⟨name, code, hname, hcode, rfl⟩ := mem_priceEmitted.mp hp
      exact ⟨name, code, hname, hcode, pricePredicate_asks code x.price⟩
    · exact absurd hpath (not_or.mpr (contributions_field_ne hp))
  · intro path a ha
    rw [List.map_append, List.mem_append, mem_contributions_fields_iff ha, mem_priceEmitted_fields h,
      or_iff_right]
    rintro ⟨_, hpath⟩
    have hne := Criteria.price_not_mem_schema ha
    split at hpath
    · exact hne.1 hpath
    · exact hne.2 hpath
  · intro path a ha p hp hpath
    have hne := Criteria.price_not_mem_schema ha
    rcases List.mem_append.mp hp with hp | hp
    · exfalso
      obtain ⟨name, code, _, _, rfl⟩ := mem_priceEmitted.mp hp
      rw [pricePredicate_field] at hpath
      split at hpath
      · exact hne.1 hpath.symm
      · exact hne.2 hpath.symm
    · obtain ⟨path', b, cond, hb, hasks, rfl⟩ := mem_contributions_schema.mp hp
      obtain rfl : path' = path := hpath
      obtain rfl := Criteria.criterion_unique ha hb
      exact ⟨rfl, hasks⟩

/-! ## The whole list -/

/-- **Accepted criteria give the documented list**: predicates that follow the schema, and then one predicate
    for each modifier, in the order of the modifiers. -/
theorem compile_layout {c : Compiler} {x : Criteria} {ps : List Predicate}
    (h : c.compile x = .ok ps) :
    ∃ schema modifiers, ps = schema ++ modifiers ∧ FollowsSchema c x schema ∧
      List.Forall₂ ModifierAsks x.modifiers modifiers := by
  obtain ⟨hadmits, rfl⟩ := (compile_eq_ok_iff c x ps).mp h
  refine ⟨c.priceEmitted x ++ contributions x.fixedRows, x.modifiers.map modifierPredicate, rfl,
    followsSchema_of_admits hadmits, ?_⟩
  rw [List.forall₂_map_right_iff, List.forall₂_same]
  exact fun m _ => modifierPredicate_asks m

/-- A search of several kinds of criteria: a price, a category, a mean, a link count and a modifier. -/
theorem layout_of_ring_search :
    ∃ schema modifiers : List Predicate,
      [⟨some ⟨⟨"Price.Currency"⟩, .equals (.text "chaos")⟩,
          ⟨⟨"Price.Number"⟩, .atMost (.ofFloat 5.0)⟩⟩,
        Predicate.on "type" (.equals (.text "Rings")),
        Predicate.on "properties.Physical Damage" (.atLeast (.ofFloat 15.0)),
        Predicate.on "sockets.link" (.oneOf [0, 1]),
        ⟨none, ⟨⟨"Mods.Life"⟩, .present⟩⟩] = schema ++ modifiers ∧
      FollowsSchema {}
        { currencyName := some "Chaos Orb", price := ⟨none, some 5.0⟩, category := some " Ring ",
          physicalDamage := ⟨some 10.0, some 20.0⟩, linkCount := ⟨none, some 2⟩,
          modifiers := [{ name := "Life" }] } schema ∧
      List.Forall₂ ModifierAsks [{ name := "Life" }] modifiers :=
  compile_layout (by decide +kernel)

end Compiler

end ItemQuery
