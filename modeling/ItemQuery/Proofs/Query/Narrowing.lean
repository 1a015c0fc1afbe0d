import ItemQuery.Proofs.Query.Meaning
import Mathlib.Data.List.Flatten

/-!
# `Proofs.Query.Narrowing` — further criteria find fewer records

A search is refined by adding criteria, and widened by taking some away again. The order behind this is
`Criteria.Extends`: what constrains in the smaller criteria constrains in the larger ones too, unchanged, and
the modifiers of the smaller are some of those of the larger, in their order. Nothing is said of criteria that
do not constrain.

Along this order compiling is monotone. Predicates would be the wrong thing to compare: a currency alone is a
predicate of its own, and becomes the anchor of another one when the price gets bounds. So the clauses are
compared, and those of the smaller criteria are a sublist. The other half is about refusals. A step that refuses
does so for its own criterion, which an extension keeps.

## Contents
- `Criterion.Kept`, `Criteria.Extends`: criteria that extend others.
- `ordered_of_extends`, `admits_of_extends`: what is admitted stays admitted with fewer criteria.
- `clauses_emitted_sublist`: fewer criteria emit a sublist of the clauses.
- `compile_narrows`: both together, and what follows for the records that are found.
-/

namespace ItemQuery

/-! ## Criteria that extend others -/

/-- A criterion is **kept** by another: if it constrains, the other is the same. A text, a least number or bounds
    that are given have to be the same, and a flag that is set has to be set. -/
def Criterion.Kept (a b : Criterion) : Prop := a.Active → a = b

/-- **`y` extends `x`**: it keeps all its criteria, and has its modifiers in their order among its own. -/
structure Criteria.Extends (y x : Criteria) : Prop where
  currency : x.currencyName = none ∨ x.currencyName = y.currencyName
  price : x.price.isEmpty = true ∨ x.price = y.price
  schema : List.Forall₂ (fun row row' => row.2.Kept row'.2) x.schema y.schema
  modifiers : x.modifiers.Sublist y.modifiers

/-! ## Bounds in the wrong order -/

/-- The bounds of a criterion, if it has any, are not inverted. -/
def Criterion.InOrder : Criterion → Prop
  | whole b => ¬ b.Inverted
  | real b => ¬ b.Inverted
  | derived b => ¬ b.Inverted
  | links b => ¬ b.Inverted
  | _ => True

theorem Criterion.inOrder_of_not_active {a : Criterion} (h : ¬ a.Active) : a.InOrder := by
  cases a with
  | whole b => exact Bounds.not_inverted_of_isEmpty (eq_true_of_ne_false h)
  | real b => exact Bounds.not_inverted_of_isEmpty (eq_true_of_ne_false h)
  | derived b => exact Bounds.not_inverted_of_isEmpty (eq_true_of_ne_false h)
  | links b => exact Bounds.not_inverted_of_isEmpty (eq_true_of_ne_false h)
  | _ => trivial

theorem Criterion.Kept.inOrder {a b : Criterion} (h : a.Kept b) (hb : b.InOrder) : a.InOrder := by
  by_cases hactive : a.Active
  · rw [h hactive]
    exact hb
  · exact Criterion.inOrder_of_not_active hactive

/-- The pairs that are looked at, along the schema. -/
theorem Criteria.ordered_iff_schema (x : Criteria) :
    x.Ordered ↔ (x.currencyName.isSome → ¬ x.price.Inverted) ∧
      (∀ row ∈ x.schema, row.2.InOrder) ∧ ∀ m ∈ x.modifiers, ¬ m.bounds.Inverted := by
  have hschema : (∀ row ∈ x.schema, row.2.InOrder) ↔
      (∀ r ∈ x.ranges, ¬ r.bounds.Inverted) ∧ (∀ r ∈ x.derived, ¬ r.bounds.Inverted) ∧
        ¬ x.linkCount.Inverted := by
    rw [ranges_ordered_iff, derived_ordered_iff]
    simp only [Criteria.schema, List.forall_mem_cons, Criterion.InOrder, List.not_mem_nil,
      false_implies, implies_true, and_true, true_and, and_assoc]
  rw [Criteria.ordered_iff, hschema]
  simp only [and_assoc]

/-- A property of the rows of a schema holds for criteria that are kept by rows with it. -/
theorem Criteria.Extends.schema_inOrder {x y : Criteria} (h : y.Extends x)
    (hy : ∀ row ∈ y.schema, row.2.InOrder) : ∀ row ∈ x.schema, row.2.InOrder := by
  have hrows := h.schema
  generalize x.schema = rows at hrows ⊢
  generalize y.schema = rows' at hrows hy
  induction hrows with
  | nil => exact fun _ hrow => absurd hrow List.not_mem_nil
  | @cons row row' rows rows' hkept _ ih =>
      rw [List.forall_mem_cons] at hy ⊢
      exact ⟨hkept.inOrder hy.1, ih hy.2⟩

theorem Criteria.ordered_of_extends {x y : Criteria} (h : y.Extends x) (hy : y.Ordered) :
    x.Ordered := by
  obtain ⟨hprice, hschema, hmodifiers⟩ := y.ordered_iff_schema.mp hy
  refine x.ordered_iff_schema.mpr ⟨fun hsome => ?_, h.schema_inOrder hschema, fun m hm => ?_⟩
  · rcases h.price with hempty | hprice'
    · exact Bounds.not_inverted_of_isEmpty hempty
    · rcases h.currency with hnone | hcurrency
      · rw [hnone] at hsome
        exact nomatch hsome
      · rw [hprice']
        exact hprice (hcurrency ▸ hsome)
  · exact hmodifiers m (h.modifiers.subset hm)

namespace Compiler

/-- **What is admitted stays admitted with fewer criteria.** -/
theorem admits_of_extends {c : Compiler} {x y : Criteria} (h : y.Extends x) (hy : c.Admits y) :
    c.Admits x := by
  refine ⟨fun name hname => ?_, fun m hm => hy.names m (h.modifiers.subset hm),
    fun hstrict => Criteria.ordered_of_extends h (hy.ordered hstrict)⟩
  rcases h.currency with hnone | hcurrency
  · rw [hnone] at hname
    exact nomatch hname
  · exact hy.listed name (hcurrency ▸ hname)

/-! ## Clauses that are emitted -/

/-- The clauses of a price: the currency, and the number if it has bounds. -/
theorem clauses_pricePredicate (code : String) (b : Bounds Float) :
    (pricePredicate code b).clauses =
      ⟨⟨"Price.Currency"⟩, .equals (.text code)⟩ ::
        ((rangeCondition (b.map Operand.ofFloat)).map (Clause.mk ⟨"Price.Number"⟩)).toList := by
  unfold pricePredicate
  cases rangeCondition (b.map Operand.ofFloat) <;> rfl

theorem clauses_pricePredicate_sublist (code : String) {b b' : Bounds Float}
    (h : b.isEmpty = true ∨ b = b') :
    (pricePredicate code b).clauses.Sublist (pricePredicate code b').clauses := by
  rcases h with hempty | rfl
  · rw [clauses_pricePredicate, clauses_pricePredicate,
      rangeCondition_eq_none_iff.mpr ((Bounds.isEmpty_map _ b).trans hempty)]
    exact (List.nil_sublist _).cons_cons _
  · exact List.Sublist.refl _

theorem clauses_priceEmitted_sublist (c : Compiler) {x y : Criteria} (h : y.Extends x) :
    ((c.priceEmitted x).flatMap Predicate.clauses).Sublist
      ((c.priceEmitted y).flatMap Predicate.clauses) := by
  rcases h.currency with hnone | hcurrency
  · have hnothing : c.priceEmitted x = [] := by simp only [priceEmitted, hnone, Option.bind_none]
    rw [hnothing]
    exact List.nil_sublist _
  · unfold priceEmitted
    rw [hcurrency]
    cases y.currencyName.bind c.currencies.get? with
    | none => exact List.Sublist.refl _
    | some code =>
        simp only [List.flatMap_singleton]
        exact clauses_pricePredicate_sublist code h.price

/-- A criterion that is kept contributes what it did. -/
theorem contribution_sublist_of_kept (path : String) {a b : Criterion} (h : a.Kept b) :
    (contribution path a.condition).Sublist (contribution path b.condition) := by
  cases hcond : a.condition with
  | none => exact List.nil_sublist _
  | some cond =>
      have hactive : a.Active := by
        rw [← Criterion.condition_isSome_iff, hcond]
        rfl
      rw [← h hactive, hcond]

theorem contributions_sublist_of_kept {rows rows' : List (String × Criterion)}
    (h : List.Forall₂ (fun row row' => row.2.Kept row'.2) rows rows')
    (hpaths : rows.map Prod.fst = rows'.map Prod.fst) :
    (contributions (rows.map fun row => (row.1, row.2.condition))).Sublist
      (contributions (rows'.map fun row => (row.1, row.2.condition))) := by
  induction h with
  | nil => exact .slnil
  | @cons row row' rows rows' hkept _ ih =>
      obtain ⟨hpath, hpaths⟩ := List.cons.inj hpaths
      simp only [contributions, List.map_cons, List.flatMap_cons] at ih ⊢
      rw [hpath]
      exact (contribution_sublist_of_kept row'.1 hkept).append (ih hpaths)

/-- **Fewer criteria emit a sublist of the clauses.** -/
theorem clauses_emitted_sublist (c : Compiler) {x y : Criteria} (h : y.Extends x) :
    ((c.emitted x).flatMap Predicate.clauses).Sublist
      ((c.emitted y).flatMap Predicate.clauses) := by
  have hrows : (contributions x.fixedRows).Sublist (contributions y.fixedRows) := by
    rw [Criteria.fixedRows_eq_schema, Criteria.fixedRows_eq_schema]
    exact contributions_sublist_of_kept h.schema rfl
  have hmodifiers : (x.modifiers.map modifierPredicate).Sublist
      (y.modifiers.map modifierPredicate) := h.modifiers.map modifierPredicate
  simp only [emitted, List.flatMap_append]
  exact ((c.clauses_priceEmitted_sublist h).append (hrows.flatMap _)).append (hmodifiers.flatMap _)

/-! ## Searches -/

/-- **Adding criteria only narrows a search.** Let `y` extend `x`. If a compiler accepts `y`, it accepts `x`, and
    the clauses of `x` are a sublist of those of `y`. So what satisfies all clauses of `y` satisfies all clauses
    of `x`, and where the query of `y` holds, the query of `x` holds. -/
theorem compile_narrows {c : Compiler} {x y : Criteria} {qs : List Predicate} (h : y.Extends x)
    (hy : c.compile y = .ok qs) :
    ∃ ps, c.compile x = .ok ps ∧
      (ps.flatMap Predicate.clauses).Sublist (qs.flatMap Predicate.clauses) ∧
      (∀ satisfied : Clause → Prop, (∀ q ∈ qs, ∀ cl ∈ q.clauses, satisfied cl) →
        ∀ p ∈ ps, ∀ cl ∈ p.clauses, satisfied cl) ∧
      ∀ I : String → Bson → Prop, Query.Holds I (Query.ofPredicates qs) →
        Query.Holds I (Query.ofPredicates ps) := by
  obtain ⟨hadmits, rfl⟩ := (compile_eq_ok_iff c y qs).mp hy
  have hx : c.compile x = .ok (c.emitted x) :=
    (compile_eq_ok_iff c x _).mpr ⟨admits_of_extends h hadmits, rfl⟩
  have hclauses := c.clauses_emitted_sublist h
  have hsatisfied (satisfied : Clause → Prop)
      (hall : ∀ q ∈ c.emitted y, ∀ cl ∈ q.clauses, satisfied cl) :
      ∀ p ∈ c.emitted x, ∀ cl ∈ p.clauses, satisfied cl := by
    intro p hp cl hcl
    have hmem := hclauses.subset (List.mem_flatMap.mpr ⟨p, hp, hcl⟩)
    obtain ⟨q, hq, hcl'⟩ := List.mem_flatMap.mp hmem
    exact hall q hq cl hcl'
  refine ⟨c.emitted x, hx, hclauses, hsatisfied, fun I hI => ?_⟩
  rw [Query.holds_ofPredicates (apart_of_compile hx) (plainPaths_of_compile hx)]
  refine hsatisfied (fun cl => I cl.path.text cl.condition.reading) ?_
  exact (Query.holds_ofPredicates (apart_of_compile hy) (plainPaths_of_compile hy)).mp hI

/-- Of a search for a price, a league and two modifiers, the currency and the second modifier are left. -/
theorem narrows_to_currency_and_modifier :
    ∃ ps, ({} : Compiler).compile
        { currencyName := some "Chaos Orb", corrupted := some false,
          modifiers := [{ name := "Life" }] } = .ok ps ∧
      (ps.flatMap Predicate.clauses).Sublist
        [⟨⟨"Price.Currency"⟩, .equals (.text "chaos")⟩, ⟨⟨"Price.Number"⟩, .atMost (.ofFloat 5.0)⟩,
          ⟨⟨"league"⟩, .equals (.text "Standard")⟩, ⟨⟨"Mods.Mana"⟩, .atLeast (.ofFloat 3.0)⟩,
          ⟨⟨"Mods.Life"⟩, .present⟩] := by
  have hy : ({} : Compiler).compile
      { currencyName := some "Chaos Orb", price := ⟨none, some 5.0⟩, league := some "Standard",
        modifiers := [{ name := "Mana", lower := some 3.0 }, { name := "Life" }] } =
        .ok [⟨some ⟨⟨"Price.Currency"⟩, .equals (.text "chaos")⟩,
            ⟨⟨"Price.Number"⟩, .atMost (.ofFloat 5.0)⟩⟩,
          .on "league" (.equals (.text "Standard")),
          ⟨none, ⟨⟨"Mods.Mana"⟩, .atLeast (.ofFloat 3.0)⟩⟩,
          ⟨none, ⟨⟨"Mods.Life"⟩, .present⟩⟩] := by decide +kernel
  have hextends : Criteria.Extends
      { currencyName := some "Chaos Orb", price := ⟨none, some 5.0⟩, league := some "Standard",
        modifiers := [{ name := "Mana", lower := some 3.0 }, { name := "Life" }] }
      { currencyName := some "Chaos Orb", corrupted := some false,
        modifiers := [{ name := "Life" }] } := by
    refine ⟨Or.inr rfl, Or.inl rfl, ?_, List.Sublist.cons _ (List.Sublist.refl _)⟩
    simp [Criteria.schema, Criterion.Kept, Criterion.Active, Bounds.isEmpty]
  obtain ⟨ps, hps, hclauses, -⟩ := compile_narrows hextends hy
  exact ⟨ps, hps, hclauses⟩

end Compiler

end ItemQuery
