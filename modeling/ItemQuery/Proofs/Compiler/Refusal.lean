import ItemQuery.Proofs.Compiler.Outcome
import ItemQuery.Proofs.Path.Names

/-!
# `Proofs.Compiler.Refusal` — why criteria are refused

Several things can be wrong with criteria at once, and one of them is reported. Which one is documented as a list
of checks (`Compiler.checks`): the currency, the price, every pair of bounds on the fixed layout, and of every
modifier first its name and then its bounds. The fault that is reported is the first one that these checks find.

The proof goes along the steps of the compiler. A step refuses with the first fault of some checks of its own
(`Step.Refuses`), steps in a row refuse with the first fault of all their checks in a row, and the steps that
never refuse have no checks. What is left is to compare two lists.

## Contents
- `Compiler.unlisted`, `Compiler.inverted`, `Compiler.invertedPrice`, `Compiler.misnamed`, `Compiler.checks`.
- `Step.Refuses` with `refuses_append`, `refuses_collect_map`: checks along a list of steps.
- One `*_refuses` lemma for each kind of step.
- `compile_eq_error_iff`: compiling refuses with the first fault of the checks.
- `compile_ne_config`, `misnamed_of_compile`: what is never reported, and where a reported name comes from.
- `compile_refusal`: criteria are refused exactly for a check that fails.
-/

namespace ItemQuery

namespace Compiler

/-! ## The checks -/

/-- The currency is given and not listed. -/
def unlisted (c : Compiler) (x : Criteria) (e : Fault) : Prop :=
  ∃ name, x.currencyName = some name ∧ c.currencies.contains name = false ∧
    e = .unknownCategory "currency" name

/-- Ranges are strict and both bounds are given in the wrong order. The fault shows them as they are given. -/
def inverted {α : Type} [LT α] (c : Compiler) (field : String) (display : α → String) (b : Bounds α)
    (e : Fault) : Prop :=
  c.options.strictRanges = true ∧
    ∃ lo hi, b.min = some lo ∧ b.max = some hi ∧ hi < lo ∧
      e = .invertedRange field (display lo) (display hi)

/-- A currency is given, so that the price counts, and the bounds of the price are in the wrong order. -/
def invertedPrice (c : Compiler) (x : Criteria) (e : Fault) : Prop :=
  x.currencyName.isSome ∧ c.inverted "price" Decimal.displayFloat x.price e

/-- The name of a modifier does not pass its checks. -/
def misnamed (c : Compiler) (m : ModifierCriterion) (e : Fault) : Prop :=
  ∃ fault, FirstFault (nameChecks m.name c.options.nameLimit) fault ∧
    e = .invalidName m.name fault.reason

/-- **All that criteria can be refused for**, in the order in which it is reported. -/
def checks (c : Compiler) (x : Criteria) : List (Fault → Prop) :=
  let whole (field : String) (b : Bounds Int64) := c.inverted field (fun n => n.toInt.repr) b
  let real (field : String) (b : Bounds Float) := c.inverted field Decimal.displayFloat b
  [c.unlisted x,
   c.invertedPrice x,
   whole "item_level" x.itemLevel,
   whole "socket_count" x.socketCount,
   whole "requirements.intelligence" x.requirements.intelligence,
   whole "requirements.dexterity" x.requirements.dexterity,
   whole "requirements.strength" x.requirements.strength,
   whole "requirements.level" x.requirements.level,
   real "armour" x.armour,
   real "evasion" x.evasion,
   real "energy_shield" x.energyShield,
   real "block" x.block,
   real "quality" x.quality,
   real "physical_damage" x.physicalDamage,
   real "elemental_damage" x.elementalDamage,
   real "critical_strike_chance" x.criticalStrikeChance,
   real "attacks_per_second" x.attacksPerSecond,
   whole "link_count" x.linkCount] ++
  x.modifiers.flatMap fun m => [c.misnamed m, real "modifier" m.bounds]

end Compiler

/-! ## Checks along a list of steps -/

/-- A step **refuses** by checks: it fails exactly with the first fault that they find. -/
def Step.Refuses (s : Step) (checks : List (Fault → Prop)) : Prop :=
  ∀ e, s = .error e ↔ FirstFault checks e

theorem Step.refuses_ok (ps : List Predicate) : Step.Refuses (.ok ps) [] := by
  intro e
  constructor
  · exact fun h => nomatch h
  · exact fun h => absurd h not_firstFault_nil

namespace Compiler

theorem refuses_bind {s t : Step} {cs ds : List (Fault → Prop)} (hs : s.Refuses cs)
    (ht : t.Refuses ds) : Step.Refuses (do let a ← s; let b ← t; return a ++ b) (cs ++ ds) := by
  intro e
  rw [firstFault_append_iff, ← hs e, ← ht e]
  cases s with
  | error e' =>
      -- the second step is not reached, and its checks do not come to speak
      have hfound : FirstFault cs e' := (hs e').mp rfl
      constructor
      · exact fun h => Or.inl h
      · rintro (h | ⟨hnone, _⟩)
        · exact h
        · exact absurd hfound (hnone e')
  | ok ps =>
      have hnone (e' : Fault) : ¬ FirstFault cs e' := fun h => nomatch (hs e').mpr h
      cases t with
      | error e' =>
          constructor
          · exact fun h => Or.inr ⟨hnone, h⟩
          · rintro (h | ⟨_, h⟩)
            · exact nomatch h
            · exact h
      | ok qs =>
          constructor
          · exact fun h => nomatch h
          · rintro (h | ⟨_, h⟩)
            · exact nomatch h
            · exact nomatch h

theorem refuses_append {ss ts : List Step} {cs ds : List (Fault → Prop)}
    (hs : Step.Refuses (collect ss) cs) (ht : Step.Refuses (collect ts) ds) :
    Step.Refuses (collect (ss ++ ts)) (cs ++ ds) := by
  rw [collect_append]
  exact refuses_bind hs ht

theorem refuses_singleton {s : Step} {cs : List (Fault → Prop)} (hs : s.Refuses cs) :
    Step.Refuses (collect [s]) cs := by
  have h := refuses_bind hs (Step.refuses_ok [])
  rwa [List.append_nil] at h

/-- A row of steps of one kind: their checks in a row. -/
theorem refuses_collect_map {α : Type} {step : α → Step} {cs : α → List (Fault → Prop)}
    (h : ∀ a, (step a).Refuses (cs a)) (l : List α) :
    Step.Refuses (collect (l.map step)) (l.flatMap cs) := by
  induction l with
  | nil => exact Step.refuses_ok []
  | cons a l ih =>
      rw [List.map_cons, List.flatMap_cons, collect_cons]
      exact refuses_bind (h a) ih

/-! ## The kinds of steps -/

/-- The check of bounds that were taken through a map is that of the bounds themselves, if the map keeps the order
    and what is shown. -/
theorem inverted_map {α β : Type} [LT α] [LT β] {f : α → β} {display : α → String}
    {display' : β → String} (hlt : ∀ a b, f a < f b ↔ a < b) (hdisplay : ∀ a, display' (f a) = display a)
    (c : Compiler) (field : String) (b : Bounds α) :
    c.inverted field display' (b.map f) = c.inverted field display b := by
  funext e
  refine propext (and_congr_right' ?_)
  constructor
  · rintro ⟨lo', hi', hlo, hhi, hinv, rfl⟩
    obtain ⟨lo, hl, rfl⟩ := Option.map_eq_some_iff.mp hlo
    obtain ⟨hi, hh, rfl⟩ := Option.map_eq_some_iff.mp hhi
    exact ⟨lo, hi, hl, hh, (hlt hi lo).mp hinv, by rw [hdisplay, hdisplay]⟩
  · rintro ⟨lo, hi, hlo, hhi, hinv, rfl⟩
    refine ⟨f lo, f hi, ?_, ?_, (hlt hi lo).mpr hinv, by rw [hdisplay, hdisplay]⟩
    · simp only [Bounds.map, hlo, Option.map_some]
    · simp only [Bounds.map, hhi, Option.map_some]

theorem inverted_map_int (c : Compiler) (field : String) (b : Bounds Int64) :
    c.inverted field Operand.display (b.map .int) = c.inverted field (fun n => n.toInt.repr) b :=
  inverted_map (fun _ _ => Operand.int_lt_int) (fun _ => rfl) c field b

theorem inverted_map_ofFloat (c : Compiler) (field : String) (b : Bounds Float) :
    c.inverted field Operand.display (b.map .ofFloat) = c.inverted field Decimal.displayFloat b :=
  inverted_map (fun _ _ => Operand.ofFloat_lt_ofFloat) (fun _ => rfl) c field b

theorem checked_refuses (c : Compiler) (field : String) (b : Bounds Operand) (ps : List Predicate) :
    (c.checked field b ps).Refuses [c.inverted field Operand.display b] := by
  intro e
  rw [firstFault_singleton_iff]
  unfold checked
  split
  · rename_i lo hi hlo hhi
    have hinv : c.inverted field Operand.display b e ↔
        (c.options.strictRanges && hi.below lo) = true ∧
          e = .invertedRange field lo.display hi.display := by
      rw [Bool.and_eq_true]
      constructor
      · rintro ⟨hstrict, lo', hi', hl, hh, hlt, he⟩
        obtain rfl : lo = lo' := Option.some.inj (hlo.symm.trans hl)
        obtain rfl : hi = hi' := Option.some.inj (hhi.symm.trans hh)
        exact ⟨⟨hstrict, hlt⟩, he⟩
      · rintro ⟨⟨hstrict, hlt⟩, he⟩
        exact ⟨hstrict, lo, hi, hlo, hhi, hlt, he⟩
    rw [hinv]
    split
    · rename_i hrefuse
      exact ⟨fun h => ⟨hrefuse, (Except.error.inj h).symm⟩, fun h => h.2 ▸ rfl⟩
    · rename_i hpass
      constructor
      · exact fun h => nomatch h
      · exact fun h => absurd h.1 hpass
  · rename_i hnone
    constructor
    · exact fun h => nomatch h
    · rintro ⟨_, lo, hi, hlo, hhi, _⟩
      exact absurd hhi (hnone lo hi hlo)

theorem price_refuses (c : Compiler) (x : Criteria) :
    (c.price x).Refuses [c.unlisted x, c.invertedPrice x] := by
  intro e
  rw [firstFault_cons_iff, firstFault_singleton_iff]
  unfold unlisted invertedPrice
  cases hname : x.currencyName with
  | none =>
      rw [price_none hname]
      simp
  | some name =>
      cases hget : c.currencies.get? name with
      | none =>
          rw [price_unlisted hname hget]
          have hunlisted : c.currencies.contains name = false := by
            rw [Currency.Table.contains, hget]
            rfl
          constructor
          · intro h
            exact Or.inl ⟨name, rfl, hunlisted, (Except.error.inj h).symm⟩
          · rintro (⟨_, hsame, _, rfl⟩ | ⟨hpass, _⟩)
            · rw [← Option.some.inj hsame]
              rfl
            · exact absurd ⟨name, rfl, hunlisted, rfl⟩ (hpass _)
      | some code =>
          have hlisted (e' : Fault) : ¬ ∃ name', some name = some name' ∧
              c.currencies.contains name' = false ∧ e' = .unknownCategory "currency" name' := by
            rintro ⟨name', hsame, hcontains, _⟩
            rw [← Option.some.inj hsame, Currency.Table.contains, hget] at hcontains
            cases hcontains
          rw [price_listed hname hget, c.checked_refuses _ _ _ e, firstFault_singleton_iff,
            inverted_map_ofFloat]
          simp only [hlisted, not_false_eq_true, implies_true, false_or, true_and,
            Option.isSome_some]

theorem modifier_refuses (c : Compiler) (m : ModifierCriterion) :
    (c.modifier m).Refuses [c.misnamed m, c.inverted "modifier" Decimal.displayFloat m.bounds] := by
  intro e
  rw [firstFault_cons_iff, firstFault_singleton_iff]
  unfold misnamed
  simp only [← checkName_eq_error_iff]
  cases hname : checkName m.name c.options.nameLimit with
  | error fault =>
      rw [modifier_refused hname]
      constructor
      · exact fun h => Or.inl ⟨fault, rfl, (Except.error.inj h).symm⟩
      · rintro (⟨fault', hsame, rfl⟩ | ⟨hpass, _⟩)
        · rw [Except.error.inj hsame]
        · exact absurd ⟨fault, rfl, rfl⟩ (hpass _)
  | ok u =>
      rw [modifier_named hname, c.checked_refuses _ _ _ e, firstFault_singleton_iff,
        inverted_map_ofFloat]
      simp

theorem range_refuses (c : Compiler) (r : RangeRow) :
    (c.range r).Refuses [c.inverted r.field Operand.display r.bounds] :=
  c.checked_refuses _ _ _

theorem derivedRange_refuses (c : Compiler) (r : DerivedRow) :
    (c.derivedRange r).Refuses [c.inverted r.field Decimal.displayFloat r.bounds] := by
  rw [← inverted_map_ofFloat]
  exact c.checked_refuses _ _ _

theorem links_refuses (c : Compiler) (b : Bounds Int64) :
    (c.links b).Refuses [c.inverted "link_count" (fun n => n.toInt.repr) b] := by
  rw [← inverted_map_int]
  exact c.checked_refuses _ _ _

/-! ## The whole list -/

/-- **Compiling refuses with the first fault of its checks.** -/
theorem compile_eq_error_iff (c : Compiler) (x : Criteria) (e : Fault) :
    c.compile x = .error e ↔ FirstFault (c.checks x) e := by
  have hfixed :=
    refuses_collect_map fun r : String × Option Condition => Step.refuses_ok (contribution r.1 r.2)
  have hsteps :=
    refuses_append (refuses_append (refuses_append (refuses_append (refuses_append (refuses_append
      (refuses_singleton (c.price_refuses x))
      (hfixed x.labels))
      (refuses_collect_map c.range_refuses x.ranges))
      (refuses_collect_map c.derivedRange_refuses x.derived))
      (hfixed x.sockets))
      (refuses_singleton (c.links_refuses x.linkCount)))
      (refuses_collect_map c.modifier_refuses x.modifiers)
  refine (hsteps e).trans (iff_of_eq (congrArg (FirstFault · e) ?_))
  simp only [checks, Criteria.labels, Criteria.ranges, Criteria.derived, Criteria.sockets,
    List.flatMap_cons, List.flatMap_nil, inverted_map_int, inverted_map_ofFloat,
    List.cons_append, List.nil_append, List.append_nil]

/-- What the checks of bounds find. -/
theorem invertedRange_of_inverted {α : Type} [LT α] {c : Compiler} {field : String}
    {display : α → String} {b : Bounds α} {e : Fault} (h : c.inverted field display b e) :
    ∃ field lower upper, e = .invertedRange field lower upper := by
  obtain ⟨_, lo, hi, _, _, _, rfl⟩ := h
  exact ⟨field, display lo, display hi, rfl⟩

/-- **What is found** is a currency that is not listed, a pair of bounds, or the name of a modifier. -/
theorem found_by_checks {c : Compiler} {x : Criteria} {e : Fault} :
    ∀ check ∈ c.checks x, check e →
      c.unlisted x e ∨ (∃ field lower upper, e = .invertedRange field lower upper) ∨
        ∃ m ∈ x.modifiers, c.misnamed m e := by
  have hpair {α : Type} [LT α] (field : String) (display : α → String) (b : Bounds α)
      (h : c.inverted field display b e) :
      c.unlisted x e ∨ (∃ field lower upper, e = .invertedRange field lower upper) ∨
        ∃ m ∈ x.modifiers, c.misnamed m e := Or.inr (Or.inl (invertedRange_of_inverted h))
  simp only [checks, List.forall_mem_append, List.forall_mem_cons, List.not_mem_nil,
    false_implies, implies_true, and_true]
  refine ⟨⟨Or.inl, fun h => hpair _ _ _ h.2, ?_⟩, ?_⟩
  · -- the sixteen pairs of the fixed layout
    exact ⟨hpair _ _ _, hpair _ _ _, hpair _ _ _, hpair _ _ _, hpair _ _ _, hpair _ _ _,
      hpair _ _ _, hpair _ _ _, hpair _ _ _, hpair _ _ _, hpair _ _ _, hpair _ _ _, hpair _ _ _,
      hpair _ _ _, hpair _ _ _, hpair _ _ _⟩
  · intro check hmem hcheck
    obtain ⟨m, hm, hmem⟩ := List.mem_flatMap.mp hmem
    rcases List.mem_cons.mp hmem with rfl | hmem
    · exact Or.inr (Or.inr ⟨m, hm, hcheck⟩)
    · rw [List.mem_singleton.mp hmem] at hcheck
      exact hpair _ _ _ hcheck

/-- A fault of the configuration is never reported. -/
theorem compile_ne_config (c : Compiler) (x : Criteria) (message : String) :
    c.compile x ≠ .error (.config message) := by
  intro h
  obtain ⟨check, hmem, hcheck⟩ := ((c.compile_eq_error_iff x _).mp h).exists_check
  rcases found_by_checks check hmem hcheck with ⟨_, _, _, he⟩ | ⟨_, _, _, he⟩ | ⟨_, _, _, _, he⟩
  · exact nomatch he
  · exact nomatch he
  · exact nomatch he

/-- A name that is reported is that of a modifier, with the reason that its own checks give. -/
theorem misnamed_of_compile {c : Compiler} {x : Criteria} {name reason : String}
    (h : c.compile x = .error (.invalidName name reason)) :
    ∃ m ∈ x.modifiers, m.name = name ∧ ∃ fault,
      FirstFault (nameChecks name c.options.nameLimit) fault ∧ fault.reason = reason := by
  obtain ⟨check, hmem, hcheck⟩ := ((c.compile_eq_error_iff x _).mp h).exists_check
  rcases found_by_checks check hmem hcheck with ⟨_, _, _, he⟩ | ⟨_, _, _, he⟩ | ⟨m, hm, fault, hfault, he⟩
  · exact nomatch he
  · exact nomatch he
  · injection he with hname hreason
    subst hname
    exact ⟨m, hm, rfl, fault, hfault, hreason.symm⟩

/-- **Criteria are refused exactly for a check that fails, and the first one that fails is reported.** The fault
    of the configuration is never among the reports. -/
theorem compile_refusal (c : Compiler) (x : Criteria) :
    (∀ e, c.compile x = .error e ↔ FirstFault (c.checks x) e) ∧
    ((∃ e, c.compile x = .error e) ↔ ∃ check ∈ c.checks x, ∃ e, check e) ∧
    ∀ message, c.compile x ≠ .error (.config message) := by
  refine ⟨c.compile_eq_error_iff x, ?_, c.compile_ne_config x⟩
  simp only [compile_eq_error_iff]
  exact exists_firstFault_iff

/-- Of a limit on names that is exceeded, an inverted link count and an inverted item level, the last stands first
    among the checks. -/
example :
    (Compiler.mk Currency.Table.builtin ⟨true, 3⟩).compile
      { itemLevel := ⟨some 80, some 70⟩, linkCount := ⟨some 5, some 2⟩, modifiers := [{ name := "Life" }] } =
      .error (.invertedRange "item_level" "80" "70") := rfl

end Compiler

end ItemQuery
