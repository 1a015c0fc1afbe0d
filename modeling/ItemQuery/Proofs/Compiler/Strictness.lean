import ItemQuery.Proofs.Compiler.Outcome

/-!
# `Proofs.Compiler.Strictness` — strict ranges only refuse

Two compilers that differ in nothing but the treatment of inverted bounds are run on the same criteria. Step
by step the strict one does what the lenient one does, or refuses for an inverted pair (`Step.Tightens`), and
this survives collecting. So strictness never changes a result; it takes some away. Which ones it takes away
is `compile_eq_ok_iff` read for both compilers.

## Contents
- `Step.Tightens`, `compile_tightens`: the step-wise relation of the two runs.
- `lenient_ne_invertedRange`: the lenient compiler never refuses for an inverted pair.
- `Operand.InOrder`, `inOrder_of_emits`: a closed range that the strict compiler emits is in order.
- `strict_compile_iff_lenient`: all of it for the two compilers over one table and one limit on names.
-/

namespace ItemQuery

/-! ## One step, two compilers -/

/-- `s` **tightens** `t`: it does the same, or it refuses for an inverted pair of bounds. -/
def Step.Tightens (s t : Step) : Prop :=
  s = t ∨ ∃ field lower upper, s = .error (.invertedRange field lower upper)

theorem Step.Tightens.refl {s : Step} : s.Tightens s := Or.inl rfl

/-- Two operands of one numeric kind, the first not above the second. -/
inductive Operand.InOrder : Operand → Operand → Prop
  | int {a b : Int64} (h : ¬ b < a) : InOrder (.int a) (.int b)
  | float {a b : Float} (h : ¬ b < a) : InOrder (.ofFloat a) (.ofFloat b)

namespace Compiler

theorem tightens_bind {s s' t t' : Step} (hs : s.Tightens s') (ht : t.Tightens t') :
    Step.Tightens (do let a ← s; let b ← t; return a ++ b)
      (do let a ← s'; let b ← t'; return a ++ b) := by
  rcases hs with rfl | ⟨field, lower, upper, rfl⟩
  · rcases ht with rfl | ⟨field, lower, upper, rfl⟩
    · exact Or.inl rfl
    · -- `t` refuses; unless `s` refuses before it, this is what the two together do
      cases s with
      | error e => exact Or.inl rfl
      | ok ps => exact Or.inr ⟨field, lower, upper, rfl⟩
  · exact Or.inr ⟨field, lower, upper, rfl⟩

theorem tightens_append {ss ss' ts ts' : List Step}
    (hs : Step.Tightens (collect ss) (collect ss')) (ht : Step.Tightens (collect ts) (collect ts')) :
    Step.Tightens (collect (ss ++ ts)) (collect (ss' ++ ts')) := by
  rw [collect_append, collect_append]
  exact tightens_bind hs ht

theorem tightens_singleton {s t : Step} (h : s.Tightens t) :
    Step.Tightens (collect [s]) (collect [t]) :=
  tightens_bind h Step.Tightens.refl

theorem tightens_collect_map {α : Type} {f g : α → Step} (h : ∀ a, (f a).Tightens (g a))
    (l : List α) : Step.Tightens (collect (l.map f)) (collect (l.map g)) := by
  induction l with
  | nil => exact Step.Tightens.refl
  | cons a l ih => exact tightens_bind (h a) ih

/-! ## The kinds of steps -/

/-- The compiler with strict ranges, over a table of currencies and a limit on names. -/
def strict (currencies : Currency.Table) (limit : Nat) : Compiler := ⟨currencies, ⟨true, limit⟩⟩

/-- The compiler with lenient ranges, over a table of currencies and a limit on names. -/
def lenient (currencies : Currency.Table) (limit : Nat) : Compiler := ⟨currencies, ⟨false, limit⟩⟩

variable (currencies : Currency.Table) (limit : Nat)

theorem checked_lenient (field : String) (b : Bounds Operand) (ps : List Predicate) :
    (lenient currencies limit).checked field b ps = .ok ps := by
  unfold checked
  split
  · rw [if_neg]
    simp [lenient]
  · rfl

theorem checked_tightens (field : String) (b : Bounds Operand) (ps : List Predicate) :
    ((strict currencies limit).checked field b ps).Tightens
      ((lenient currencies limit).checked field b ps) := by
  rw [checked_lenient]
  unfold checked
  split
  · split
    · exact Or.inr ⟨_, _, _, rfl⟩
    · exact Or.inl rfl
  · exact Or.inl rfl

theorem price_tightens (x : Criteria) :
    ((strict currencies limit).price x).Tightens ((lenient currencies limit).price x) := by
  cases hname : x.currencyName with
  | none =>
      rw [price_none hname, price_none hname]
      exact Step.Tightens.refl
  | some name =>
      cases hget : currencies.get? name with
      | none =>
          rw [price_unlisted hname hget, price_unlisted hname hget]
          exact Step.Tightens.refl
      | some code =>
          rw [price_listed hname hget, price_listed hname hget]
          exact checked_tightens currencies limit _ _ _

theorem modifier_tightens (m : ModifierCriterion) :
    ((strict currencies limit).modifier m).Tightens ((lenient currencies limit).modifier m) := by
  cases hname : checkName m.name limit with
  | error fault =>
      rw [modifier_refused hname, modifier_refused hname]
      exact Step.Tightens.refl
  | ok u =>
      rw [modifier_named hname, modifier_named hname]
      exact checked_tightens currencies limit _ _ _

/-- **The strict run tightens the lenient run.** -/
theorem compile_tightens (x : Criteria) :
    Step.Tightens ((strict currencies limit).compile x) ((lenient currencies limit).compile x) := by
  unfold compile steps
  refine tightens_append (tightens_append (tightens_append (tightens_append (tightens_append
    (tightens_append ?price Step.Tightens.refl) ?ranges) ?derived) Step.Tightens.refl) ?links)
    ?modifiers
  case price => exact tightens_singleton (price_tightens currencies limit x)
  case ranges => exact tightens_collect_map (fun r => checked_tightens currencies limit _ _ _) _
  case derived => exact tightens_collect_map (fun r => checked_tightens currencies limit _ _ _) _
  case links => exact tightens_singleton (checked_tightens currencies limit _ _ _)
  case modifiers => exact tightens_collect_map (modifier_tightens currencies limit) _

/-! ## The lenient compiler -/

theorem lenient_price_ne (x : Criteria) (field lower upper : String) :
    (lenient currencies limit).price x ≠ .error (.invertedRange field lower upper) := by
  cases hname : x.currencyName with
  | none =>
      rw [price_none hname]
      exact fun h => nomatch h
  | some name =>
      cases hget : currencies.get? name with
      | none =>
          rw [price_unlisted hname hget]
          exact fun h => nomatch h
      | some code =>
          rw [price_listed hname hget, checked_lenient]
          exact fun h => nomatch h

theorem lenient_modifier_ne (m : ModifierCriterion) (field lower upper : String) :
    (lenient currencies limit).modifier m ≠ .error (.invertedRange field lower upper) := by
  cases hname : checkName m.name limit with
  | error fault =>
      rw [modifier_refused hname]
      exact fun h => nomatch h
  | ok u =>
      rw [modifier_named hname, checked_lenient]
      exact fun h => nomatch h

/-- No step of the lenient compiler refuses for an inverted pair. -/
theorem lenient_step_ne {x : Criteria} {s : Step} (hs : s ∈ (lenient currencies limit).steps x)
    (field lower upper : String) : s ≠ .error (.invertedRange field lower upper) := by
  simp only [steps, List.mem_append, List.mem_map, List.mem_singleton, or_assoc] at hs
  rcases hs with rfl | ⟨r, _, rfl⟩ | ⟨r, _, rfl⟩ | ⟨r, _, rfl⟩ | ⟨r, _, rfl⟩ | rfl | ⟨m, _, rfl⟩
  · exact lenient_price_ne currencies limit x field lower upper
  · exact fun h => nomatch h
  · rw [range, checked_lenient]
    exact fun h => nomatch h
  · rw [derivedRange, checked_lenient]
    exact fun h => nomatch h
  · exact fun h => nomatch h
  · rw [links, checked_lenient]
    exact fun h => nomatch h
  · exact lenient_modifier_ne currencies limit m field lower upper

theorem lenient_ne_invertedRange (x : Criteria) (field lower upper : String) :
    (lenient currencies limit).compile x ≠ .error (.invertedRange field lower upper) := by
  intro h
  obtain ⟨before, after, _, hsteps, _⟩ := collect_eq_error_iff.mp h
  have hmem : .error (.invertedRange field lower upper) ∈ (lenient currencies limit).steps x := by
    rw [hsteps]
    exact List.mem_append_right before List.mem_cons_self
  exact lenient_step_ne currencies limit hmem field lower upper rfl

/-! ## Closed ranges that are emitted -/

/-- A closed range comes from bounds that are both given. -/
theorem bounds_of_between {α : Type} {f : α → Operand} {b : Bounds α} {lo hi : Operand}
    (h : rangeCondition (b.map f) = some (.between lo hi)) :
    ∃ a a', b.min = some a ∧ b.max = some a' ∧ lo = f a ∧ hi = f a' := by
  rcases b with ⟨_ | a, _ | a'⟩
  · exact nomatch h
  · exact nomatch h
  · exact nomatch h
  · injection h with h
    injection h with hlo hhi
    exact ⟨a, a', rfl, rfl, hlo.symm, hhi.symm⟩

theorem inOrder_of_int {b : Bounds Int64} {lo hi : Operand}
    (h : rangeCondition (b.map Operand.int) = some (.between lo hi)) (hb : ¬ b.Inverted) :
    lo.InOrder hi := by
  obtain ⟨a, a', ha, ha', rfl, rfl⟩ := bounds_of_between h
  exact .int fun hlt => hb ⟨a, a', ha, ha', hlt⟩

theorem inOrder_of_float {b : Bounds Float} {lo hi : Operand}
    (h : rangeCondition (b.map Operand.ofFloat) = some (.between lo hi)) (hb : ¬ b.Inverted) :
    lo.InOrder hi := by
  obtain ⟨a, a', ha, ha', rfl, rfl⟩ := bounds_of_between h
  exact .float fun hlt => hb ⟨a, a', ha, ha', hlt⟩

theorem derivedCondition_ne_between (b : Bounds Float) (lo hi : Operand) :
    derivedCondition b ≠ some (.between lo hi) := by
  unfold derivedCondition
  split <;> exact fun h => nomatch h

/-- A row of closed ranges takes its bounds from integers or from numbers. -/
theorem inOrder_of_mem_ranges {x : Criteria} (hx : x.Ordered) {r : RangeRow} (hr : r ∈ x.ranges)
    {lo hi : Operand} (h : rangeCondition r.bounds = some (.between lo hi)) : lo.InOrder hi := by
  have hrows := ((Criteria.ordered_iff x).mp hx).2.1 r hr
  have htyped : (∃ b : Bounds Int64, r.bounds = b.map .int) ∨
      ∃ b : Bounds Float, r.bounds = b.map .ofFloat := by
    simp only [Criteria.ranges, List.mem_cons, List.not_mem_nil, or_false] at hr
    -- six rows have integers as bounds, and the five of the defences have numbers
    rcases hr with rfl | rfl | rfl | rfl | rfl | rfl | rfl | rfl | rfl | rfl | rfl
    iterate 6 exact Or.inl ⟨_, rfl⟩
    iterate 5 exact Or.inr ⟨_, rfl⟩
  rcases htyped with ⟨b, hb⟩ | ⟨b, hb⟩
  · rw [hb] at h hrows
    exact inOrder_of_int h ((not_congr b.inverted_map_int).mp hrows)
  · rw [hb] at h hrows
    exact inOrder_of_float h ((not_congr b.inverted_map_ofFloat).mp hrows)

/-- Of the rows of the fixed layout only the closed ranges ask for a closed range. -/
theorem mem_ranges_of_between {x : Criteria} {path : String} {lo hi : Operand}
    (h : (path, some (Condition.between lo hi)) ∈ x.fixedRows) :
    ∃ r ∈ x.ranges, rangeCondition r.bounds = some (.between lo hi) := by
  simp only [Criteria.fixedRows, List.mem_append, List.mem_map, Prod.mk.injEq, List.mem_singleton,
    or_assoc] at h
  rcases h with h | ⟨r, hr, _, hcond⟩ | ⟨r, _, _, hcond⟩ | h | ⟨_, h⟩
  · simp [Criteria.labels, eq_comm (a := some (Condition.between lo hi))] at h
  · exact ⟨r, hr, hcond⟩
  · exact absurd hcond (derivedCondition_ne_between r.bounds lo hi)
  · simp [Criteria.sockets, eq_comm (a := some (Condition.between lo hi))] at h
  · simp [eq_comm (a := some (Condition.between lo hi))] at h

/-- **A closed range that passes the check is in order**, on every path that has one. -/
theorem inOrder_of_emits {c : Compiler} {x : Criteria} {cl : Clause} {lo hi : Operand}
    (hx : x.Ordered) (hcl : c.Emits x cl) (hbetween : cl.condition = .between lo hi) :
    lo.InOrder hi := by
  cases hcl with
  | currency hname hcode => exact nomatch hbetween
  | price hname hprice =>
      obtain rfl := hbetween
      exact inOrder_of_float hprice (hx.price hname)
  | @fixed path cond hrow =>
      obtain rfl : cond = .between lo hi := hbetween
      obtain ⟨r, hr, hcond⟩ := mem_ranges_of_between hrow
      exact inOrder_of_mem_ranges hx hr hcond
  | @modifier m hm =>
      cases hcond : rangeCondition (m.bounds.map Operand.ofFloat) with
      | none =>
          simp only [modifierPredicate, hcond, Option.getD_none] at hbetween
          exact nomatch hbetween
      | some condition =>
          simp only [modifierPredicate, hcond, Option.getD_some] at hbetween
          obtain rfl := hbetween
          exact inOrder_of_float hcond (hx.modifiers m hm)

/-! ## The two compilers -/

theorem strict_admits_iff (x : Criteria) :
    (strict currencies limit).Admits x ↔ (lenient currencies limit).Admits x ∧ x.Ordered := by
  constructor
  · rintro ⟨hlisted, hnames, hordered⟩
    exact ⟨⟨hlisted, hnames, fun h => nomatch h⟩, hordered rfl⟩
  · rintro ⟨⟨hlisted, hnames, _⟩, hordered⟩
    exact ⟨hlisted, hnames, fun _ => hordered⟩

/-- **Strict ranges only refuse, they never change a result.** Over one table of currencies and one limit on
    names, the strict compiler succeeds exactly where the lenient one does with the same predicates and no pair
    of bounds that is looked at is inverted. The lenient compiler never refuses for an inverted pair. Where it
    refuses, the strict one refuses too, for the same fault or, earlier, for an inverted pair. And every closed
    range that the strict compiler emits is in order. -/
theorem strict_compile_iff_lenient (currencies : Currency.Table) (limit : Nat) (x : Criteria) :
    (∀ ps, (strict currencies limit).compile x = .ok ps ↔
      (lenient currencies limit).compile x = .ok ps ∧ x.Ordered) ∧
    (∀ field lower upper,
      (lenient currencies limit).compile x ≠ .error (.invertedRange field lower upper)) ∧
    (∀ e, (lenient currencies limit).compile x = .error e →
      (strict currencies limit).compile x = .error e ∨
      ∃ field lower upper,
        (strict currencies limit).compile x = .error (.invertedRange field lower upper)) ∧
    (∀ ps, (strict currencies limit).compile x = .ok ps → ∀ p ∈ ps, ∀ cl ∈ p.clauses, ∀ lo hi,
      cl.condition = .between lo hi → lo.InOrder hi) := by
  refine ⟨fun ps => ?_, lenient_ne_invertedRange currencies limit x, fun e he => ?_, ?_⟩
  · -- what is emitted does not depend on the options, so only the guards differ
    rw [compile_eq_ok_iff, compile_eq_ok_iff, strict_admits_iff, and_right_comm]
    exact Iff.rfl
  · rcases compile_tightens currencies limit x with h | h
    · exact Or.inl (h.trans he)
    · exact Or.inr h
  · intro ps hps p hp cl hcl lo hi hbetween
    obtain ⟨hadmits, rfl⟩ := (compile_eq_ok_iff _ x ps).mp hps
    exact inOrder_of_emits (hadmits.ordered rfl) (emits_of_mem_clauses hp hcl) hbetween

end Compiler

end ItemQuery
