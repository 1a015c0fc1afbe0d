import ItemQuery.Compiler.Basic

/-!
# `Proofs.Compiler.Outcome` — when compiling succeeds, and with what

A step of the compiler either contributes its predicates or refuses, and which of the two it does is a
property of its own criterion. `Step.Yields` says both at once: the step is `ok` exactly when a guard holds,
and then with exactly these predicates. Each kind of step is characterised once in this form; the forms
compose along the list of steps, so that `compile_eq_ok_iff` is the only fact about `compile` that the
theorems on accepted criteria need.

## Contents
- `Bounds.Inverted`, `Criteria.Ordered`: bounds in the wrong order, and criteria without any.
- `Step.Yields` with `yields_append`, `yields_collect_map`: guards and contributions along a list of steps.
- One `*_yields` lemma for each kind of step.
- `Compiler.Admits`, `Compiler.emitted`, `compile_eq_ok_iff`: the whole of `compile` where it succeeds.
- `collect_eq_error_iff`: a refusal is the first one in the list.
-/

namespace ItemQuery

/-! ## Bounds in the wrong order -/

instance : LT Operand := ⟨fun a b => a.below b = true⟩

/-- Both bounds are given and the lower one exceeds the upper one. -/
def Bounds.Inverted {α : Type} [LT α] (b : Bounds α) : Prop :=
  ∃ lo hi, b.min = some lo ∧ b.max = some hi ∧ hi < lo

theorem Bounds.not_inverted_of_isEmpty {α : Type} [LT α] {b : Bounds α} (h : b.isEmpty = true) :
    ¬ b.Inverted := by
  rintro ⟨lo, hi, hlo, _, _⟩
  rw [Bounds.isEmpty, hlo] at h
  cases h

theorem Operand.int_lt_int {a b : Int64} : Operand.int a < Operand.int b ↔ a < b := by
  show decide (a < b) = true ↔ a < b
  exact decide_eq_true_iff

theorem Operand.ofFloat_lt_ofFloat {a b : Float} :
    Operand.ofFloat a < Operand.ofFloat b ↔ a < b := by
  show decide (a < b) = true ↔ a < b
  exact decide_eq_true_iff

/-- Bounds stay inverted, or not, under a map that keeps the order. -/
theorem Bounds.inverted_map {α β : Type} [LT α] [LT β] {f : α → β}
    (hf : ∀ a b, f a < f b ↔ a < b) (b : Bounds α) : (b.map f).Inverted ↔ b.Inverted := by
  constructor
  · rintro ⟨lo', hi', hlo, hhi, hlt⟩
    obtain ⟨lo, hl, rfl⟩ := Option.map_eq_some_iff.mp hlo
    obtain ⟨hi, hh, rfl⟩ := Option.map_eq_some_iff.mp hhi
    exact ⟨lo, hi, hl, hh, (hf hi lo).mp hlt⟩
  · rintro ⟨lo, hi, hl, hh, hlt⟩
    refine ⟨f lo, f hi, ?_, ?_, (hf hi lo).mpr hlt⟩
    · simp only [Bounds.map, hl, Option.map_some]
    · simp only [Bounds.map, hh, Option.map_some]

theorem Bounds.inverted_map_int (b : Bounds Int64) : (b.map Operand.int).Inverted ↔ b.Inverted :=
  inverted_map (fun _ _ => Operand.int_lt_int) b

theorem Bounds.inverted_map_ofFloat (b : Bounds Float) :
    (b.map Operand.ofFloat).Inverted ↔ b.Inverted :=
  inverted_map (fun _ _ => Operand.ofFloat_lt_ofFloat) b

/-- **No pair of bounds is inverted**, of those that compiling looks at: the price only counts with a
    currency, and every modifier counts. -/
structure Criteria.Ordered (x : Criteria) : Prop where
  price : x.currencyName.isSome → ¬ x.price.Inverted
  itemLevel : ¬ x.itemLevel.Inverted
  socketCount : ¬ x.socketCount.Inverted
  intelligence : ¬ x.requirements.intelligence.Inverted
  dexterity : ¬ x.requirements.dexterity.Inverted
  strength : ¬ x.requirements.strength.Inverted
  level : ¬ x.requirements.level.Inverted
  armour : ¬ x.armour.Inverted
  evasion : ¬ x.evasion.Inverted
  energyShield : ¬ x.energyShield.Inverted
  block : ¬ x.block.Inverted
  quality : ¬ x.quality.Inverted
  physicalDamage : ¬ x.physicalDamage.Inverted
  elementalDamage : ¬ x.elementalDamage.Inverted
  criticalStrikeChance : ¬ x.criticalStrikeChance.Inverted
  attacksPerSecond : ¬ x.attacksPerSecond.Inverted
  linkCount : ¬ x.linkCount.Inverted
  modifiers : ∀ m ∈ x.modifiers, ¬ m.bounds.Inverted

/-- The rows of closed ranges hold eleven pairs of bounds, no fewer. -/
theorem Criteria.ranges_ordered_iff (x : Criteria) :
    (∀ r ∈ x.ranges, ¬ r.bounds.Inverted) ↔
      (¬ x.itemLevel.Inverted ∧ ¬ x.socketCount.Inverted ∧ ¬ x.requirements.intelligence.Inverted ∧
        ¬ x.requirements.dexterity.Inverted ∧ ¬ x.requirements.strength.Inverted ∧
        ¬ x.requirements.level.Inverted) ∧
      ¬ x.armour.Inverted ∧ ¬ x.evasion.Inverted ∧ ¬ x.energyShield.Inverted ∧
        ¬ x.block.Inverted ∧ ¬ x.quality.Inverted := by
  simp only [Criteria.ranges, List.forall_mem_cons, Bounds.inverted_map_int,
    Bounds.inverted_map_ofFloat, List.not_mem_nil, false_implies, implies_true, and_true, and_assoc]

theorem Criteria.derived_ordered_iff (x : Criteria) :
    (∀ r ∈ x.derived, ¬ r.bounds.Inverted) ↔
      ¬ x.physicalDamage.Inverted ∧ ¬ x.elementalDamage.Inverted ∧
        ¬ x.criticalStrikeChance.Inverted ∧ ¬ x.attacksPerSecond.Inverted := by
  simp only [Criteria.derived, List.forall_mem_cons, List.not_mem_nil, false_implies,
    implies_true, and_true]

/-- The pairs that are looked at, row by row as the steps look at them. -/
theorem Criteria.ordered_iff (x : Criteria) :
    x.Ordered ↔ (x.currencyName.isSome → ¬ x.price.Inverted) ∧
      (∀ r ∈ x.ranges, ¬ r.bounds.Inverted) ∧ (∀ r ∈ x.derived, ¬ r.bounds.Inverted) ∧
      ¬ x.linkCount.Inverted ∧ ∀ m ∈ x.modifiers, ¬ m.bounds.Inverted := by
  rw [ranges_ordered_iff, derived_ordered_iff]
  constructor
  · rintro ⟨hp, h1, h2, h3, h4, h5, h6, h7, h8, h9, h10, h11, h12, h13, h14, h15, hl, hm⟩
    exact ⟨hp, ⟨⟨h1, h2, h3, h4, h5, h6⟩, h7, h8, h9, h10, h11⟩, ⟨h12, h13, h14, h15⟩, hl, hm⟩
  · rintro ⟨hp, ⟨⟨h1, h2, h3, h4, h5, h6⟩, h7, h8, h9, h10, h11⟩, ⟨h12, h13, h14, h15⟩, hl, hm⟩
    exact ⟨hp, h1, h2, h3, h4, h5, h6, h7, h8, h9, h10, h11, h12, h13, h14, h15, hl, hm⟩

/-! ## Guards and contributions along a list of steps -/

/-- A step **yields** `ps` under the guard `P`: it succeeds exactly if `P` holds, and then with `ps`. -/
def Step.Yields (s : Step) (P : Prop) (ps : List Predicate) : Prop :=
  ∀ qs, s = .ok qs ↔ P ∧ qs = ps

theorem Step.yields_ok (ps : List Predicate) : Step.Yields (.ok ps) True ps := by
  intro qs
  rw [true_and]
  exact ⟨fun h => (Except.ok.inj h).symm, fun h => h ▸ rfl⟩

theorem Step.yields_error (e : Fault) (ps : List Predicate) : Step.Yields (.error e) False ps := by
  intro qs
  rw [false_and, iff_false]
  exact fun h => nomatch h

/-- Equivalent guards are interchangeable. -/
theorem Step.Yields.congr {s : Step} {P Q : Prop} {ps : List Predicate} (h : s.Yields P ps)
    (hPQ : P ↔ Q) : s.Yields Q ps := fun qs => (h qs).trans (and_congr_left' hPQ)

namespace Compiler

theorem collect_cons (s : Step) (ss : List Step) :
    collect (s :: ss) = (do let ps ← s; let qs ← collect ss; return ps ++ qs) := rfl

theorem collect_append (ss ts : List Step) :
    collect (ss ++ ts) = (do let ps ← collect ss; let qs ← collect ts; return ps ++ qs) := by
  induction ss with
  | nil =>
      rw [List.nil_append]
      cases collect ts <;> rfl
  | cons s ss ih =>
      rw [List.cons_append, collect_cons, collect_cons, ih]
      cases s with
      | error e => rfl
      | ok ps =>
          cases collect ss with
          | error e => rfl
          | ok qs =>
              cases collect ts with
              | error e => rfl
              | ok rs => exact congrArg Except.ok (List.append_assoc ps qs rs).symm

theorem append_eq_ok_iff {s t : Step} {ps : List Predicate} :
    (do let qs ← s; let rs ← t; return qs ++ rs) = (Except.ok ps : Step) ↔
      ∃ qs rs, s = .ok qs ∧ t = .ok rs ∧ ps = qs ++ rs := by
  cases s with
  | error e =>
      constructor
      · exact fun h => nomatch h
      · rintro ⟨_, _, hs, _⟩
        exact nomatch hs
  | ok qs =>
      cases t with
      | error e =>
          constructor
          · exact fun h => nomatch h
          · rintro ⟨_, _, _, ht, _⟩
            exact nomatch ht
      | ok rs =>
          constructor
          · intro h
            exact ⟨qs, rs, rfl, rfl, (Except.ok.inj h).symm⟩
          · rintro ⟨qs', rs', hq, hr, rfl⟩
            rw [Except.ok.inj hq, Except.ok.inj hr]
            rfl

/-- Two steps in a row: both guards, and both contributions in order. -/
theorem yields_bind {s t : Step} {P Q : Prop} {ps qs : List Predicate} (hs : s.Yields P ps)
    (ht : t.Yields Q qs) :
    Step.Yields (do let a ← s; let b ← t; return a ++ b) (P ∧ Q) (ps ++ qs) := by
  intro rs
  rw [append_eq_ok_iff]
  constructor
  · rintro ⟨ps', qs', hp, hq, rfl⟩
    obtain ⟨hP, rfl⟩ := (hs ps').mp hp
    obtain ⟨hQ, rfl⟩ := (ht qs').mp hq
    exact ⟨⟨hP, hQ⟩, rfl⟩
  · rintro ⟨⟨hP, hQ⟩, rfl⟩
    exact ⟨ps, qs, (hs ps).mpr ⟨hP, rfl⟩, (ht qs).mpr ⟨hQ, rfl⟩, rfl⟩

theorem yields_append {ss ts : List Step} {P Q : Prop} {ps qs : List Predicate}
    (hs : Step.Yields (collect ss) P ps) (ht : Step.Yields (collect ts) Q qs) :
    Step.Yields (collect (ss ++ ts)) (P ∧ Q) (ps ++ qs) := by
  rw [collect_append]
  exact yields_bind hs ht

theorem yields_singleton {s : Step} {P : Prop} {ps : List Predicate} (hs : s.Yields P ps) :
    Step.Yields (collect [s]) P ps := by
  have h := yields_bind hs (Step.yields_ok [])
  rwa [List.append_nil, and_true] at h

/-- A row of steps of one kind: all their guards, and their contributions in order. -/
theorem yields_collect_map {α : Type} {step : α → Step} {P : α → Prop} {g : α → List Predicate}
    (h : ∀ a, (step a).Yields (P a) (g a)) (l : List α) :
    Step.Yields (collect (l.map step)) (∀ a ∈ l, P a) (l.flatMap g) := by
  induction l with
  | nil =>
      refine (Step.yields_ok []).congr ?_
      simp only [List.not_mem_nil, false_implies, implies_true]
  | cons a l ih =>
      rw [List.map_cons, List.flatMap_cons, collect_cons]
      exact (yields_bind (h a) ih).congr List.forall_mem_cons.symm

/-- **A refusal is the first one.** Collecting fails with `e` exactly if some step refuses with `e` and all
    steps before it succeed. -/
theorem collect_eq_error_iff {ss : List Step} {e : Fault} :
    collect ss = .error e ↔
      ∃ before after qs, ss = before ++ .error e :: after ∧ collect before = .ok qs := by
  constructor
  · intro h
    -- either the head refuses, or it succeeds and joins the steps before the refusal in the tail
    induction ss with
    | nil => exact nomatch h
    | cons s ss ih =>
        rw [collect_cons] at h
        cases s with
        | error e' =>
            obtain rfl : e' = e := Except.error.inj h
            exact ⟨[], ss, [], rfl, rfl⟩
        | ok ps =>
            cases hss : collect ss with
            | ok qs =>
                rw [hss] at h
                exact nomatch h
            | error e' =>
                rw [hss] at h
                obtain rfl : e' = e := Except.error.inj h
                obtain ⟨before, after, qs, hsplit, hbefore⟩ := ih hss
                refine ⟨.ok ps :: before, after, ps ++ qs, ?_, ?_⟩
                · rw [hsplit, List.cons_append]
                · rw [collect_cons, hbefore]
                  rfl
  · rintro ⟨before, after, qs, rfl, hbefore⟩
    rw [collect_append, hbefore]
    rfl

/-! ## The kinds of steps -/

/-- The compiler lets these bounds pass: it is lenient, or they are in order. -/
def Allows {α : Type} [LT α] (c : Compiler) (b : Bounds α) : Prop :=
  c.options.strictRanges = true → ¬ b.Inverted

theorem checked_yields (c : Compiler) (field : String) (b : Bounds Operand) (ps : List Predicate) :
    (c.checked field b ps).Yields (c.Allows b) ps := by
  unfold checked
  split
  · -- both bounds are given: the test of the step is the order of these two
    rename_i lo hi hlo hhi
    have hinv : b.Inverted ↔ hi.below lo = true := by
      refine ⟨?_, fun hlt => ⟨lo, hi, hlo, hhi, hlt⟩⟩
      rintro ⟨lo', hi', hl, hh, hlt⟩
      obtain rfl : lo = lo' := Option.some.inj (hlo.symm.trans hl)
      obtain rfl : hi = hi' := Option.some.inj (hhi.symm.trans hh)
      exact hlt
    split
    · rename_i hrefuse
      rw [Bool.and_eq_true] at hrefuse
      refine (Step.yields_error _ ps).congr ⟨False.elim, fun hallow => ?_⟩
      exact hallow hrefuse.1 (hinv.mpr hrefuse.2)
    · rename_i hpass
      refine (Step.yields_ok ps).congr ⟨fun _ hstrict hbad => hpass ?_, fun _ => trivial⟩
      rw [hstrict, hinv.mp hbad]
      rfl
  · rename_i hnone
    refine (Step.yields_ok ps).congr ⟨fun _ _ hbad => ?_, fun _ => trivial⟩
    obtain ⟨lo, hi, hlo, hhi, _⟩ := hbad
    exact hnone lo hi hlo hhi

/-- The predicate of a price in the currency with this code. -/
def pricePredicate (code : String) (b : Bounds Float) : Predicate :=
  match rangeCondition (b.map Operand.ofFloat) with
  | some condition =>
    ⟨some ⟨⟨"Price.Currency"⟩, .equals (.text code)⟩, ⟨⟨"Price.Number"⟩, condition⟩⟩
  | none => ⟨none, ⟨⟨"Price.Currency"⟩, .equals (.text code)⟩⟩

/-- Without a currency the price is not looked at. -/
theorem price_none {c : Compiler} {x : Criteria} (h : x.currencyName = none) : c.price x = .ok [] := by
  unfold price
  rw [h]

theorem price_unlisted {c : Compiler} {x : Criteria} {name : String} (h : x.currencyName = some name)
    (hget : c.currencies.get? name = none) :
    c.price x = .error (.unknownCategory Currency.Table.category name) := by
  unfold price Currency.Table.resolve
  rw [h]
  dsimp only
  rw [hget]
  rfl

theorem price_listed {c : Compiler} {x : Criteria} {name code : String}
    (h : x.currencyName = some name) (hget : c.currencies.get? name = some code) :
    c.price x = c.checked "price" (x.price.map Operand.ofFloat) [pricePredicate code x.price] := by
  unfold price Currency.Table.resolve
  rw [h]
  dsimp only
  rw [hget]
  rfl

/-- What the currency and the price contribute. -/
def priceEmitted (c : Compiler) (x : Criteria) : List Predicate :=
  match x.currencyName.bind c.currencies.get? with
  | some code => [pricePredicate code x.price]
  | none => []

theorem price_yields (c : Compiler) (x : Criteria) :
    (c.price x).Yields
      ((∀ name, x.currencyName = some name → c.currencies.contains name = true) ∧
        (x.currencyName.isSome → c.Allows x.price))
      (c.priceEmitted x) := by
  cases hname : x.currencyName with
  | none =>
      rw [price_none hname, priceEmitted, hname]
      exact (Step.yields_ok []).congr (by simp)
  | some name =>
      cases hget : c.currencies.get? name with
      | none =>
          rw [price_unlisted hname hget]
          refine (Step.yields_error _ _).congr ⟨False.elim, fun h => ?_⟩
          have hlisted := h.1 name rfl
          rw [Currency.Table.contains, hget] at hlisted
          exact nomatch hlisted
      | some code =>
          rw [price_listed hname hget, priceEmitted, hname, Option.bind_some, hget]
          refine (c.checked_yields _ _ _).congr ?_
          rw [Allows, Bounds.inverted_map_ofFloat]
          simp [Allows, Currency.Table.contains, hget]

/-- The predicate of a modifier. -/
def modifierPredicate (m : ModifierCriterion) : Predicate :=
  ⟨none, ⟨⟨modifierSpace ++ "." ++ m.name⟩,
    (rangeCondition (m.bounds.map Operand.ofFloat)).getD .present⟩⟩

theorem modifier_refused {c : Compiler} {m : ModifierCriterion} {fault : NameFault}
    (h : checkName m.name c.options.nameLimit = .error fault) :
    c.modifier m = .error (.invalidName m.name fault.reason) := by
  unfold modifier Path.within
  rw [h]
  rfl

theorem modifier_named {c : Compiler} {m : ModifierCriterion}
    (h : checkName m.name c.options.nameLimit = .ok ()) :
    c.modifier m =
      c.checked "modifier" (m.bounds.map Operand.ofFloat) [modifierPredicate m] := by
  unfold modifier Path.within
  rw [h]
  rfl

theorem modifier_yields (c : Compiler) (m : ModifierCriterion) :
    (c.modifier m).Yields
      (checkName m.name c.options.nameLimit = .ok () ∧ c.Allows m.bounds) [modifierPredicate m] := by
  cases hname : checkName m.name c.options.nameLimit with
  | error fault =>
      rw [modifier_refused hname]
      exact (Step.yields_error _ _).congr (by simp)
  | ok u =>
      rw [modifier_named hname]
      refine (c.checked_yields _ _ _).congr ?_
      rw [Allows, Bounds.inverted_map_ofFloat]
      simp [Allows]

theorem range_yields (c : Compiler) (r : RangeRow) :
    (c.range r).Yields (c.Allows r.bounds) (contribution r.path (rangeCondition r.bounds)) :=
  c.checked_yields _ _ _

theorem derivedRange_yields (c : Compiler) (r : DerivedRow) :
    (c.derivedRange r).Yields (c.Allows r.bounds)
      (contribution r.path (derivedCondition r.bounds)) := by
  refine Step.Yields.congr (c.checked_yields _ _ _) ?_
  rw [Allows, Bounds.inverted_map_ofFloat, Allows]

theorem links_yields (c : Compiler) (b : Bounds Int64) :
    (c.links b).Yields (c.Allows b)
      (contribution "sockets.link" ((linkMembers b).map .oneOf)) := by
  refine Step.Yields.congr (c.checked_yields _ _ _) ?_
  rw [Allows, Bounds.inverted_map_int, Allows]

end Compiler

/-! ## The whole list -/

/-- What every criterion on the fixed layout but the price asks for, by path. -/
def Criteria.fixedRows (x : Criteria) : List (String × Option Condition) :=
  x.labels ++ x.ranges.map (fun r => (r.path, rangeCondition r.bounds)) ++
    x.derived.map (fun r => (r.path, derivedCondition r.bounds)) ++ x.sockets ++
    [("sockets.link", (linkMembers x.linkCount).map .oneOf)]

/-- The predicates of rows in order; a row that asks for nothing has none. -/
def contributions (rows : List (String × Option Condition)) : List Predicate :=
  rows.flatMap fun r => contribution r.1 r.2

theorem mem_contribution {path : String} {condition : Option Condition} {p : Predicate} :
    p ∈ contribution path condition ↔ ∃ cond, condition = some cond ∧ p = Predicate.on path cond := by
  cases condition with
  | none => simp [contribution]
  | some cond => simp [contribution]

theorem mem_contributions {rows : List (String × Option Condition)} {p : Predicate} :
    p ∈ contributions rows ↔
      ∃ path condition, (path, some condition) ∈ rows ∧ p = Predicate.on path condition := by
  rw [contributions, List.mem_flatMap]
  constructor
  · rintro ⟨⟨path, condition⟩, hrow, hp⟩
    obtain ⟨cond, rfl, rfl⟩ := mem_contribution.mp hp
    exact ⟨path, cond, hrow, rfl⟩
  · rintro ⟨path, cond, hrow, rfl⟩
    exact ⟨(path, some cond), hrow, mem_contribution.mpr ⟨cond, rfl, rfl⟩⟩

namespace Compiler

/-- **The compiler admits the criteria**: their currency is listed, the names of their modifiers pass the
    check, and, if ranges are strict, no pair of bounds is inverted. -/
structure Admits (c : Compiler) (x : Criteria) : Prop where
  listed : ∀ name, x.currencyName = some name → c.currencies.contains name = true
  names : ∀ m ∈ x.modifiers, checkName m.name c.options.nameLimit = .ok ()
  ordered : c.options.strictRanges = true → x.Ordered

/-- The predicates of criteria that are admitted. -/
def emitted (c : Compiler) (x : Criteria) : List Predicate :=
  c.priceEmitted x ++ contributions x.fixedRows ++ x.modifiers.map modifierPredicate

/-- **Compiling succeeds exactly on admitted criteria**, and then with the predicates of all of them. -/
theorem compile_eq_ok_iff (c : Compiler) (x : Criteria) (ps : List Predicate) :
    c.compile x = .ok ps ↔ c.Admits x ∧ ps = c.emitted x := by
  have hfixed :=
    yields_collect_map fun r : String × Option Condition => Step.yields_ok (contribution r.1 r.2)
  have hsteps :=
    yields_append (yields_append (yields_append (yields_append (yields_append (yields_append
      (yields_singleton (c.price_yields x))
      (hfixed x.labels))
      (yields_collect_map c.range_yields x.ranges))
      (yields_collect_map c.derivedRange_yields x.derived))
      (hfixed x.sockets))
      (yields_singleton (c.links_yields x.linkCount)))
      (yields_collect_map c.modifier_yields x.modifiers)
  refine (hsteps ps).trans (and_congr ?_ (iff_of_eq (congrArg (ps = ·) ?_)))
  · -- the guards of the steps, group by group, against the fields of `Admits`
    constructor
    · rintro ⟨⟨⟨⟨⟨⟨⟨hlisted, hprice⟩, -⟩, hranges⟩, hderived⟩, -⟩, hlinks⟩, hmodifiers⟩
      refine ⟨hlisted, fun m hm => (hmodifiers m hm).1, fun hstrict => ?_⟩
      exact (Criteria.ordered_iff x).mpr ⟨fun hsome => hprice hsome hstrict,
        fun r hr => hranges r hr hstrict, fun r hr => hderived r hr hstrict, hlinks hstrict,
        fun m hm => (hmodifiers m hm).2 hstrict⟩
    · rintro ⟨hlisted, hnames, hordered⟩
      have hrows (hstrict : c.options.strictRanges = true) :=
        (Criteria.ordered_iff x).mp (hordered hstrict)
      exact ⟨⟨⟨⟨⟨⟨⟨hlisted, fun hsome hstrict => (hrows hstrict).1 hsome⟩, fun _ _ => trivial⟩,
        fun r hr hstrict => (hrows hstrict).2.1 r hr⟩,
        fun r hr hstrict => (hrows hstrict).2.2.1 r hr⟩, fun _ _ => trivial⟩,
        fun hstrict => (hrows hstrict).2.2.2.1⟩,
        fun m hm => ⟨hnames m hm, fun hstrict => (hrows hstrict).2.2.2.2 m hm⟩⟩
  · simp only [emitted, contributions, Criteria.fixedRows, List.flatMap_append, List.flatMap_map,
      List.flatMap_singleton, ← List.map_eq_flatMap, List.append_assoc]

/-! ## The clauses of accepted criteria -/

/-- **Where a clause comes from**: the currency, the price, a row of the fixed layout, or a modifier. -/
inductive Emits (c : Compiler) (x : Criteria) : Clause → Prop
  | currency {name code : String} (hname : x.currencyName = some name)
      (hcode : c.currencies.get? name = some code) :
      Emits c x ⟨⟨"Price.Currency"⟩, .equals (.text code)⟩
  | price {condition : Condition} (hname : x.currencyName.isSome)
      (hprice : rangeCondition (x.price.map Operand.ofFloat) = some condition) :
      Emits c x ⟨⟨"Price.Number"⟩, condition⟩
  | fixed {path : String} {condition : Condition} (hrow : (path, some condition) ∈ x.fixedRows) :
      Emits c x ⟨⟨path⟩, condition⟩
  | modifier {m : ModifierCriterion} (hm : m ∈ x.modifiers) : Emits c x (modifierPredicate m).clause

theorem mem_priceEmitted {c : Compiler} {x : Criteria} {p : Predicate} :
    p ∈ c.priceEmitted x ↔ ∃ name code, x.currencyName = some name ∧
      c.currencies.get? name = some code ∧ p = pricePredicate code x.price := by
  unfold priceEmitted
  cases x.currencyName with
  | none => simp
  | some name => cases h : c.currencies.get? name <;> simp [h]

/-- Every emitted predicate is the price predicate, a row of the fixed layout or a modifier. -/
theorem mem_emitted {c : Compiler} {x : Criteria} {p : Predicate} :
    p ∈ c.emitted x ↔
      (∃ name code, x.currencyName = some name ∧ c.currencies.get? name = some code ∧
        p = pricePredicate code x.price) ∨
      (∃ path condition, (path, some condition) ∈ x.fixedRows ∧ p = Predicate.on path condition) ∨
      ∃ m ∈ x.modifiers, p = modifierPredicate m := by
  rw [emitted, List.mem_append, List.mem_append, mem_priceEmitted, mem_contributions, List.mem_map,
    or_assoc]
  simp only [eq_comm]

theorem emits_of_mem_clauses {c : Compiler} {x : Criteria} {p : Predicate} {cl : Clause}
    (hp : p ∈ c.emitted x) (hcl : cl ∈ p.clauses) : c.Emits x cl := by
  rcases mem_emitted.mp hp with ⟨name, code, hname, hcode, rfl⟩ | ⟨path, cond, hrow, rfl⟩ | ⟨m, hm, rfl⟩
  · unfold pricePredicate at hcl
    split at hcl
    · rename_i condition hcondition
      rcases List.mem_cons.mp hcl with rfl | hcl
      · exact .currency hname hcode
      · rw [List.mem_singleton.mp hcl]
        exact .price (Option.isSome_of_mem hname) hcondition
    · rw [List.mem_singleton.mp hcl]
      exact .currency hname hcode
  · rw [List.mem_singleton.mp hcl]
    exact .fixed hrow
  · rw [List.mem_singleton.mp hcl]
    exact .modifier hm

end Compiler

end ItemQuery
