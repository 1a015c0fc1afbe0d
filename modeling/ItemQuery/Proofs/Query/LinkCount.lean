import ItemQuery.Proofs.Query.Meaning
import Mathlib.Data.List.Sort

/-!
# `Proofs.Query.LinkCount` — what bounds on the link count select

Bounds on the link count become a list of sizes, and a record matches if its own size is in the list. The rules for one
bound and for two are not alike (`Bounds.Selects`), and they are kept because searches have been saved under them.

The list is defined by picking from the seven sizes that there are, where nothing can go wrong. A store or a client that
counts the sizes up in 64-bit integers has to clamp the bounds first, as a bound may be any such integer; `counted?` is
this computation with every sum checked. That no sum runs over, whatever the bounds, and that the same sizes are
counted, is one statement (`counted?_eq`). Counting goes up to a limit that is not reached before the last step, and so
the number counted can always be raised by one.

An empty list of sizes is not the same as no bounds. The predicate is there and matches nothing, so that a search for
more links than there are does not turn into a search for any number of links.

## Contents
- `sum?`, `countBelow?`, `countThrough?`, `counted?`: counting with checked sums.
- `Bounds.Selects`, `mem_linkMembers_iff`: the sizes that are selected.
- `counted?_eq`: counting selects the same sizes.
- `Compiler.filter_links`, `Compiler.exists_size_of_holds`: the predicate on the link count, and what it matches.
- `Compiler.accepts_open_links`: one bound is no reason to refuse criteria.
- `Compiler.link_count_selects`: the whole.
-/

namespace ItemQuery

/-! ## Counting in 64 bits -/

/-- The sum of two integers, if it is in the range of 64 bits. -/
def sum? (a b : Int64) : Option Int64 := if (a + b).toInt = a.toInt + b.toInt then some (a + b) else none

/-- A number below another one can be raised by one. -/
theorem sum?_one_of_lt {n limit : Int64} (h : n < limit) :
    sum? n 1 = some (n + 1) ∧ (n + 1).toInt = n.toInt + 1 := by
  have hlt : n.toInt < limit.toInt := Int64.lt_iff_toInt_lt.mp h
  have hlower : -2 ^ 63 ≤ n.toInt := n.le_toInt
  have hupper : limit.toInt < 2 ^ 63 := limit.toInt_lt
  have hone : (1 : Int64).toInt = 1 := by decide
  have hexact : (n + 1).toInt = n.toInt + 1 := by
    rw [Int64.toInt_add, hone]
    exact Int.bmod_eq_of_le (by omega) (by omega)
  refine ⟨if_pos ?_, hexact⟩
  rw [hexact, hone]

/-- Fewer numbers are left below a limit after each sum. -/
theorem left_lt_of_sum {n next limit : Int64} (h : n < limit) (hnext : sum? n 1 = some next) :
    (limit.toInt - next.toInt).toNat < (limit.toInt - n.toInt).toNat := by
  obtain ⟨hsum, hexact⟩ := sum?_one_of_lt h
  obtain rfl : n + 1 = next := Option.some.inj (hsum.symm.trans hnext)
  have hlt : n.toInt < limit.toInt := Int64.lt_iff_toInt_lt.mp h
  omega

/-- The numbers from `first` on that are below `limit`, counted up one by one. There are none if a sum runs over. -/
def countBelow? (first limit : Int64) : Option (List Int64) :=
  if h : first < limit then
    match hnext : sum? first 1 with
    | some next =>
      have := left_lt_of_sum h hnext
      (countBelow? next limit).map (first :: ·)
    | none => none
  else some []
termination_by (limit.toInt - first.toInt).toNat

/-- The same with the limit itself, which is never raised. -/
def countThrough? (first last : Int64) : Option (List Int64) :=
  if last < first then some [] else (countBelow? first last).map (· ++ [last])

/-- **The sizes that bounds on the link count select, as they are counted.** The outer `none` is a sum that runs over,
    the inner one is bounds that are not given. -/
def counted? (b : Bounds Int64) : Option (Option (List Int64)) :=
  match b.min, b.max with
  | some lo, some _ => some (some [lo])
  | some lo, none => (countThrough? (max lo 0) 6).map some
  | none, some hi => do
    let past ← sum? 6 1
    (countBelow? 0 (min hi past)).map some
  | none, none => some none

/-- **Counting does not run over**, and counts in order. -/
theorem countBelow?_eq_some (first limit : Int64) :
    ∃ ns, countBelow? first limit = some ns ∧ ns.Pairwise (· < ·) ∧ ∀ n, n ∈ ns ↔ first ≤ n ∧ n < limit := by
  -- by induction on the numbers that are left to count
  induction hleft : (limit.toInt - first.toInt).toNat generalizing first with
  | zero =>
      have hle : limit.toInt ≤ first.toInt := by omega
      have hstop : ¬ first < limit := by
        rw [Int64.lt_iff_toInt_lt]
        omega
      refine ⟨[], ?_, List.Pairwise.nil, ?_⟩
      · rw [countBelow?, dif_neg hstop]
      · intro n
        rw [Int64.le_iff_toInt_le, Int64.lt_iff_toInt_lt]
        simp only [List.not_mem_nil, false_iff]
        omega
  | succ left ih =>
      have hlt : first < limit := by
        rw [Int64.lt_iff_toInt_lt]
        omega
      obtain ⟨hsum, hexact⟩ := sum?_one_of_lt hlt
      obtain ⟨ns, hns, hsorted, hmem⟩ := ih (first + 1) (by omega)
      refine ⟨first :: ns, ?_, ?_, ?_⟩
      · rw [countBelow?, dif_pos hlt]
        split
        · rename_i next hnext
          obtain rfl : first + 1 = next := Option.some.inj (hsum.symm.trans hnext)
          rw [hns]
          rfl
        · rename_i hnone
          exact nomatch hsum.symm.trans hnone
      · refine List.Pairwise.cons ?_ hsorted
        intro n hn
        have hle := ((hmem n).mp hn).1
        rw [Int64.le_iff_toInt_le, hexact] at hle
        rw [Int64.lt_iff_toInt_lt]
        omega
      · intro n
        rw [List.mem_cons, hmem, ← Int64.toInt_inj, Int64.le_iff_toInt_le, Int64.le_iff_toInt_le,
          Int64.lt_iff_toInt_lt, hexact]
        rw [Int64.lt_iff_toInt_lt] at hlt
        omega

theorem countThrough?_eq_some (first last : Int64) :
    ∃ ns, countThrough? first last = some ns ∧ ns.Pairwise (· < ·) ∧ ∀ n, n ∈ ns ↔ first ≤ n ∧ n ≤ last := by
  unfold countThrough?
  by_cases h : last < first
  · refine ⟨[], if_pos h, List.Pairwise.nil, ?_⟩
    intro n
    rw [Int64.lt_iff_toInt_lt] at h
    rw [Int64.le_iff_toInt_le, Int64.le_iff_toInt_le]
    simp only [List.not_mem_nil, false_iff]
    omega
  · obtain ⟨ns, hns, hsorted, hmem⟩ := countBelow?_eq_some first last
    refine ⟨ns ++ [last], ?_, ?_, ?_⟩
    · rw [if_neg h, hns]
      rfl
    · rw [List.pairwise_append]
      refine ⟨hsorted, List.pairwise_singleton _ _, ?_⟩
      intro n hn m hm
      rw [List.mem_singleton.mp hm]
      exact ((hmem n).mp hn).2
    · intro n
      rw [List.mem_append, List.mem_singleton, hmem, ← Int64.toInt_inj, Int64.le_iff_toInt_le,
        Int64.lt_iff_toInt_lt, Int64.le_iff_toInt_le]
      rw [Int64.lt_iff_toInt_lt] at h
      omega

/-! ## Sizes that are selected -/

/-- **A size is selected by bounds**: it is the lower bound, if both bounds are given. Else it is one of the sizes that
    there are, not below a lower bound, and below an upper bound. -/
inductive Bounds.Selects : Bounds Int64 → Int64 → Prop
  | equal (lo hi : Int64) : Selects ⟨some lo, some hi⟩ lo
  | lower {lo n : Int64} (hsize : 0 ≤ n ∧ n ≤ 6) (h : lo ≤ n) : Selects ⟨some lo, none⟩ n
  | upper {hi n : Int64} (hsize : 0 ≤ n ∧ n ≤ 6) (h : n < hi) : Selects ⟨none, some hi⟩ n

theorem pairwise_linkSizes : linkSizes.Pairwise (· < ·) := by decide

theorem linkSizes_eq : linkSizes = (List.range 7).map Int64.ofNat := by decide

theorem mem_linkSizes (n : Int64) : n ∈ linkSizes ↔ 0 ≤ n ∧ n ≤ 6 := by
  have hzero : (0 : Int64).toInt = 0 := by decide
  have hsix : (6 : Int64).toInt = 6 := by decide
  rw [linkSizes_eq, List.mem_map, Int64.le_iff_toInt_le, Int64.le_iff_toInt_le, hzero, hsix]
  constructor
  · rintro ⟨k, hk, rfl⟩
    have hlt : k < 7 := List.mem_range.mp hk
    rw [Int64.toInt_ofNat_of_lt (by omega)]
    omega
  · rintro ⟨hlo, hhi⟩
    refine ⟨n.toInt.toNat, List.mem_range.mpr (by omega), ?_⟩
    rw [← Int64.toInt_inj, Int64.toInt_ofNat_of_lt (by omega), Int.toNat_of_nonneg hlo]

variable {b : Bounds Int64} {ms : List Int64}

theorem linkMembers_eq_none_iff : linkMembers b = none ↔ b.isEmpty = true := by
  rcases b with ⟨_ | lo, _ | hi⟩ <;> simp [linkMembers, Bounds.isEmpty]

/-- **The members are the sizes that are selected.** -/
theorem mem_linkMembers_iff (h : linkMembers b = some ms) (n : Int64) : n ∈ ms ↔ b.Selects n := by
  rcases b with ⟨_ | lo, _ | hi⟩
  · exact nomatch h
  · rw [← Option.some.inj h, List.mem_filter, mem_linkSizes, decide_eq_true_iff]
    constructor
    · rintro ⟨hsize, hlt⟩
      exact .upper hsize hlt
    · rintro ⟨⟩
      exact ⟨‹_›, ‹_›⟩
  · rw [← Option.some.inj h, List.mem_filter, mem_linkSizes, decide_eq_true_iff]
    constructor
    · rintro ⟨hsize, hle⟩
      exact .lower hsize hle
    · rintro ⟨⟩
      exact ⟨‹_›, ‹_›⟩
  · rw [← Option.some.inj h, List.mem_singleton]
    constructor
    · rintro rfl
      exact .equal n hi
    · rintro ⟨⟩
      rfl

theorem pairwise_linkMembers (h : linkMembers b = some ms) : ms.Pairwise (· < ·) := by
  rcases b with ⟨_ | lo, _ | hi⟩
  · exact nomatch h
  · exact Option.some.inj h ▸ pairwise_linkSizes.filter _
  · exact Option.some.inj h ▸ pairwise_linkSizes.filter _
  · exact Option.some.inj h ▸ List.pairwise_singleton _ lo

/-- There are not more members than sizes. -/
theorem length_linkMembers_le (h : linkMembers b = some ms) : ms.length ≤ 7 := by
  rcases b with ⟨_ | lo, _ | hi⟩
  · exact nomatch h
  · exact Option.some.inj h ▸ List.length_filter_le _ linkSizes
  · exact Option.some.inj h ▸ List.length_filter_le _ linkSizes
  · rw [← Option.some.inj h, List.length_singleton]
    decide

/-- Nothing is selected, and the list is there. -/
theorem linkMembers_eq_nil (hgiven : b.isEmpty = false) (hnone : ∀ n, ¬ b.Selects n) : linkMembers b = some [] := by
  cases hms : linkMembers b with
  | none =>
      rw [linkMembers_eq_none_iff, hgiven] at hms
      exact nomatch hms
  | some ms =>
      have hnil : ms = [] := by
        rw [List.eq_nil_iff_forall_not_mem]
        intro n hn
        exact hnone n ((mem_linkMembers_iff hms n).mp hn)
      rw [hnil]

theorem linkMembers_above {lo : Int64} (h : 6 < lo) : linkMembers ⟨some lo, none⟩ = some [] := by
  refine linkMembers_eq_nil rfl ?_
  rintro n ⟨⟩
  rename_i hsize hle
  exact absurd (Int64.lt_of_lt_of_le h (Int64.le_trans hle hsize.2)) Int64.lt_irrefl

theorem linkMembers_below {hi : Int64} (h : hi ≤ 0) : linkMembers ⟨none, some hi⟩ = some [] := by
  refine linkMembers_eq_nil rfl ?_
  rintro n ⟨⟩
  rename_i hsize hlt
  exact absurd (Int64.lt_of_lt_of_le hlt (Int64.le_trans h hsize.1)) Int64.lt_irrefl

/-- The extremes on both sides. -/
example : linkMembers ⟨some Int64.minValue, none⟩ = some linkSizes ∧
    linkMembers ⟨none, some Int64.maxValue⟩ = some linkSizes ∧ linkMembers ⟨none, some Int64.minValue⟩ = some [] := by
  decide

/-- **Counting selects the same sizes**, and no sum runs over. -/
theorem counted?_eq (b : Bounds Int64) : counted? b = some (linkMembers b) := by
  have hzero : (0 : Int64).toInt = 0 := by decide
  have hsix : (6 : Int64).toInt = 6 := by decide
  have hseven : (7 : Int64).toInt = 7 := by decide
  rcases b with ⟨_ | lo, _ | hi⟩
  · rfl
  · have hpast : sum? 6 1 = some 7 := by decide
    obtain ⟨ns, hns, hsorted, hmem⟩ := countBelow?_eq_some 0 (min hi 7)
    have hsame : ns = linkSizes.filter (· < hi) := by
      refine hsorted.eq_of_mem_iff (pairwise_linkSizes.filter _) ?_
      intro n
      rw [hmem, List.mem_filter, mem_linkSizes, decide_eq_true_iff]
      show 0 ≤ n ∧ n < (if hi ≤ 7 then hi else 7) ↔ _
      simp only [Int64.le_iff_toInt_le, Int64.lt_iff_toInt_lt, hzero, hsix, hseven]
      split <;> omega
    show (sum? 6 1).bind (fun past => (countBelow? 0 (min hi past)).map some) = _
    rw [hpast, Option.bind_some, hns, hsame]
    rfl
  · obtain ⟨ns, hns, hsorted, hmem⟩ := countThrough?_eq_some (max lo 0) 6
    have hsame : ns = linkSizes.filter (lo ≤ ·) := by
      refine hsorted.eq_of_mem_iff (pairwise_linkSizes.filter _) ?_
      intro n
      rw [hmem, List.mem_filter, mem_linkSizes, decide_eq_true_iff]
      show (if lo ≤ 0 then 0 else lo) ≤ n ∧ n ≤ 6 ↔ _
      simp only [Int64.le_iff_toInt_le, hzero, hsix]
      split
      · rw [hzero]
        omega
      · omega
    show (countThrough? (max lo 0) 6).map some = _
    rw [hns, hsame]
    rfl
  · rfl

/-! ## The predicate on the link count -/

/-- The path of the link count. -/
def linkPath : String := "sockets.link"

namespace Compiler

variable {c : Compiler} {x : Criteria} {ps : List Predicate}

theorem field_ne_linkPath_of_price {p : Predicate} (h : p ∈ c.priceEmitted x) : p.field ≠ linkPath := by
  obtain ⟨_, code, _, _, rfl⟩ := mem_priceEmitted.mp h
  rw [pricePredicate_field]
  split <;> decide

theorem field_ne_linkPath_of_modifier (m : ModifierCriterion) : (modifierPredicate m).field ≠ linkPath := by
  intro h
  have hlist : (modifierSpace ++ "." ++ m.name).toList = linkPath.toList := congrArg String.toList h
  rw [String.toList_append, String.toList_append] at hlist
  exact absurd (List.cons.inj hlist).1 (by decide)

/-- The row of the link count is the last one of the fixed layout, and the only one on its path. -/
theorem fixedRows_split (x : Criteria) :
    ∃ rows, x.fixedRows = rows ++ [(linkPath, (linkMembers x.linkCount).map .oneOf)] ∧
      ∀ row ∈ rows, row.1 ≠ linkPath := by
  refine ⟨_, rfl, ?_⟩
  have hdistinct := x.nodup_schema
  have hpaths : x.schema.map Prod.fst = x.fixedRows.map Prod.fst := rfl
  rw [hpaths, Criteria.fixedRows, List.map_append, List.nodup_append] at hdistinct
  intro row hrow
  exact hdistinct.2.2 row.1 (List.mem_map_of_mem hrow) linkPath (List.mem_singleton.mpr rfl)

theorem filter_field_eq_nil {qs : List Predicate} {path : String} (h : ∀ p ∈ qs, p.field ≠ path) :
    qs.filter (fun p => p.field = path) = [] := by
  rw [List.filter_eq_nil_iff]
  intro p hp
  rw [decide_eq_true_iff]
  exact h p hp

/-- **The predicate on the link count** is there exactly if there are bounds, with the members of their list, and there
    is no other one on its path. -/
theorem filter_links (h : c.compile x = .ok ps) :
    ps.filter (fun p => p.field = linkPath) =
      (linkMembers x.linkCount).toList.map fun ms => .on linkPath (.oneOf ms) := by
  obtain ⟨_, rfl⟩ := (compile_eq_ok_iff c x ps).mp h
  obtain ⟨rows, hsplit, hother⟩ := fixedRows_split x
  have hprice : (c.priceEmitted x).filter (fun p => p.field = linkPath) = [] :=
    filter_field_eq_nil fun _ => field_ne_linkPath_of_price
  have hrows : (contributions rows).filter (fun p => p.field = linkPath) = [] := by
    apply filter_field_eq_nil
    intro p hp
    obtain ⟨path, cond, hrow, rfl⟩ := mem_contributions.mp hp
    exact hother (path, some cond) hrow
  have hmodifiers : (x.modifiers.map modifierPredicate).filter (fun p => p.field = linkPath) = [] := by
    apply filter_field_eq_nil
    intro p hp
    obtain ⟨m, _, rfl⟩ := List.mem_map.mp hp
    exact field_ne_linkPath_of_modifier m
  have hlinks : contributions x.fixedRows =
      contributions rows ++ contribution linkPath ((linkMembers x.linkCount).map .oneOf) := by
    rw [hsplit, contributions, List.flatMap_append, List.flatMap_singleton, contributions]
  rw [emitted, hlinks, List.filter_append, List.filter_append, List.filter_append, hprice, hrows, hmodifiers,
    List.nil_append, List.nil_append, List.append_nil]
  cases linkMembers x.linkCount with
  | none => rfl
  | some ms => exact List.filter_cons_of_pos (decide_eq_true rfl)

/-- An interpretation **reads lists of sizes**: a field is one of some integers if it equals one of them. -/
def ReadsSizes (I : String → Bson → Prop) : Prop :=
  ∀ (field : String) (ns : List Int64), I field (Query.oneOf (ns.map .int64)) ↔ ∃ n ∈ ns, I field (.int64 n)

theorem mem_of_linkMembers {ms : List Int64} (h : c.compile x = .ok ps) (hms : linkMembers x.linkCount = some ms) :
    Predicate.on linkPath (.oneOf ms) ∈ ps := by
  have hfilter := filter_links h
  rw [hms] at hfilter
  have hmem : Predicate.on linkPath (.oneOf ms) ∈ ps.filter (fun p => p.field = linkPath) := by
    rw [hfilter]
    exact List.mem_singleton.mpr rfl
  exact (List.mem_filter.mp hmem).1

/-- **What matches has one of the sizes** that the bounds select. -/
theorem exists_size_of_holds {ms : List Int64} {I : String → Bson → Prop} (h : c.compile x = .ok ps)
    (hms : linkMembers x.linkCount = some ms) (hreads : ReadsSizes I)
    (hholds : Query.Holds I (Query.ofPredicates ps)) : ∃ n ∈ ms, I linkPath (.int64 n) := by
  have hclauses := (Query.holds_ofPredicates (apart_of_compile h) (plainPaths_of_compile h)).mp hholds
  have hclause : I linkPath (Condition.oneOf ms).reading :=
    hclauses _ (mem_of_linkMembers h hms) _ (List.mem_singleton.mpr rfl)
  exact (hreads linkPath ms).mp hclause

/-! ## Open bounds are accepted -/

/-- One bound alone cannot be inverted. -/
theorem not_inverted_of_open {b : Bounds Int64} (hopen : b.min = none ∨ b.max = none) : ¬ b.Inverted := by
  rintro ⟨lo, hi, hlo, hhi, _⟩
  rcases hopen with hmin | hmax
  · exact nomatch hmin.symm.trans hlo
  · exact nomatch hmax.symm.trans hhi

/-- What else is admitted is admitted with other bounds, too. -/
theorem admits_of_links {a b : Bounds Int64} (hb : ¬ b.Inverted) (h : c.Admits { x with linkCount := a }) :
    c.Admits { x with linkCount := b } := by
  refine ⟨h.listed, h.names, ?_⟩
  intro hstrict
  exact { h.ordered hstrict with linkCount := hb }

/-- **One bound on the link count never makes criteria be refused**, and never makes refused ones be accepted. -/
theorem accepts_open_links {b : Bounds Int64} (hopen : b.min = none ∨ b.max = none) :
    (∃ ps, c.compile { x with linkCount := b } = .ok ps) ↔
      ∃ ps, c.compile { x with linkCount := ⟨none, none⟩ } = .ok ps := by
  constructor
  · rintro ⟨ps, hps⟩
    have hadmits := ((compile_eq_ok_iff _ _ _).mp hps).1
    have hnone : ¬ (⟨none, none⟩ : Bounds Int64).Inverted := not_inverted_of_open (.inl rfl)
    exact ⟨_, (compile_eq_ok_iff _ _ _).mpr ⟨admits_of_links hnone hadmits, rfl⟩⟩
  · rintro ⟨ps, hps⟩
    have hadmits := ((compile_eq_ok_iff _ _ _).mp hps).1
    exact ⟨_, (compile_eq_ok_iff _ _ _).mpr ⟨admits_of_links (not_inverted_of_open hopen) hadmits, rfl⟩⟩

/-! ## The whole -/

/-- **Bounds on the link count select what they say**, for all 64-bit integers. The sizes that they select are counted
    without a sum that runs over. There is a list of them exactly if there are bounds; it is in order, has at most seven
    members, and these are the sizes that the bounds select. A lower bound above the greatest size selects nothing, and
    neither does an upper bound that is not positive; criteria are accepted with one bound exactly if they are without.
    Accepted criteria with bounds always have one predicate on the link count, with the list of these bounds. What
    matches the query has one of these sizes, and nothing matches it if there are none. -/
theorem link_count_selects :
    (∀ b, counted? b = some (linkMembers b)) ∧
    (∀ b, linkMembers b = none ↔ b.isEmpty = true) ∧
    (∀ b ms, linkMembers b = some ms → ms.Pairwise (· < ·) ∧ ms.length ≤ 7 ∧ ∀ n, n ∈ ms ↔ b.Selects n) ∧
    (∀ lo, 6 < lo → linkMembers ⟨some lo, none⟩ = some []) ∧
    (∀ hi, hi ≤ 0 → linkMembers ⟨none, some hi⟩ = some []) ∧
    (∀ (c : Compiler) (x : Criteria) (b : Bounds Int64), b.min = none ∨ b.max = none →
      ((∃ ps, c.compile { x with linkCount := b } = .ok ps) ↔
        ∃ ps, c.compile { x with linkCount := ⟨none, none⟩ } = .ok ps)) ∧
    (∀ (c : Compiler) (x : Criteria) (ps : List Predicate), c.compile x = .ok ps →
      ps.filter (fun p => p.field = "sockets.link") =
        (linkMembers x.linkCount).toList.map fun ms => .on "sockets.link" (.oneOf ms)) ∧
    ∀ (c : Compiler) (x : Criteria) (ps : List Predicate) (I : String → Bson → Prop), c.compile x = .ok ps →
      ReadsSizes I → ∀ ms, linkMembers x.linkCount = some ms →
        (Query.Holds I (Query.ofPredicates ps) → ∃ n ∈ ms, I "sockets.link" (.int64 n)) ∧
        (ms = [] → .on "sockets.link" (.oneOf []) ∈ ps ∧ ¬ Query.Holds I (Query.ofPredicates ps)) := by
  refine ⟨counted?_eq, fun b => linkMembers_eq_none_iff, ?_, fun _ => linkMembers_above, fun _ => linkMembers_below,
    fun _ _ _ => accepts_open_links, fun _ _ _ => filter_links, ?_⟩
  · intro b ms hms
    exact ⟨pairwise_linkMembers hms, length_linkMembers_le hms, mem_linkMembers_iff hms⟩
  · intro c x ps I h hreads ms hms
    refine ⟨exists_size_of_holds h hms hreads, ?_⟩
    rintro rfl
    refine ⟨mem_of_linkMembers h hms, ?_⟩
    intro hholds
    obtain ⟨n, hn, _⟩ := exists_size_of_holds h hms hreads hholds
    exact absurd hn List.not_mem_nil

/-- A record that has nothing but its link count. -/
def LinkRecord (size : Int64) (field : String) (v : Bson) : Prop :=
  field = linkPath ∧ (v = .int64 size ∨ ∃ ns : List Int64, v = Query.oneOf (ns.map .int64) ∧ size ∈ ns)

theorem readsSizes_linkRecord (size : Int64) : ReadsSizes (LinkRecord size) := by
  intro field ns
  constructor
  · rintro ⟨hfield, hint | ⟨ms, hms, hsize⟩⟩
    · exact nomatch hint
    · refine ⟨size, ?_, hfield, .inl rfl⟩
      have hlists : ns.map Bson.int64 = ms.map Bson.int64 :=
        Bson.array.inj (Prod.mk.inj (List.cons.inj (Bson.document.inj hms)).1).2
      rw [List.map_injective_iff.mpr (fun _ _ => Bson.int64.inj) hlists]
      exact hsize
  · rintro ⟨n, hn, hfield, hint | ⟨ms, hms, _⟩⟩
    · exact ⟨hfield, .inr ⟨ns, rfl, Bson.int64.inj hint ▸ hn⟩⟩
    · exact nomatch hms

/-- More links than the greatest size: the empty list is asked for, and six links are not a match. -/
theorem links_above_all :
    ∃ ps, ({} : Compiler).compile { linkCount := ⟨some 9, none⟩ } = .ok ps ∧
      .on "sockets.link" (.oneOf []) ∈ ps ∧ ¬ Query.Holds (LinkRecord 6) (Query.ofPredicates ps) := by
  obtain ⟨_, _, _, habove, _, haccepts, _, hmeaning⟩ := link_count_selects
  have hnone : linkMembers ⟨some 9, none⟩ = some [] := habove 9 (by decide)
  obtain ⟨ps, hps⟩ := (haccepts {} {} ⟨some 9, none⟩ (.inr rfl)).mpr ⟨[], rfl⟩
  exact ⟨ps, hps, (hmeaning {} { linkCount := ⟨some 9, none⟩ } ps (LinkRecord 6) hps (readsSizes_linkRecord 6) []
    hnone).2 rfl⟩

end Compiler

end ItemQuery
