import ItemQuery.Proofs.Path.Names
import ItemQuery.Proofs.Query.Meaning

/-!
# `Proofs.Query.Shape` — what a caller can put into a query

Texts of the caller reach a query: a currency, a name, a category, a base type, a league and the names of any
number of modifiers. None of them may become anything but a value, or the last part of a modifier's path. This
is said twice. `QueryShape` lists all that a query of accepted criteria consists of, key by key and value by
value. And a second run shows that the values do not matter for the rest: accepted criteria of the same form
(`Criteria.SameForm`) give queries with the same outline, in which only the values and the names of modifiers
are erased. The two runs may even be of two compilers.

## Contents
- `Supplied`, `FieldShape`, `ConditionShape`, `QueryShape`: fields, conditions and whole queries.
- `Query.outline`: a document without its values and the names of modifiers.
- `Criterion.Alike`, `Criteria.SameForm`: criteria that are given alike.
- `queryShape_of_compile`: all that a query of accepted criteria consists of.
- `outline_eq_of_sameForm`: accepted criteria of the same form give queries with the same outline.
- `compile_query_shape`: both together.
-/

namespace ItemQuery

/-! ## The shape of a query -/

/-- **A text that stands bare behind a field**, with the criterion that supplies it. -/
inductive Supplied (c : Compiler) (x : Criteria) : String → String → Prop
  | currency {name code : String} (hname : x.currencyName = some name)
      (hcode : c.currencies.get? name = some code) : Supplied c x "Price.Currency" code
  | category {s : String} (h : x.category = some s) : Supplied c x "type" (pluralize s)
  | typeLine {s : String} (h : x.typeLine = some s) : Supplied c x "typeLine" s
  | league {s : String} (h : x.league = some s) : Supplied c x "league" s

/-- **A field of a query**: a path of the fixed layout, or a modifier's path, which has a plain name as its last
    part and no dot but the one before it. -/
inductive FieldShape (x : Criteria) : String → Prop
  | fixed {k : String} (h : k ∈ schemaPaths) : FieldShape x k
  | modifier {m : ModifierCriterion} (hm : m ∈ x.modifiers) (hplain : PlainName m.name)
      (hdot : ("Mods." ++ m.name).toList.count '.' = 1) : FieldShape x ("Mods." ++ m.name)

/-- A number of the kinds that queries use. -/
inductive Bson.IsNumber : Bson → Prop
  | int64 (n : Int64) : IsNumber (.int64 n)
  | double (v : Double) : IsNumber (.double v)

/-- **What stands behind a field of a query.** The six keys here are the only ones inside a condition, and
    behind them are numbers and constants but for the escaped text of a pattern. -/
inductive ConditionShape (c : Compiler) (x : Criteria) : String → Bson → Prop
  | flag {k : String} : ConditionShape c x k (.bool true)
  | text {k s : String} (h : Supplied c x k s) : ConditionShape c x k (.string s)
  | pattern {s : String} (h : x.name = some s) :
      ConditionShape c x "name"
        (.document [("$regex", .string (escapePattern s)), ("$options", .string "i")])
  | atLeast {k : String} {v : Bson} (h : v.IsNumber) : ConditionShape c x k (.document [("$gte", v)])
  | atMost {k : String} {v : Bson} (h : v.IsNumber) : ConditionShape c x k (.document [("$lte", v)])
  | between {k : String} {v w : Bson} (hv : v.IsNumber) (hw : w.IsNumber) :
      ConditionShape c x k (.document [("$gte", v), ("$lte", w)])
  | oneOf {k : String} (ns : List Int64) :
      ConditionShape c x k (.document [("$in", .array (ns.map .int64))])
  | present {k : String} : ConditionShape c x k (.document [("$exists", .bool true)])

/-- **A query**: no entry at all, or `$and` alone, over one or more documents that are not empty. -/
inductive QueryShape (c : Compiler) (x : Criteria) : Document → Prop
  | empty : QueryShape c x []
  | all {ds : List Document} (hne : ds ≠ [])
      (h : ∀ d ∈ ds, d ≠ [] ∧ ∀ e ∈ d, FieldShape x e.1 ∧ ConditionShape c x e.1 e.2) :
      QueryShape c x [("$and", .array (ds.map .document))]

/-! ## Conditions that are emitted -/

theorem Operand.isNumber_int (n : Int64) : (Operand.int n).toBson.IsNumber := .int64 n

theorem Operand.isNumber_ofFloat (v : Float) : (Operand.ofFloat v).toBson.IsNumber :=
  .double (.ofFloat v)

/-- Bounds on numbers have their shape on every field. -/
theorem conditionShape_of_range {α : Type} {f : α → Operand} (hf : ∀ a, (f a).toBson.IsNumber)
    {b : Bounds α} {cond : Condition} (h : (b.map f).Asks cond) (c : Compiler) (x : Criteria)
    (k : String) : ConditionShape c x k cond.reading := by
  have hcond := rangeCondition_eq_some_iff.mpr h
  rcases b with ⟨_ | lo, _ | hi⟩
  · exact nomatch hcond
  · obtain rfl := Option.some.inj hcond
    exact .atMost (hf hi)
  · obtain rfl := Option.some.inj hcond
    exact .atLeast (hf lo)
  · obtain rfl := Option.some.inj hcond
    exact .between (hf lo) (hf hi)

/-- What a criterion of the schema asks for has its shape on the criterion's path. Only three paths take a bare
    text and one a pattern, which is why the path matters. -/
theorem conditionShape_of_schema {c : Compiler} {x : Criteria} {path : String} {a : Criterion}
    (ha : (path, a) ∈ x.schema) {cond : Condition} (h : a.Asks cond) :
    ConditionShape c x path cond.reading := by
  cases h with
  | substring s =>
      obtain ⟨rfl, hname⟩ : path = "name" ∧ some s = x.name := by simpa [Criteria.schema] using ha
      exact .pattern hname.symm
  | category s =>
      obtain ⟨rfl, hcategory⟩ : path = "type" ∧ some s = x.category := by
        simpa [Criteria.schema] using ha
      exact .text (.category hcategory.symm)
  | label s =>
      have hlabel : path = "typeLine" ∧ some s = x.typeLine ∨ path = "league" ∧ some s = x.league := by
        simpa [Criteria.schema] using ha
      rcases hlabel with ⟨rfl, htype⟩ | ⟨rfl, hleague⟩
      · exact .text (.typeLine htype.symm)
      · exact .text (.league hleague.symm)
  | flag => exact .flag
  | whole h => exact conditionShape_of_range Operand.isNumber_int h c x path
  | real h => exact conditionShape_of_range Operand.isNumber_ofFloat h c x path
  | mean lo hi => exact .atLeast (Operand.isNumber_ofFloat _)
  | derivedLower lo => exact .atLeast (Operand.isNumber_ofFloat lo)
  | derivedUpper hi => exact .atMost (Operand.isNumber_ofFloat hi)
  | least n => exact .atLeast (Operand.isNumber_int n)
  | linksEqual lo hi => exact .oneOf _
  | linksFrom lo => exact .oneOf _
  | linksBelow hi => exact .oneOf _

namespace Compiler

theorem conditionShape_of_emits {c : Compiler} {x : Criteria} {cl : Clause} (h : c.Emits x cl) :
    ConditionShape c x cl.path.text cl.condition.reading := by
  cases h with
  | currency hname hcode => exact .text (.currency hname hcode)
  | price _ hprice =>
      exact conditionShape_of_range Operand.isNumber_ofFloat (rangeCondition_eq_some_iff.mp hprice) c x _
  | fixed hrow =>
      rw [Criteria.fixedRows_eq_schema] at hrow
      obtain ⟨⟨path, a⟩, ha, heq⟩ := List.mem_map.mp hrow
      obtain ⟨rfl, hcond⟩ := Prod.mk.injEq .. ▸ heq
      exact conditionShape_of_schema ha (Criterion.condition_eq_some_iff.mp hcond)
  | @modifier m hm =>
      show ConditionShape c x _ ((rangeCondition (m.bounds.map Operand.ofFloat)).getD .present).reading
      cases hcond : rangeCondition (m.bounds.map Operand.ofFloat) with
      | none => exact .present
      | some cond =>
          exact conditionShape_of_range Operand.isNumber_ofFloat (rangeCondition_eq_some_iff.mp hcond)
            c x _

theorem modifierSpace_dot : modifierSpace ++ "." = "Mods." := by decide

theorem fieldShape_of_emits {c : Compiler} {x : Criteria} (hx : c.Admits x) {cl : Clause}
    (h : c.Emits x cl) : FieldShape x cl.path.text := by
  rcases path_of_emits h with hpath | ⟨m, hm, hpath⟩
  · exact .fixed hpath
  · rw [hpath]
    have hplain : PlainName m.name := plainName_of_checkName (hx.names m hm)
    have hspace : '.' ∉ modifierSpace.toList := by decide
    have hdot := hplain.count_dot_within hspace
    rw [modifierSpace_dot] at hdot
    exact .modifier hm hplain hdot

/-- **A query of accepted criteria has the shape of a query**: nothing a caller gives adds a key, changes one,
    or stands where a key is read. -/
theorem queryShape_of_compile {c : Compiler} {x : Criteria} {ps : List Predicate}
    (h : c.compile x = .ok ps) : QueryShape c x (Query.ofPredicates ps) := by
  have hapart := apart_of_compile h
  obtain ⟨hadmits, hps⟩ := (compile_eq_ok_iff c x ps).mp h
  have hdocuments : ∀ d ∈ ps.map Predicate.toDocument,
      d ≠ [] ∧ ∀ e ∈ d, FieldShape x e.1 ∧ ConditionShape c x e.1 e.2 := by
    rw [List.forall_mem_map]
    intro p hp
    rw [Predicate.toDocument_eq_entries (hapart p hp)]
    refine ⟨?_, List.forall_mem_map.mpr fun cl hcl => ?_⟩
    · simp [Predicate.clauses]
    · have hemits := emits_of_mem_clauses (hps ▸ hp) hcl
      exact ⟨fieldShape_of_emits hadmits hemits, conditionShape_of_emits hemits⟩
  cases ps with
  | nil => exact .empty
  | cons p ps => exact .all (List.cons_ne_nil _ _) hdocuments

end Compiler

/-! ## Outlines -/

namespace Query

/-- A key without the name of a modifier. -/
def outlineKey (k : String) : String :=
  if (Path.mk k).root = modifierSpace then modifierSpace ++ "." else k

mutual

/-- **The outline of a document**: its keys up to the names of modifiers, and the outlines of its values. -/
def outline : List (String × Bson) → List (String × Bson)
  | [] => []
  | (k, v) :: es => (outlineKey k, outlineValue v) :: outline es

/-- The outline of a value: the kind of a text or a number, all of a flag, and whatever is inside. -/
def outlineValue : Bson → Bson
  | .int32 _ => .int32 0
  | .int64 _ => .int64 0
  | .double _ => .double (.ofFloat 0.0)
  | .string _ => .string ""
  | .date _ => .date 0
  | .array vs => .array (outlineItems vs)
  | .document es => .document (outline es)
  | v => v

/-- The outlines of the items of an array. -/
def outlineItems : List Bson → List Bson
  | [] => []
  | v :: vs => outlineValue v :: outlineItems vs

end

theorem outline_eq_map (es : List (String × Bson)) :
    outline es = es.map fun e => (outlineKey e.1, outlineValue e.2) := by
  induction es with
  | nil => rfl
  | cons e es ih =>
      obtain ⟨k, v⟩ := e
      rw [outline, ih, List.map_cons]

theorem outlineItems_eq_map (vs : List Bson) : outlineItems vs = vs.map outlineValue := by
  induction vs with
  | nil => rfl
  | cons v vs ih => rw [outlineItems, ih, List.map_cons]

/-- Modifiers' paths are not told apart by outlines. -/
theorem outlineKey_modifier (name : String) :
    outlineKey (modifierSpace ++ "." ++ name) = modifierSpace ++ "." := by
  have hspace : '.' ∉ modifierSpace.toList := by decide
  rw [outlineKey, if_pos (Path.root_within name hspace)]

/-- An array of integers has its length as its outline. -/
theorem outline_oneOf (ns : List Int64) :
    outlineValue (Condition.oneOf ns).toBson =
      .document [("$in", .array (List.replicate ns.length (.int64 0)))] := by
  have hitems : outlineItems (ns.map .int64) = List.replicate ns.length (.int64 0) := by
    rw [outlineItems_eq_map, List.map_map]
    exact List.map_const
  show Bson.document [(outlineKey "$in", .array (outlineItems (ns.map .int64)))] = _
  rw [hitems]
  rfl

/-- Queries have one outline if the documents of their predicates have. -/
theorem outline_ofPredicates {ps qs : List Predicate}
    (h : ps.map (fun p => outline p.toDocument) = qs.map fun p => outline p.toDocument) :
    outline (ofPredicates ps) = outline (ofPredicates qs) := by
  have hvalue (rs : List Predicate) : outlineValue (allOf (rs.map Predicate.toDocument)) =
      .array ((rs.map fun p => outline p.toDocument).map .document) := by
    rw [allOf, outlineValue, outlineItems_eq_map, List.map_map, List.map_map, List.map_map]
    rfl
  cases ps with
  | nil =>
      rw [List.map_eq_nil_iff.mp h.symm]
  | cons p ps =>
      cases qs with
      | nil => exact absurd h (List.cons_ne_nil _ _)
      | cons q qs =>
          show [(outlineKey "$and", outlineValue (allOf _))] = [(outlineKey "$and", outlineValue (allOf _))]
          rw [hvalue, hvalue, h]

end Query

/-! ## Criteria that are given alike -/

/-- The same of the two bounds are given. -/
inductive Bounds.Alike {α : Type} : Bounds α → Bounds α → Prop
  | none : Alike ⟨none, none⟩ ⟨none, none⟩
  | lower (lo lo' : α) : Alike ⟨some lo, none⟩ ⟨some lo', none⟩
  | upper (hi hi' : α) : Alike ⟨none, some hi⟩ ⟨none, some hi'⟩
  | both (lo lo' hi hi' : α) : Alike ⟨some lo, some hi⟩ ⟨some lo', some hi'⟩

/-- **Two criteria are given alike**: they are of one kind, and both are given or neither is; flags are equal,
    and of link counts as many sizes are selected. -/
inductive Criterion.Alike : Criterion → Criterion → Prop
  | substring {s t : Option String} (h : s.isSome = t.isSome) : Alike (.substring s) (.substring t)
  | category {s t : Option String} (h : s.isSome = t.isSome) : Alike (.category s) (.category t)
  | label {s t : Option String} (h : s.isSome = t.isSome) : Alike (.label s) (.label t)
  | flag (b : Option Bool) : Alike (.flag b) (.flag b)
  | whole {b b' : Bounds Int64} (h : b.Alike b') : Alike (.whole b) (.whole b')
  | real {b b' : Bounds Float} (h : b.Alike b') : Alike (.real b) (.real b')
  | derived {b b' : Bounds Float} (h : b.Alike b') : Alike (.derived b) (.derived b')
  | least {n n' : Option Int64} (h : n.isSome = n'.isSome) : Alike (.least n) (.least n')
  | links {b b' : Bounds Int64}
      (h : (linkMembers b).map List.length = (linkMembers b').map List.length) :
      Alike (.links b) (.links b')

/-- **Criteria of the same form**: each criterion is given alike, and there are as many modifiers, with the same
    of their bounds given. -/
structure Criteria.SameForm (x y : Criteria) : Prop where
  currency : x.currencyName.isSome = y.currencyName.isSome
  price : x.price.Alike y.price
  schema : List.Forall₂ (fun row row' => row.2.Alike row'.2) x.schema y.schema
  modifiers : List.Forall₂ (fun m m' => m.bounds.Alike m'.bounds) x.modifiers y.modifiers

/-! ## Outlines of conditions -/

/-- The outline of a condition as it stands behind its field. -/
def Condition.outline (cond : Condition) : Bson := Query.outlineValue cond.toBson

theorem Condition.outline_text (s : String) : (equals (.text s)).outline = .string "" := rfl

theorem Condition.outline_contains (s : String) :
    (contains s).outline = .document [("$regex", .string ""), ("$options", .string "")] := rfl

theorem Condition.outline_atLeast_int (n : Int64) :
    (atLeast (.int n)).outline = .document [("$gte", .int64 0)] := rfl

theorem Condition.outline_atLeast_float (v : Float) :
    (atLeast (.ofFloat v)).outline = .document [("$gte", .double (.ofFloat 0.0))] := rfl

/-- A condition made of an optional value has an outline that depends only on whether the value is there. -/
theorem outline_optional {α : Type} {f : α → Condition} {v : Bson} (hf : ∀ a, (f a).outline = v)
    {s t : Option α} (h : s.isSome = t.isSome) :
    (s.map f).map Condition.outline = (t.map f).map Condition.outline := by
  cases s with
  | none =>
      cases t with
      | none => rfl
      | some a => exact nomatch h
  | some a =>
      cases t with
      | none => exact nomatch h
      | some a' => exact congrArg some ((hf a).trans (hf a').symm)

/-- The same for a condition made of bounds. -/
theorem outline_range {α : Type} {f : α → Operand} {v : Bson}
    (hf : ∀ a, Query.outlineValue (f a).toBson = v) {b b' : Bounds α} (h : b.Alike b') :
    (rangeCondition (b.map f)).map Condition.outline =
      (rangeCondition (b'.map f)).map Condition.outline := by
  -- each side is compared with the outline `v`, because the bounds themselves are not equal
  have hlower (lo : α) : (Condition.atLeast (f lo)).outline = .document [("$gte", v)] := by
    rw [← hf lo]
    rfl
  have hupper (hi : α) : (Condition.atMost (f hi)).outline = .document [("$lte", v)] := by
    rw [← hf hi]
    rfl
  have hboth (lo hi : α) :
      (Condition.between (f lo) (f hi)).outline = .document [("$gte", v), ("$lte", v)] := by
    show Bson.document [(Query.outlineKey "$gte", Query.outlineValue (f lo).toBson),
      (Query.outlineKey "$lte", Query.outlineValue (f hi).toBson)] = _
    rw [hf lo, hf hi]
    rfl
  cases h with
  | none => rfl
  | lower lo lo' => exact congrArg some ((hlower lo).trans (hlower lo').symm)
  | upper hi hi' => exact congrArg some ((hupper hi).trans (hupper hi').symm)
  | both lo lo' hi hi' => exact congrArg some ((hboth lo hi).trans (hboth lo' hi').symm)

theorem outline_range_int {b b' : Bounds Int64} (h : b.Alike b') :
    (rangeCondition (b.map .int)).map Condition.outline =
      (rangeCondition (b'.map .int)).map Condition.outline :=
  outline_range (f := .int) (v := .int64 0) (fun _ => rfl) h

theorem outline_range_float {b b' : Bounds Float} (h : b.Alike b') :
    (rangeCondition (b.map .ofFloat)).map Condition.outline =
      (rangeCondition (b'.map .ofFloat)).map Condition.outline :=
  outline_range (f := .ofFloat) (v := .double (.ofFloat 0.0)) (fun _ => rfl) h

theorem outline_derived {b b' : Bounds Float} (h : b.Alike b') :
    (derivedCondition b).map Condition.outline = (derivedCondition b').map Condition.outline := by
  cases h with
  | none => rfl
  | lower lo lo' =>
      exact congrArg some
        ((Condition.outline_atLeast_float lo).trans (Condition.outline_atLeast_float lo').symm)
  | upper hi hi' => exact outline_range_float (.upper hi hi')
  | both lo lo' hi hi' =>
      exact congrArg some
        ((Condition.outline_atLeast_float _).trans (Condition.outline_atLeast_float _).symm)

/-- Of link counts the number of selected sizes is left. -/
theorem outline_links {b b' : Bounds Int64}
    (h : (linkMembers b).map List.length = (linkMembers b').map List.length) :
    ((linkMembers b).map Condition.oneOf).map Condition.outline =
      ((linkMembers b').map Condition.oneOf).map Condition.outline := by
  have hlength (s : Option (List Int64)) : (s.map Condition.oneOf).map Condition.outline =
      (s.map List.length).map fun n =>
        .document [("$in", .array (List.replicate n (.int64 0)))] := by
    rw [Option.map_map, Option.map_map]
    exact congrArg (Option.map · s) (funext Query.outline_oneOf)
  rw [hlength, hlength, h]

/-- **Criteria that are given alike ask for conditions with one outline.** -/
theorem Criterion.outline_condition {a b : Criterion} (h : a.Alike b) :
    a.condition.map Condition.outline = b.condition.map Condition.outline := by
  cases h with
  | substring h => exact outline_optional Condition.outline_contains h
  | category h => exact outline_optional (fun s => Condition.outline_text (pluralize s)) h
  | label h => exact outline_optional Condition.outline_text h
  | flag b => rfl
  | whole h => exact outline_range_int h
  | real h => exact outline_range_float h
  | derived h => exact outline_derived h
  | least h => exact outline_optional Condition.outline_atLeast_int h
  | links h => exact outline_links h

/-! ## Outlines of predicates -/

/-- The outline of a predicate's document. -/
def Predicate.outline (p : Predicate) : Document := Query.outline p.toDocument

theorem Predicate.outline_eq_map {p : Predicate} (h : p.Apart) :
    p.outline = p.clauses.map fun cl => (Query.outlineKey cl.path.text, cl.condition.outline) := by
  rw [Predicate.outline, Query.outline_eq_map, toDocument_eq_entries h, List.map_map]
  refine List.map_congr_left fun cl _ => ?_
  rw [Condition.outline, Condition.toBson_eq_reading]
  rfl

theorem outline_pricePredicate (code code' : String) {b b' : Bounds Float} (h : b.Alike b') :
    (Compiler.pricePredicate code b).outline = (Compiler.pricePredicate code' b').outline := by
  have hcode : (Condition.equals (.text code)).outline = (Condition.equals (.text code')).outline :=
    (Condition.outline_text code).trans (Condition.outline_text code').symm
  have hrange := outline_range_float h
  rw [Predicate.outline_eq_map (Compiler.pricePredicate_asks code b).apart,
    Predicate.outline_eq_map (Compiler.pricePredicate_asks code' b').apart]
  unfold Compiler.pricePredicate
  cases hb : rangeCondition (b.map Operand.ofFloat) with
  | none =>
      rw [hb, Option.map_none, eq_comm, Option.map_eq_none_iff] at hrange
      rw [hrange]
      simp only [Predicate.clauses, Option.toList_none, List.nil_append, List.map_cons, List.map_nil, hcode]
  | some cond =>
      rw [hb, Option.map_some, eq_comm, Option.map_eq_some_iff] at hrange
      obtain ⟨cond', hb', hcond⟩ := hrange
      rw [hb']
      simp only [Predicate.clauses, Option.toList_some, List.cons_append, List.nil_append,
        List.map_cons, List.map_nil, hcode, hcond]

theorem outline_modifierPredicate {m m' : ModifierCriterion} (h : m.bounds.Alike m'.bounds) :
    (Compiler.modifierPredicate m).outline = (Compiler.modifierPredicate m').outline := by
  have hrange := outline_range_float h
  have hcond : ((rangeCondition (m.bounds.map Operand.ofFloat)).getD .present).outline =
      ((rangeCondition (m'.bounds.map Operand.ofFloat)).getD .present).outline := by
    rw [← Option.getD_map Condition.outline, ← Option.getD_map Condition.outline, hrange]
  rw [Predicate.outline_eq_map (Predicate.apart_of_anchor_none rfl),
    Predicate.outline_eq_map (Predicate.apart_of_anchor_none rfl)]
  simp only [Compiler.modifierPredicate, Predicate.clauses, Option.toList_none, List.nil_append,
    List.map_cons, List.map_nil, Query.outlineKey_modifier, hcond]

/-- A row contributes the outline of its condition, behind its path. -/
theorem outline_contribution (path : String) (condition : Option Condition) :
    (contribution path condition).map Predicate.outline =
      (condition.map Condition.outline).toList.map fun v => [(Query.outlineKey path, v)] := by
  cases condition with
  | none => rfl
  | some cond => rfl

/-- Rows that are given alike contribute predicates with one outline, row by row. -/
theorem outline_contributions {rows rows' : List (String × Criterion)}
    (h : List.Forall₂ (fun row row' => row.2.Alike row'.2) rows rows')
    (hpaths : rows.map Prod.fst = rows'.map Prod.fst) :
    (contributions (rows.map fun row => (row.1, row.2.condition))).map Predicate.outline =
      (contributions (rows'.map fun row => (row.1, row.2.condition))).map Predicate.outline := by
  induction h with
  | nil => rfl
  | @cons row row' rows rows' hrow _ ih =>
      obtain ⟨hpath, hpaths⟩ := List.cons.inj hpaths
      simp only [contributions, List.map_cons, List.flatMap_cons, List.map_append] at ih ⊢
      rw [ih hpaths, outline_contribution, outline_contribution, hpath,
        Criterion.outline_condition hrow]

namespace Compiler

theorem outline_priceEmitted {c d : Compiler} {x y : Criteria} (hx : c.Admits x) (hy : d.Admits y)
    (h : x.SameForm y) :
    (c.priceEmitted x).map Predicate.outline = (d.priceEmitted y).map Predicate.outline := by
  have hcurrency := h.currency
  cases hxname : x.currencyName with
  | none =>
      rw [hxname, eq_comm, Option.isSome_none, Option.isSome_eq_false_iff, Option.isNone_iff_eq_none]
        at hcurrency
      simp only [priceEmitted, hxname, hcurrency, Option.bind_none, List.map_nil]
  | some name =>
      rw [hxname, eq_comm, Option.isSome_some, Option.isSome_iff_exists] at hcurrency
      obtain ⟨name', hyname⟩ := hcurrency
      obtain ⟨code, hcode⟩ := hx.code hxname
      obtain ⟨code', hcode'⟩ := hy.code hyname
      simp only [priceEmitted, hxname, hyname, Option.bind_some, hcode, hcode', List.map_cons,
        List.map_nil, outline_pricePredicate code code' h.price]

/-- **Accepted criteria of the same form give queries with the same outline**, whichever compilers accept
    them. -/
theorem outline_eq_of_sameForm {c d : Compiler} {x y : Criteria} {ps qs : List Predicate}
    (hx : c.compile x = .ok ps) (hy : d.compile y = .ok qs) (h : x.SameForm y) :
    Query.outline (Query.ofPredicates ps) = Query.outline (Query.ofPredicates qs) := by
  obtain ⟨hadmitsX, rfl⟩ := (compile_eq_ok_iff c x ps).mp hx
  obtain ⟨hadmitsY, rfl⟩ := (compile_eq_ok_iff d y qs).mp hy
  -- the emitted lists agree in the price, in the rows of the schema, and in the modifiers
  refine Query.outline_ofPredicates ?_
  show (c.emitted x).map Predicate.outline = (d.emitted y).map Predicate.outline
  have hmodifiers : (x.modifiers.map modifierPredicate).map Predicate.outline =
      (y.modifiers.map modifierPredicate).map Predicate.outline := by
    rw [List.map_map, List.map_map, ← List.forall₂_eq_eq_eq, List.forall₂_map_left_iff,
      List.forall₂_map_right_iff]
    exact h.modifiers.imp fun m m' hm => outline_modifierPredicate hm
  rw [emitted, emitted, List.map_append, List.map_append, List.map_append, List.map_append,
    outline_priceEmitted hadmitsX hadmitsY h, hmodifiers, Criteria.fixedRows_eq_schema,
    Criteria.fixedRows_eq_schema, outline_contributions h.schema rfl]

/-- **No caller can inject anything into a query.** The query of accepted criteria is empty exactly if they
    compile to nothing; it has the shape of a query, in which their texts are values or names of modifiers; and
    other accepted criteria of the same form, even for another compiler, give a query with the same outline. -/
theorem compile_query_shape {c : Compiler} {x : Criteria} {ps : List Predicate}
    (h : c.compile x = .ok ps) :
    (Query.ofPredicates ps = [] ↔ ps = []) ∧
    QueryShape c x (Query.ofPredicates ps) ∧
    ∀ (d : Compiler) (y : Criteria) (qs : List Predicate), d.compile y = .ok qs → x.SameForm y →
      Query.outline (Query.ofPredicates ps) = Query.outline (Query.ofPredicates qs) := by
  refine ⟨?_, queryShape_of_compile h, fun d y qs hy hform => outline_eq_of_sameForm h hy hform⟩
  cases ps with
  | nil => exact iff_of_true rfl rfl
  | cons p ps => exact iff_of_false (List.cons_ne_nil _ _) (List.cons_ne_nil p ps)

/-- Texts and names that look like parts of a query change nothing in it. -/
theorem outline_dollar_league :
    Query.outline (Query.ofPredicates [.on "league" (.equals (.text "Standard")),
        ⟨none, ⟨⟨"Mods.Life"⟩, .atLeast (.ofFloat 3.0)⟩⟩]) =
      Query.outline (Query.ofPredicates [.on "league" (.equals (.text "$or: Mods.Life")),
        ⟨none, ⟨⟨"Mods.or: 1 & 1"⟩, .atLeast (.ofFloat 7.0)⟩⟩]) := by
  have hx : ({} : Compiler).compile
      { league := some "Standard", modifiers := [{ name := "Life", lower := some 3.0 }] } =
        .ok [.on "league" (.equals (.text "Standard")),
          ⟨none, ⟨⟨"Mods.Life"⟩, .atLeast (.ofFloat 3.0)⟩⟩] := by decide +kernel
  have hy : ({} : Compiler).compile
      { league := some "$or: Mods.Life", modifiers := [{ name := "or: 1 & 1", lower := some 7.0 }] } =
        .ok [.on "league" (.equals (.text "$or: Mods.Life")),
          ⟨none, ⟨⟨"Mods.or: 1 & 1"⟩, .atLeast (.ofFloat 7.0)⟩⟩] := by decide +kernel
  refine (compile_query_shape hx).2.2 {} _ _ hy ⟨rfl, .none, ?_, .cons (.lower _ _) .nil⟩
  simp only [Criteria.schema]
  repeat' constructor

end Compiler

end ItemQuery
