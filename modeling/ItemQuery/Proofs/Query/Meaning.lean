import ItemQuery.Proofs.Compiler.Layout
import ItemQuery.Query.Basic

/-!
# `Proofs.Query.Meaning` — a query means what its predicates mean

The store reads a query as a conjunction: a document holds if all its entries hold, and `$and` holds if all its
members do. Every other entry is a condition on a field, and what such conditions mean is left open: the
theorems hold for every interpretation `I` that says of a field and a condition whether the condition is true
of the field. So nothing about records is assumed, and no clause can be lost, merged or made stronger behind
the meaning of some operator.

A predicate is rendered by setting its clauses in one document. Setting a key again replaces its value, so
the anchor of a predicate must not stand on the path of its clause (`Predicate.Apart`); then the document holds
an entry for every clause (`toDocument_eq_entries`). Different predicates get different documents, and may
share their paths.

## Contents
- `Query.Holds`: when a document holds under an interpretation.
- `Condition.reading`: what stands behind the field of a condition, written out.
- `Predicate.Apart`, `Predicate.PlainPaths`: what rendering asks of predicates.
- `holds_ofPredicates`: the query of some predicates holds exactly if all their clauses do.
- `apart_of_compile`, `plainPaths_of_compile`: compiled predicates can be rendered.
- `query_holds_iff_clauses`: both together.
-/

namespace ItemQuery

namespace Query

/-! ## The meaning of a document -/

mutual

/-- **A document holds**: all its entries do. -/
def Holds (I : String → Bson → Prop) : List (String × Bson) → Prop
  | [] => True
  | (k, v) :: es => EntryHolds I k v ∧ Holds I es

/-- An entry holds: under `$and` all members do; any other entry is a condition on a field. -/
def EntryHolds (I : String → Bson → Prop) (k : String) : Bson → Prop
  | .array vs => if k = "$and" then MembersHold I vs else I k (.array vs)
  | v => k ≠ "$and" ∧ I k v

/-- The members of an `$and` hold: each is a document that holds. -/
def MembersHold (I : String → Bson → Prop) : List Bson → Prop
  | [] => True
  | v :: vs => MemberHolds I v ∧ MembersHold I vs

/-- A member of an `$and` holds. -/
def MemberHolds (I : String → Bson → Prop) : Bson → Prop
  | .document es => Holds I es
  | _ => False

end

variable {I : String → Bson → Prop}

theorem holds_iff (es : List (String × Bson)) : Holds I es ↔ ∀ e ∈ es, EntryHolds I e.1 e.2 := by
  induction es with
  | nil => simp [Holds]
  | cons e es ih =>
      obtain ⟨k, v⟩ := e
      rw [Holds, ih, List.forall_mem_cons]

theorem membersHold_documents (ds : List Document) :
    MembersHold I (ds.map .document) ↔ ∀ d ∈ ds, Holds I d := by
  induction ds with
  | nil => simp [MembersHold]
  | cons d ds ih => rw [List.map_cons, MembersHold, MemberHolds, ih, List.forall_mem_cons]

/-- Behind any key but `$and` an entry is a condition on a field. -/
theorem entryHolds_of_ne {k : String} (hk : k ≠ "$and") (v : Bson) : EntryHolds I k v ↔ I k v := by
  cases v with
  | array vs => rw [EntryHolds, if_neg hk]
  | _ => simp [EntryHolds, hk]

theorem entryHolds_allOf (ds : List Document) :
    EntryHolds I "$and" (allOf ds) ↔ ∀ d ∈ ds, Holds I d := by
  rw [allOf, EntryHolds, if_pos rfl, membersHold_documents]

end Query

/-! ## Conditions and clauses, written out -/

/-- **What stands behind the field of a condition**: the bare operand for an equality, else a document of
    operators. -/
def Condition.reading : Condition → Bson
  | .equals v => v.toBson
  | .contains s => .document [("$regex", .string (escapePattern s)), ("$options", .string "i")]
  | .atLeast v => .document [("$gte", v.toBson)]
  | .atMost v => .document [("$lte", v.toBson)]
  | .between lo hi => .document [("$gte", lo.toBson), ("$lte", hi.toBson)]
  | .oneOf ns => .document [("$in", .array (ns.map .int64))]
  | .present => .document [("$exists", .bool true)]

theorem Condition.toBson_eq_reading (cond : Condition) : cond.toBson = cond.reading := by
  cases cond <;> rfl

/-- The entry of a clause in a document. -/
def Clause.entry (cl : Clause) : String × Bson := (cl.path.text, cl.condition.reading)

/-! ## What rendering asks of predicates -/

namespace Predicate

/-- The anchor, if there is one, stands on another path than the clause. -/
def Apart (p : Predicate) : Prop := ∀ a, p.anchor = some a → a.path ≠ p.clause.path

/-- No path begins with the sign of operators. -/
def PlainPaths (p : Predicate) : Prop := ∀ cl ∈ p.clauses, cl.path.text.toList.head? ≠ some '$'

theorem apart_of_anchor_none {p : Predicate} (h : p.anchor = none) : p.Apart := by
  intro a ha
  rw [h] at ha
  exact nomatch ha

/-- **A document holds an entry for every clause**, in order. -/
theorem toDocument_eq_entries {p : Predicate} (h : p.Apart) :
    p.toDocument = p.clauses.map Clause.entry := by
  obtain ⟨anchor, cl⟩ := p
  cases anchor with
  | none =>
      show [(cl.path.text, cl.condition.toBson)] = [cl.entry]
      rw [Condition.toBson_eq_reading]
      rfl
  | some a =>
      -- on equal paths the clause would replace its anchor
      have hne : a.path.text ≠ cl.path.text := fun he => h a rfl (congrArg Path.mk he)
      show Assoc.set cl.path.text cl.condition.toBson [(a.path.text, a.condition.toBson)]
        = [a.entry, cl.entry]
      rw [Assoc.set_cons, if_neg hne, Assoc.set_nil, Condition.toBson_eq_reading,
        Condition.toBson_eq_reading]
      rfl

end Predicate

/-! ## The meaning of rendered predicates -/

namespace Query

variable {I : String → Bson → Prop}

/-- The document of one predicate holds exactly if its clauses do. -/
theorem holds_toDocument {p : Predicate} (hapart : p.Apart) (hplain : p.PlainPaths) :
    Holds I p.toDocument ↔ ∀ cl ∈ p.clauses, I cl.path.text cl.condition.reading := by
  rw [Predicate.toDocument_eq_entries hapart, holds_iff, List.forall_mem_map]
  refine forall₂_congr fun cl hcl => entryHolds_of_ne (fun he => ?_) _
  have hdollar : cl.path.text.toList.head? = some '$' := by
    rw [show cl.path.text = "$and" from he]
    rfl
  exact hplain cl hcl hdollar

/-- The query of some predicates holds exactly if all their clauses do. The empty list is a case of its own in
    rendering, not in meaning. -/
theorem holds_ofPredicates {ps : List Predicate} (hapart : ∀ p ∈ ps, p.Apart)
    (hplain : ∀ p ∈ ps, p.PlainPaths) :
    Holds I (ofPredicates ps) ↔ ∀ p ∈ ps, ∀ cl ∈ p.clauses, I cl.path.text cl.condition.reading := by
  have hdocuments : (∀ d ∈ ps.map Predicate.toDocument, Holds I d) ↔
      ∀ p ∈ ps, ∀ cl ∈ p.clauses, I cl.path.text cl.condition.reading := by
    rw [List.forall_mem_map]
    exact forall₂_congr fun p hp => holds_toDocument (hapart p hp) (hplain p hp)
  rw [← hdocuments]
  cases ps with
  | nil => simp [ofPredicates, Holds]
  | cons p ps =>
      show Holds I [("$and", allOf _)] ↔ _
      rw [Holds, Holds, and_true, entryHolds_allOf]

end Query

/-! ## Compiled predicates -/

/-- A price stands on another path than its currency. -/
theorem PriceAsks.apart {code : String} {b : Bounds Float} {p : Predicate} (h : PriceAsks code b p) :
    p.Apart := by
  cases h with
  | currency _ => exact Predicate.apart_of_anchor_none rfl
  | number _ =>
      intro a ha
      obtain rfl := Option.some.inj ha
      have hne : "Price.Currency" ≠ "Price.Number" := by decide
      exact fun he => hne (congrArg Path.text he)

namespace Compiler

theorem apart_of_compile {c : Compiler} {x : Criteria} {ps : List Predicate}
    (h : c.compile x = .ok ps) : ∀ p ∈ ps, p.Apart := by
  intro p hp
  obtain ⟨_, rfl⟩ := (compile_eq_ok_iff c x ps).mp h
  rcases mem_emitted.mp hp with ⟨_, code, _, _, rfl⟩ | ⟨path, cond, _, rfl⟩ | ⟨m, _, rfl⟩
  · exact (pricePredicate_asks code x.price).apart
  · exact Predicate.apart_of_anchor_none rfl
  · exact Predicate.apart_of_anchor_none rfl

theorem plainPaths_of_compile {c : Compiler} {x : Criteria} {ps : List Predicate}
    (h : c.compile x = .ok ps) : ∀ p ∈ ps, p.PlainPaths := by
  intro p hp cl hcl
  obtain ⟨_, rfl⟩ := (compile_eq_ok_iff c x ps).mp h
  rcases path_of_emits (emits_of_mem_clauses hp hcl) with hpath | ⟨m, _, hpath⟩
  · have hschema : ∀ k ∈ schemaPaths, k.toList.head? ≠ some '$' := by decide
    exact hschema _ hpath
  · rw [hpath, String.toList_append]
    exact fun hdollar => absurd (Option.some.inj hdollar) (by decide)

end Compiler

/-- **Rendering preserves meaning.** Let no anchor stand on the path of its clause and no path begin with `$`.
    Then under every interpretation of conditions on fields the query of the predicates holds exactly if every
    clause of every predicate is true, also where predicates share a path. Whatever compiling returns meets the
    two conditions. -/
theorem query_holds_iff_clauses :
    (∀ ps : List Predicate, (∀ p ∈ ps, p.Apart) → (∀ p ∈ ps, p.PlainPaths) →
      ∀ I : String → Bson → Prop, Query.Holds I (Query.ofPredicates ps) ↔
        ∀ p ∈ ps, ∀ cl ∈ p.clauses, I cl.path.text cl.condition.reading) ∧
    (∀ (c : Compiler) (x : Criteria) (ps : List Predicate), c.compile x = .ok ps →
      (∀ p ∈ ps, p.Apart) ∧ ∀ p ∈ ps, p.PlainPaths) :=
  ⟨fun _ hapart hplain _ => Query.holds_ofPredicates hapart hplain,
    fun _ _ _ h => ⟨Compiler.apart_of_compile h, Compiler.plainPaths_of_compile h⟩⟩

/-- Two modifiers of one name stay two conditions. -/
theorem holds_same_modifier_twice :
    Query.Holds
      (fun k v => k = "Mods.Life" ∧
        (v = .document [("$gte", .double (.ofFloat 3.0))] ∨
          v = .document [("$lte", .double (.ofFloat 7.0))]))
      (Query.ofPredicates [⟨none, ⟨⟨"Mods.Life"⟩, .atLeast (.ofFloat 3.0)⟩⟩,
        ⟨none, ⟨⟨"Mods.Life"⟩, .atMost (.ofFloat 7.0)⟩⟩]) := by
  have hcompiled : ({} : Compiler).compile
      { modifiers := [{ name := "Life", lower := some 3.0 }, { name := "Life", upper := some 7.0 }] } =
        .ok [⟨none, ⟨⟨"Mods.Life"⟩, .atLeast (.ofFloat 3.0)⟩⟩,
          ⟨none, ⟨⟨"Mods.Life"⟩, .atMost (.ofFloat 7.0)⟩⟩] := by decide +kernel
  obtain ⟨hapart, hplain⟩ := query_holds_iff_clauses.2 {} _ _ hcompiled
  refine (query_holds_iff_clauses.1 _ hapart hplain _).mpr ?_
  simp [Predicate.clauses, Condition.reading, Operand.ofFloat, Operand.toBson]

end ItemQuery
