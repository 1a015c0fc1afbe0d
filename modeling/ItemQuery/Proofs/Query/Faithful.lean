import ItemQuery.Proofs.Query.Meaning

/-!
# `Proofs.Query.Faithful` — a query shows from which predicates it comes

Rendering loses nothing: from the document of a query the list of predicates can be found again. It goes through
three layers, and each is one-to-one. An operand keeps its kind, since integers, doubles, strings and booleans are
four kinds of values of the store. A condition is a bare operand or a document whose keys tell its kind; a substring
is escaped character by character, and an escape begins with a backslash that never stands alone. A predicate is a
document with one entry or, with an anchor, two, which is where the anchor has to stand on another path.

Two predicates on one path do not meet in this, as every predicate has a document of its own.

## Contents
- `escapePattern_injective`: different texts have different patterns.
- `Operand.toBson_injective`, `Condition.reading_injective`: operands and conditions.
- `Predicate.eq_of_toDocument`: predicates.
- `ofPredicates_faithful`: lists of predicates, and what follows for compiled ones.
-/

namespace ItemQuery

/-! ## Patterns -/

/-- Two characters whose escapes begin two equal texts are equal, and so is what follows. -/
theorem escapePatternChar_append_inj {c d : Char} {s t : List Char}
    (h : escapePatternChar c ++ s = escapePatternChar d ++ t) : c = d ∧ s = t := by
  have hbackslash : patternChars.contains '\\' = true := by decide
  unfold escapePatternChar at h
  by_cases hc : patternChars.contains c = true
  · by_cases hd : patternChars.contains d = true
    · rw [if_pos hc, if_pos hd] at h
      injection h with _ h
      injection h with hcd hst
      exact ⟨hcd, hst⟩
    · -- the backslash before `c` would be the character `d`, which is not escaped
      rw [if_pos hc, if_neg hd] at h
      injection h with hd' _
      exact absurd (hd' ▸ hbackslash) hd
  · by_cases hd : patternChars.contains d = true
    · rw [if_neg hc, if_pos hd] at h
      injection h with hc' _
      exact absurd (hc' ▸ hbackslash) hc
    · rw [if_neg hc, if_neg hd] at h
      injection h with hcd hst
      exact ⟨hcd, hst⟩

theorem escapePatternChar_ne_nil (c : Char) : escapePatternChar c ≠ [] := by
  unfold escapePatternChar
  split <;> exact List.cons_ne_nil _ _

theorem flatMap_escapePatternChar_injective :
    Function.Injective fun s : List Char => s.flatMap escapePatternChar := by
  intro s t h
  induction s generalizing t with
  | nil =>
      cases t with
      | nil => rfl
      | cons d t =>
          have hnil : escapePatternChar d ++ t.flatMap escapePatternChar = [] := h.symm
          exact absurd (List.append_eq_nil_iff.mp hnil).1 (escapePatternChar_ne_nil d)
  | cons c s ih =>
      cases t with
      | nil =>
          have hnil : escapePatternChar c ++ s.flatMap escapePatternChar = [] := h
          exact absurd (List.append_eq_nil_iff.mp hnil).1 (escapePatternChar_ne_nil c)
      | cons d t =>
          obtain ⟨rfl, hst⟩ := escapePatternChar_append_inj h
          rw [ih hst]

/-- **Different texts have different patterns**, also where they differ in characters that mean something there. -/
theorem escapePattern_injective : Function.Injective escapePattern := by
  intro s t h
  have hchars : s.toList.flatMap escapePatternChar = t.toList.flatMap escapePatternChar :=
    String.ofList_injective h
  exact String.toList_injective (flatMap_escapePatternChar_injective hchars)

/-! ## Operands and conditions -/

theorem Operand.toBson_injective : Function.Injective Operand.toBson := by
  intro v w h
  cases v <;> cases w <;> cases h <;> rfl

/-- An operand is no document, so that an equality is told from every other condition. -/
theorem Operand.toBson_ne_document (v : Operand) (entries : List (String × Bson)) :
    v.toBson ≠ .document entries := by
  intro h
  cases v <;> exact nomatch h

/-- **A condition is known by what stands behind its field.** -/
theorem Condition.reading_injective : Function.Injective Condition.reading := by
  intro a b h
  -- an equality is told by its kind of value, other conditions by the keys of their documents
  cases a with
  | equals v =>
      cases b with
      | equals w => rw [Operand.toBson_injective h]
      | _ => exact absurd h (v.toBson_ne_document _)
  | contains s =>
      cases b with
      | equals w => exact absurd h.symm (w.toBson_ne_document _)
      | contains t =>
          simp only [reading, Bson.document.injEq, List.cons.injEq, Prod.mk.injEq, Bson.string.injEq,
            true_and, and_true] at h
          rw [escapePattern_injective h]
      | _ => simp [reading] at h
  | atLeast v =>
      cases b with
      | equals w => exact absurd h.symm (w.toBson_ne_document _)
      | atLeast w =>
          simp only [reading, Bson.document.injEq, List.cons.injEq, Prod.mk.injEq, true_and, and_true] at h
          rw [Operand.toBson_injective h]
      | _ => simp [reading] at h
  | atMost v =>
      cases b with
      | equals w => exact absurd h.symm (w.toBson_ne_document _)
      | atMost w =>
          simp only [reading, Bson.document.injEq, List.cons.injEq, Prod.mk.injEq, true_and, and_true] at h
          rw [Operand.toBson_injective h]
      | _ => simp [reading] at h
  | between lo hi =>
      cases b with
      | equals w => exact absurd h.symm (w.toBson_ne_document _)
      | between lo' hi' =>
          simp only [reading, Bson.document.injEq, List.cons.injEq, Prod.mk.injEq, true_and, and_true] at h
          rw [Operand.toBson_injective h.1, Operand.toBson_injective h.2]
      | _ => simp [reading] at h
  | oneOf ns =>
      cases b with
      | equals w => exact absurd h.symm (w.toBson_ne_document _)
      | oneOf ms =>
          have hint : Function.Injective Bson.int64 := fun _ _ => Bson.int64.inj
          simp only [reading, Bson.document.injEq, List.cons.injEq, Prod.mk.injEq, Bson.array.injEq,
            true_and, and_true] at h
          rw [List.map_injective_iff.mpr hint h]
      | _ => simp [reading] at h
  | present =>
      cases b with
      | equals w => exact absurd h.symm (w.toBson_ne_document _)
      | present => rfl
      | _ => simp [reading] at h

/-! ## Predicates -/

theorem Clause.entry_injective : Function.Injective Clause.entry := by
  rintro ⟨⟨path⟩, condition⟩ ⟨⟨path'⟩, condition'⟩ h
  obtain ⟨hpath, hreading⟩ := Prod.mk.inj h
  obtain rfl : path = path' := hpath
  obtain rfl : condition = condition' := Condition.reading_injective hreading
  rfl

/-- A predicate is known by its clauses: with one there is no anchor, of two the first is the anchor. -/
theorem Predicate.clauses_injective : Function.Injective Predicate.clauses := by
  rintro ⟨_ | a, cl⟩ ⟨_ | a', cl'⟩ h
  · injection h with hcl _
    rw [show cl = cl' from hcl]
  · injection h with _ h
    exact nomatch h
  · injection h with _ h
    exact nomatch h
  · injection h with ha h
    injection h with hcl _
    rw [show a = a' from ha, show cl = cl' from hcl]

/-- **A predicate is known by its document**, if its anchor stands on another path than its clause. -/
theorem Predicate.eq_of_toDocument {p q : Predicate} (hp : p.Apart) (hq : q.Apart)
    (h : p.toDocument = q.toDocument) : p = q := by
  rw [toDocument_eq_entries hp, toDocument_eq_entries hq] at h
  exact clauses_injective (List.map_injective_iff.mpr Clause.entry_injective h)

namespace Query

/-- The documents of a query are those of its predicates, in order; without predicates there is no `$and`. -/
theorem toDocument_eq_of_ofPredicates {ps qs : List Predicate} (h : ofPredicates ps = ofPredicates qs) :
    ps.map Predicate.toDocument = qs.map Predicate.toDocument := by
  cases ps with
  | nil =>
      cases qs with
      | nil => rfl
      | cons q qs => exact nomatch h
  | cons p ps =>
      cases qs with
      | nil => exact nomatch h
      | cons q qs =>
          have hdocument : Function.Injective Bson.document := fun _ _ => Bson.document.inj
          have hentry := (List.cons.inj h).1
          have hall := Bson.array.inj (Prod.mk.inj hentry).2
          exact List.map_injective_iff.mpr hdocument hall

theorem eq_of_ofPredicates {ps qs : List Predicate} (hps : ∀ p ∈ ps, p.Apart) (hqs : ∀ q ∈ qs, q.Apart)
    (h : ofPredicates ps = ofPredicates qs) : ps = qs := by
  have hdocuments := toDocument_eq_of_ofPredicates h
  -- by induction on both lists, document by document
  clear h
  induction ps generalizing qs with
  | nil => exact (List.map_eq_nil_iff.mp hdocuments.symm).symm
  | cons p ps ih =>
      cases qs with
      | nil => exact nomatch hdocuments
      | cons q qs =>
          obtain ⟨hp, hps⟩ := List.forall_mem_cons.mp hps
          obtain ⟨hq, hqs⟩ := List.forall_mem_cons.mp hqs
          obtain ⟨hfirst, hrest⟩ := List.cons.inj hdocuments
          rw [Predicate.eq_of_toDocument hp hq hfirst, ih hps hqs hrest]

end Query

/-- **The query shows its predicates.** Two lists of predicates in which no anchor stands on the path of its clause
    have the same query, key for key in order, only if they are the same list. Whatever compiling returns is such a
    list, so that two compiled lists that differ, of whatever compilers and criteria, never have the same query. -/
theorem ofPredicates_faithful :
    (∀ ps qs : List Predicate, (∀ p ∈ ps, p.Apart) → (∀ q ∈ qs, q.Apart) →
      Query.ofPredicates ps = Query.ofPredicates qs → ps = qs) ∧
    (∀ (c : Compiler) (x : Criteria) (ps : List Predicate), c.compile x = .ok ps → ∀ p ∈ ps, p.Apart) ∧
    ∀ (c d : Compiler) (x y : Criteria) (ps qs : List Predicate), c.compile x = .ok ps →
      d.compile y = .ok qs → ps ≠ qs → Query.ofPredicates ps ≠ Query.ofPredicates qs := by
  refine ⟨fun _ _ => Query.eq_of_ofPredicates, fun _ _ _ => Compiler.apart_of_compile, ?_⟩
  intro c d x y ps qs hps hqs hne heq
  have hapart := Compiler.apart_of_compile hps
  exact hne (Query.eq_of_ofPredicates hapart (Compiler.apart_of_compile hqs) heq)

/-- The names `a.b` and `a\.b` have different queries, though one is the pattern of the other. -/
theorem query_ne_of_escaped_dot :
    ∃ ps qs, ({} : Compiler).compile { name := some "a.b" } = .ok ps ∧
      ({} : Compiler).compile { name := some "a\\.b" } = .ok qs ∧
      Query.ofPredicates ps ≠ Query.ofPredicates qs := by
  have hplain : ({} : Compiler).compile { name := some "a.b" } = .ok [.on "name" (.contains "a.b")] := by
    rfl
  have hescaped : ({} : Compiler).compile { name := some "a\\.b" } =
      .ok [.on "name" (.contains "a\\.b")] := by
    rfl
  refine ⟨_, _, hplain, hescaped, ?_⟩
  exact ofPredicates_faithful.2.2 _ _ _ _ _ _ hplain hescaped (by decide)

end ItemQuery
