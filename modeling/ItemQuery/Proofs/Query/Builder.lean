import ItemQuery.Proofs.Query.Meaning
import ItemQuery.Query.Builder

/-!
# `Proofs.Query.Builder` — documents after any steps

A query is built by steps, in any sequence, and a step may come upon a key that has a condition already, from the
document at the start or from a step before. What is there in the end is a matter of the steps alone: the keys of the
start and then those that were new, in the order of the first steps on them, and under each key what the last step on
it put there. `Step.Builds` says this of a start, some steps and a document. It holds where nothing has been done, one
more step keeps it (`builds_run`), and so does a run (`builds_runAll`).

The members of an `$and` are documents that may have been built in this way themselves, and so on. `Built` is any
document that comes about so, and in it no document names a key twice, at whatever depth. Rendered predicates are an
instance: a predicate is a run of its clauses, and a query is one step more.

## Contents
- `Step.Puts`, `Clause.step`: what a step puts under its key, and the step that a clause stands for.
- `Step.LastPuts`, `Step.Builds`: what some steps leave behind.
- `builds_run`, `builds_runAll`: one step, and a run.
- `Bson.Distinct`, `Built`, `Built.distinct`: keys at every depth.
- `built_ofPredicates`: rendered predicates.
- `runAll_keeps_order`: the whole.
-/

namespace ItemQuery

/-- The step for the operator of a clause. -/
def Clause.step (c : Clause) : Query.Step :=
  match c.condition with
  | .equals v => .equals c.path.text v.toBson
  | .contains text => .contains c.path.text text
  | .atLeast v => .atLeast c.path.text v.toBson
  | .atMost v => .atMost c.path.text v.toBson
  | .between lower upper => .between c.path.text lower.toBson upper.toBson
  | .oneOf members => .oneOf c.path.text (members.map .int64)
  | .present => .present c.path.text true

namespace Query

namespace Step

/-! ## What a step puts under its key -/

/-- **A step puts a value under a key**, written out: the bare value for an equality, an array of documents for `$and`,
    else a document of operators. -/
inductive Puts : Step → String → Bson → Prop
  | equals (field : String) (v : Bson) : Puts (.equals field v) field v
  | atLeast (field : String) (v : Bson) : Puts (.atLeast field v) field (.document [("$gte", v)])
  | atMost (field : String) (v : Bson) : Puts (.atMost field v) field (.document [("$lte", v)])
  | between (field : String) (lower upper : Bson) :
      Puts (.between field lower upper) field (.document [("$gte", lower), ("$lte", upper)])
  | oneOf (field : String) (members : List Bson) :
      Puts (.oneOf field members) field (.document [("$in", .array members)])
  | pattern (field regex options : String) :
      Puts (.pattern field regex options) field
        (.document [("$regex", .string regex), ("$options", .string options)])
  | contains (field text : String) :
      Puts (.contains field text) field
        (.document [("$regex", .string (escapePattern text)), ("$options", .string "i")])
  | present (field : String) (b : Bool) : Puts (.present field b) field (.document [("$exists", .bool b)])
  | allOf (conditions : List Document) : Puts (.allOf conditions) "$and" (.array (conditions.map .document))
  | clause (c : Clause) : Puts (.clause c) c.path.text c.condition.reading

variable {start d : Document} {steps : List Step} {s : Step} {k : String} {v : Bson}

theorem puts_iff : s.Puts k v ↔ s.key = k ∧ s.value = v := by
  constructor
  · intro h
    cases h with
    | clause c => exact ⟨rfl, c.condition.toBson_eq_reading⟩
    | _ => exact ⟨rfl, rfl⟩
  · rintro ⟨rfl, rfl⟩
    cases s with
    | clause c =>
        show Puts _ _ c.condition.toBson
        rw [c.condition.toBson_eq_reading]
        exact .clause c
    | _ => constructor

/-- **A clause has the effect of the step for its operator.** -/
theorem run_clause (d : Document) (c : Clause) : run d (.clause c) = run d c.step := by
  obtain ⟨path, condition⟩ := c
  cases condition <;> rfl

/-! ## One step -/

theorem keys_run (d : Document) (s : Step) :
    Assoc.keys (run d s) = if s.key ∈ Assoc.keys d then Assoc.keys d else Assoc.keys d ++ [s.key] :=
  Assoc.keys_set s.key s.value d

theorem lookup_run (d : Document) (s : Step) (k : String) :
    (run d s).lookup k = if k = s.key then some s.value else d.lookup k :=
  Assoc.lookup_set s.key k s.value d

theorem run_ne_nil (d : Document) (s : Step) : run d s ≠ [] := by
  intro h
  have hlookup := lookup_run d s s.key
  rw [h, if_pos rfl] at hlookup
  exact nomatch hlookup

/-! ## Some steps -/

/-- **The last step on a key** puts the value there, whatever other steps put there before. -/
def LastPuts (steps : List Step) (k : String) (v : Bson) : Prop :=
  ∃ done s rest, steps = done ++ s :: rest ∧ s.Puts k v ∧ ∀ t ∈ rest, t.key ≠ k

/-- The keys that steps set and that a document does not have, in the order of first steps. -/
def newKeys (start : Document) (steps : List Step) : List String :=
  ((steps.map key).filter (· ∉ Assoc.keys start)).eraseDups

/-- **Steps build a document from another one**: its keys, then the new ones, with the values that were put there last,
    and those of the start where no step put any. -/
structure Builds (start : Document) (steps : List Step) (d : Document) : Prop where
  keys : Assoc.keys d = Assoc.keys start ++ newKeys start steps
  put : ∀ k v, LastPuts steps k v → d.lookup k = some v
  kept : ∀ k, k ∉ steps.map key → d.lookup k = start.lookup k

theorem lastPuts_concat (h : LastPuts (steps ++ [s]) k v) : s.Puts k v ∨ s.key ≠ k ∧ LastPuts steps k v := by
  obtain ⟨done, t, rest, hsplit, hputs, hlater⟩ := h
  rcases List.eq_nil_or_concat rest with rfl | ⟨rest, last, rfl⟩
  · obtain ⟨_, hlast⟩ := List.append_inj' hsplit rfl
    rw [List.singleton_inj.mp hlast]
    exact .inl hputs
  · have hassoc : done ++ t :: rest.concat last = (done ++ t :: rest) ++ [last] := by simp
    obtain ⟨hsteps, hlast⟩ := List.append_inj' (hsplit.trans hassoc) rfl
    rw [List.singleton_inj.mp hlast]
    refine .inr ⟨hlater last (by simp), done, t, rest, hsteps, hputs, ?_⟩
    intro u hu
    exact hlater u (by simp [hu])

/-- Every key that is set is set for the last time. -/
theorem exists_lastPuts (h : k ∈ steps.map key) : ∃ v, LastPuts steps k v := by
  induction steps with
  | nil => exact absurd h List.not_mem_nil
  | cons s steps ih =>
      by_cases hlater : k ∈ steps.map key
      · obtain ⟨v, done, t, rest, rfl, hlast⟩ := ih hlater
        exact ⟨v, s :: done, t, rest, rfl, hlast⟩
      · have hkey : s.key = k := ((List.mem_cons.mp h).resolve_right hlater).symm
        refine ⟨s.value, [], s, steps, rfl, puts_iff.mpr ⟨hkey, rfl⟩, ?_⟩
        intro t ht heq
        exact hlater (List.mem_map.mpr ⟨t, ht, heq⟩)

theorem newKeys_concat (start : Document) (steps : List Step) (s : Step) :
    newKeys start (steps ++ [s]) =
      if s.key ∈ Assoc.keys start ++ newKeys start steps then newKeys start steps
      else newKeys start steps ++ [s.key] := by
  rw [newKeys, List.map_append, List.filter_append, List.map_singleton]
  by_cases hstart : s.key ∈ Assoc.keys start
  · have hfilter : [s.key].filter (· ∉ Assoc.keys start) = [] := by simp [hstart]
    rw [hfilter, List.append_nil, if_pos (List.mem_append_left _ hstart), newKeys]
  · have hfilter : [s.key].filter (· ∉ Assoc.keys start) = [s.key] := by simp [hstart]
    rw [hfilter, Assoc.eraseDups_append_singleton, ← newKeys]
    simp only [List.mem_append, hstart, false_or]

theorem builds_nil (start : Document) : Builds start [] start := by
  refine ⟨(List.append_nil _).symm, ?_, fun _ _ => rfl⟩
  rintro k v ⟨done, s, rest, hsplit, _⟩
  exact absurd hsplit.symm (by simp)

/-- **One step more.** -/
theorem builds_run (h : Builds start steps d) (s : Step) : Builds start (steps ++ [s]) (run d s) := by
  constructor
  · rw [keys_run, newKeys_concat, h.keys]
    split
    · rfl
    · exact List.append_assoc _ _ _
  · intro k v hlast
    rw [lookup_run]
    rcases lastPuts_concat hlast with hputs | ⟨hne, hbefore⟩
    · obtain ⟨hkey, hvalue⟩ := puts_iff.mp hputs
      rw [if_pos hkey.symm, hvalue]
    · rw [if_neg hne.symm]
      exact h.put k v hbefore
  · intro k hk
    rw [List.map_append, List.map_singleton, List.mem_append, List.mem_singleton, not_or] at hk
    rw [lookup_run, if_neg hk.2]
    exact h.kept k hk.1

/-- **A run.** -/
theorem builds_runAll (start : Document) (steps : List Step) : Builds start steps (runAll start steps) := by
  have hrun : ∀ done d, Builds start done d → Builds start (done ++ steps) (runAll d steps) := by
    induction steps with
    | nil =>
        intro done d h
        rwa [List.append_nil]
    | cons s steps ih =>
        intro done d h
        have hrest := ih (done ++ [s]) (run d s) (builds_run h s)
        rwa [List.append_assoc, List.singleton_append] at hrest
  exact hrun [] start (builds_nil start)

/-- **Keys stay distinct.** -/
theorem nodup_keys_runAll (h : (Assoc.keys start).Nodup) (steps : List Step) :
    (Assoc.keys (runAll start steps)).Nodup := by
  induction steps generalizing start with
  | nil => exact h
  | cons s steps ih => exact ih (Assoc.nodup_keys_set h)

/-- Nothing is there only if nothing was, and nothing was done. -/
theorem runAll_eq_nil_iff : runAll start steps = [] ↔ start = [] ∧ steps = [] := by
  rcases List.eq_nil_or_concat steps with rfl | ⟨before, last, rfl⟩
  · exact (and_iff_left rfl).symm
  · have hlast : runAll start (before.concat last) = run (runAll start before) last := by
      rw [List.concat_eq_append, runAll, List.foldl_append]
      rfl
    rw [hlast]
    constructor
    · exact fun h => absurd h (run_ne_nil _ last)
    · exact fun h => absurd h.2 (by simp)

end Step

end Query

/-! ## Keys at every depth -/

/-- **No document in the value names a key twice.** -/
inductive Bson.Distinct : Bson → Prop
  | null : Distinct .null
  | bool (b : Bool) : Distinct (.bool b)
  | int32 (n : Int32) : Distinct (.int32 n)
  | int64 (n : Int64) : Distinct (.int64 n)
  | double (x : Double) : Distinct (.double x)
  | string (s : String) : Distinct (.string s)
  | objectId (id : ObjectId) : Distinct (.objectId id)
  | date (ms : Int64) : Distinct (.date ms)
  | array {items : List Bson} (h : ∀ v ∈ items, Distinct v) : Distinct (.array items)
  | document {entries : Document} (hkeys : (Assoc.keys entries).Nodup) (h : ∀ e ∈ entries, Distinct e.2) :
      Distinct (.document entries)
  | other (v : OtherValue) : Distinct (.other v)

theorem Bson.distinct_operator (k : String) {v : Bson} (h : v.Distinct) : (document [(k, v)]).Distinct := by
  refine .document (List.nodup_singleton k) ?_
  intro e he
  rw [List.mem_singleton.mp he]
  exact h

theorem Bson.distinct_operators {k k' : String} {v v' : Bson} (hne : k ≠ k') (h : v.Distinct) (h' : v'.Distinct) :
    (document [(k, v), (k', v')]).Distinct := by
  refine .document (List.nodup_cons.mpr ⟨?_, List.nodup_singleton k'⟩) ?_
  · exact fun hmem => hne (List.mem_singleton.mp hmem)
  · intro e he
    rcases List.mem_cons.mp he with rfl | he
    · exact h
    · rw [List.mem_singleton.mp he]
      exact h'

theorem Operand.distinct_toBson (v : Operand) : v.toBson.Distinct := by
  cases v <;> constructor

theorem Condition.distinct_toBson (c : Condition) : c.toBson.Distinct := by
  cases c with
  | equals v => exact v.distinct_toBson
  | contains text => exact Bson.distinct_operators (by decide) (.string _) (.string _)
  | atLeast v => exact Bson.distinct_operator _ v.distinct_toBson
  | atMost v => exact Bson.distinct_operator _ v.distinct_toBson
  | between lower upper => exact Bson.distinct_operators (by decide) lower.distinct_toBson upper.distinct_toBson
  | oneOf members =>
      refine Bson.distinct_operator _ (.array ?_)
      intro v hv
      obtain ⟨n, _, rfl⟩ := List.mem_map.mp hv
      exact .int64 n
  | present => exact Bson.distinct_operator _ (.bool true)

namespace Query

namespace Step

/-- The values that a step is given. -/
def operands : Step → List Bson
  | equals _ v => [v]
  | atLeast _ v => [v]
  | atMost _ v => [v]
  | between _ lower upper => [lower, upper]
  | oneOf _ members => members
  | _ => []

/-- The documents that a step is given. -/
def conditions : Step → List Document
  | allOf conditions => conditions
  | _ => []

variable {start d : Document} {steps : List Step} {s : Step}

/-- What a step puts is no worse than what it is given. -/
theorem distinct_value (hoperands : ∀ v ∈ s.operands, v.Distinct)
    (hconditions : ∀ c ∈ s.conditions, (Bson.document c).Distinct) : s.value.Distinct := by
  cases s with
  | equals field v => exact hoperands v (List.mem_singleton.mpr rfl)
  | atLeast field v => exact Bson.distinct_operator _ (hoperands v (List.mem_singleton.mpr rfl))
  | atMost field v => exact Bson.distinct_operator _ (hoperands v (List.mem_singleton.mpr rfl))
  | between field lower upper =>
      have hupper : upper ∈ [lower, upper] := List.mem_cons_of_mem _ (List.mem_singleton.mpr rfl)
      exact Bson.distinct_operators (by decide) (hoperands lower List.mem_cons_self) (hoperands upper hupper)
  | oneOf field members => exact Bson.distinct_operator _ (.array hoperands)
  | pattern field regex options => exact Bson.distinct_operators (by decide) (.string _) (.string _)
  | contains field text => exact Bson.distinct_operators (by decide) (.string _) (.string _)
  | present field b => exact Bson.distinct_operator _ (.bool b)
  | allOf conditions =>
      refine .array ?_
      intro v hv
      obtain ⟨c, hc, rfl⟩ := List.mem_map.mp hv
      exact hconditions c hc
  | clause c => exact c.condition.distinct_toBson

/-- **One step more.** -/
theorem distinct_run (h : (Bson.document d).Distinct) (hvalue : s.value.Distinct) :
    (Bson.document (run d s)).Distinct := by
  cases h with
  | document hkeys hentries =>
      refine .document (Assoc.nodup_keys_set hkeys) ?_
      intro e he
      rcases Assoc.mem_of_mem_set he with rfl | he
      · exact hvalue
      · exact hentries e he

/-- **A run.** -/
theorem distinct_runAll (h : (Bson.document start).Distinct) (hvalues : ∀ s ∈ steps, s.value.Distinct) :
    (Bson.document (runAll start steps)).Distinct := by
  induction steps generalizing start with
  | nil => exact h
  | cons s steps ih =>
      rw [List.forall_mem_cons] at hvalues
      exact ih (distinct_run h hvalues.1) hvalues.2

end Step

/-- **Documents that are built**: by a run of steps whose conditions are built themselves. -/
inductive Built : Document → Prop
  | run {start : Document} {steps : List Step} (hstart : (Bson.document start).Distinct)
      (hoperands : ∀ s ∈ steps, ∀ v ∈ s.operands, v.Distinct)
      (hconditions : ∀ s ∈ steps, ∀ c ∈ s.conditions, Built c) : Built (Step.runAll start steps)

theorem Built.distinct {d : Document} (h : Built d) : (Bson.document d).Distinct := by
  induction h with
  | run hstart hoperands _ ih =>
      refine Step.distinct_runAll hstart ?_
      intro s hs
      exact Step.distinct_value (hoperands s hs) (ih s hs)

/-! ## Rendered predicates -/

theorem distinct_empty : (Bson.document []).Distinct := .document List.nodup_nil (List.forall_mem_nil _)

/-- A predicate is a run of its clauses. -/
theorem toDocument_eq_runAll (p : Predicate) : p.toDocument = Step.runAll [] (p.clauses.map .clause) := by
  rw [Step.runAll, List.foldl_map]
  rfl

theorem built_toDocument (p : Predicate) : Built p.toDocument := by
  rw [toDocument_eq_runAll]
  refine .run distinct_empty ?_ ?_
  · intro s hs
    obtain ⟨c, _, rfl⟩ := List.mem_map.mp hs
    exact List.forall_mem_nil _
  · intro s hs
    obtain ⟨c, _, rfl⟩ := List.mem_map.mp hs
    exact fun _ h => absurd h List.not_mem_nil

/-- **A query is built**: nothing is done for no predicates, and else one step, on documents that are built. -/
theorem built_ofPredicates (ps : List Predicate) : Built (ofPredicates ps) := by
  cases ps with
  | nil =>
      show Built (Step.runAll [] [])
      exact .run distinct_empty (List.forall_mem_nil _) (List.forall_mem_nil _)
  | cons p ps =>
      show Built (Step.runAll [] [.allOf ((p :: ps).map Predicate.toDocument)])
      refine .run distinct_empty ?_ ?_
      · intro s hs
        rw [List.mem_singleton.mp hs]
        exact List.forall_mem_nil _
      · intro s hs
        rw [List.mem_singleton.mp hs]
        intro c hc
        obtain ⟨q, _, rfl⟩ := List.mem_map.mp hc
        exact built_toDocument q

/-! ## The whole -/

namespace Step

/-- **A run of steps keeps documents in order.** Let the start name no key twice. Then no step on the way makes a
    document that does. The keys are those of the start and then the new ones, in the order of the first steps on them.
    A key that is set has the value of the last step on it and no other, and a key that is not set has what it had. A
    clause has the effect of the step for its operator. Nothing is there only if nothing was, and no step was made. And
    if conditions are built by such runs themselves, to any depth, then no document in the result names a key twice;
    queries of predicates are of this kind. -/
theorem runAll_keeps_order {start : Document} (hstart : (Assoc.keys start).Nodup) (steps : List Step) :
    (∀ done, done <+: steps → (Assoc.keys (runAll start done)).Nodup) ∧
    Assoc.keys (runAll start steps) =
      Assoc.keys start ++ ((steps.map key).filter (· ∉ Assoc.keys start)).eraseDups ∧
    (∀ k ∈ steps.map key, ∃ v, LastPuts steps k v) ∧
    (∀ k v, LastPuts steps k v → ∀ w, (k, w) ∈ runAll start steps ↔ w = v) ∧
    (∀ k, k ∉ steps.map key → ∀ v, (k, v) ∈ runAll start steps ↔ (k, v) ∈ start) ∧
    (∀ d c, run d (.clause c) = run d c.step) ∧
    ((runAll start steps).isEmpty = true ↔ start.isEmpty = true ∧ steps.isEmpty = true) ∧
    (∀ d, Built d → (Bson.document d).Distinct) ∧
    ∀ ps, Built (ofPredicates ps) := by
  have hbuilds : Builds start steps (runAll start steps) := builds_runAll start steps
  have hnodup : (Assoc.keys (runAll start steps)).Nodup := nodup_keys_runAll hstart steps
  refine ⟨fun done _ => nodup_keys_runAll hstart done, hbuilds.keys, fun k => exists_lastPuts, ?_, ?_, run_clause, ?_,
    fun d => Built.distinct, built_ofPredicates⟩
  · intro k v hlast w
    rw [← Assoc.lookup_eq_some_iff hnodup, hbuilds.put k v hlast, Option.some_inj, eq_comm]
  · intro k hk v
    rw [← Assoc.lookup_eq_some_iff hnodup, hbuilds.kept k hk, Assoc.lookup_eq_some_iff hstart]
  · rw [List.isEmpty_iff, List.isEmpty_iff, List.isEmpty_iff]
    exact runAll_eq_nil_iff

/-- A field that is named like the key of `allOf`, and a field of the start, are both set twice. -/
theorem runAll_replaces_and :
    let steps : List Step :=
      [.equals "$and" (.bool true), .atLeast "ilvl" (.int32 10),
        .allOf [runAll [] [.equals "league" (.string "Standard")]], .clause ⟨⟨"ilvl"⟩, .present⟩]
    let d := runAll [("ilvl", .int32 1)] steps
    (Assoc.keys [("ilvl", Bson.int32 1)]).Nodup ∧ Assoc.keys d = ["ilvl", "$and"] ∧
      (∀ w, ("$and", w) ∈ d ↔ w = .array [.document [("league", .string "Standard")]]) ∧
      ∀ w, ("ilvl", w) ∈ d ↔ w = .document [("$exists", .bool true)] := by
  intro steps d
  have hstart : (Assoc.keys [("ilvl", Bson.int32 1)]).Nodup := List.nodup_singleton _
  obtain ⟨_, hkeys, _, hput, _⟩ := runAll_keeps_order hstart steps
  have hand : LastPuts steps "$and" (.array [.document [("league", .string "Standard")]]) := by
    refine ⟨steps.take 2, _, [.clause ⟨⟨"ilvl"⟩, .present⟩], rfl, .allOf [[("league", .string "Standard")]], ?_⟩
    intro t ht
    rw [List.mem_singleton.mp ht]
    decide
  have hlevel : LastPuts steps "ilvl" (.document [("$exists", .bool true)]) :=
    ⟨steps.take 3, _, [], rfl, .clause ⟨⟨"ilvl"⟩, .present⟩, List.forall_mem_nil _⟩
  refine ⟨hstart, ?_, hput _ _ hand, hput _ _ hlevel⟩
  rw [hkeys]
  decide

end Step

end Query

end ItemQuery
