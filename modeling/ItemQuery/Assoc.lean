/-!
# `Assoc` — ordered association lists

Tables and documents are lists of pairs in which every key stands once, in the order in which the keys were
first set. Setting a key again replaces its value and leaves its place.

## Contents
- `Assoc.set`, `Assoc.exchange`, `Assoc.setAll`, `Assoc.keys`; looking up is `List.lookup`.
- `Assoc.field?`: the value of a key, read, or else a default.
- `lookup_eq_some_iff`: look-up among distinct keys; `lookup_filter_key`: among some of the keys.
- `lookup_set`, `keys_set`, `mem_of_mem_set`: what setting does to values, keys and entries.
- `exchange_eq`: an exchange tells the value before, and sets the new one.
- `eraseDups_append_singleton`: keys in the order in which they are first met.
- `nodup_keys_set`, `nodup_keys_exchange`, `nodup_keys_setAll`: keys stay distinct.
- `set_eq_map`: setting a key that is there changes its entry only.
- `setAll_of_nodup`: distinct new keys are set at the end, in order.
-/

namespace ItemQuery.Assoc

variable {β : Type}

/-- The keys in order. -/
def keys (l : List (String × β)) : List String := l.map Prod.fst

/-- Give a key a value: in its place if it has one, else at the end. -/
def set (k : String) (v : β) : List (String × β) → List (String × β)
  | [] => [(k, v)]
  | (k', v') :: l => if k' = k then (k, v) :: l else (k', v') :: set k v l

/-- Give a key a value, and tell the one that it had. -/
def exchange (k : String) (v : β) : List (String × β) → Option β × List (String × β)
  | [] => (none, [(k, v)])
  | (k', v') :: l =>
    if k' = k then (some v', (k, v) :: l)
    else
      let (old, l) := exchange k v l
      (old, (k', v') :: l)

/-- Set pairs one after the other, so that later ones win. -/
def setAll (l : List (String × β)) (pairs : List (String × β)) : List (String × β) :=
  pairs.foldl (fun acc p => set p.1 p.2 acc) l

/-- What is read under a key, or what is `absent` if the key is not there. -/
def field? {α : Type} (l : List (String × β)) (k : String) (d : β → Option α) (absent : α) : Option α :=
  match l.lookup k with
  | some v => d v
  | none => some absent

/-! ## Values -/

theorem set_nil (k : String) (v : β) : set k v [] = [(k, v)] := rfl

theorem set_cons (k a : String) (v b : β) (l : List (String × β)) :
    set k v ((a, b) :: l) = if a = k then (k, v) :: l else (a, b) :: set k v l := rfl

theorem lookup_cons (k a : String) (b : β) (l : List (String × β)) :
    ((a, b) :: l).lookup k = if k = a then some b else l.lookup k := by
  rw [List.lookup_cons]
  by_cases h : k = a
  · rw [if_pos h, beq_iff_eq.mpr h]
  · rw [if_neg h, beq_eq_false_iff_ne.mpr h]

/-- Among distinct keys, what stands under a key is found. -/
theorem lookup_eq_some_iff {l : List (String × β)} (h : (keys l).Nodup) (k : String) (v : β) :
    l.lookup k = some v ↔ (k, v) ∈ l := by
  induction l with
  | nil =>
      constructor
      · exact fun hnil => nomatch hnil
      · exact fun hmem => absurd hmem List.not_mem_nil
  | cons p l ih =>
      obtain ⟨a, b⟩ := p
      obtain ⟨ha, hl⟩ := List.nodup_cons.mp h
      rw [lookup_cons, List.mem_cons]
      by_cases hk : k = a
      · subst hk
        rw [if_pos rfl]
        constructor
        · exact fun hb => .inl (by rw [Option.some.inj hb])
        · rintro (heq | hmem)
          · rw [(Prod.mk.inj heq).2]
          · exact absurd (List.mem_map.mpr ⟨(k, v), hmem, rfl⟩) ha
      · rw [if_neg hk, ih hl]
        exact ⟨.inr, fun hmem => hmem.resolve_left fun heq => hk (Prod.mk.inj heq).1⟩

/-- Among the entries whose keys satisfy `p`, a key that does is found as before. -/
theorem lookup_filter_key {p : String → Bool} {k : String} (hk : p k = true) (l : List (String × β)) :
    (l.filter fun e => p e.1).lookup k = l.lookup k := by
  induction l with
  | nil => rfl
  | cons e l ih =>
      obtain ⟨a, b⟩ := e
      rw [lookup_cons, ← ih]
      by_cases ha : p a = true
      · rw [List.filter_cons_of_pos (p := fun e : String × β => p e.1) ha, lookup_cons]
      · have hne : k ≠ a := fun heq => ha (heq ▸ hk)
        rw [List.filter_cons_of_neg (p := fun e : String × β => p e.1) ha, if_neg hne]

theorem field?_congr {α : Type} {l l' : List (String × β)} {k : String} (h : l.lookup k = l'.lookup k)
    (d : β → Option α) (absent : α) : field? l k d absent = field? l' k d absent := by
  unfold field?
  rw [h]

theorem lookup_set (k k' : String) (v : β) (l : List (String × β)) :
    (set k v l).lookup k' = if k' = k then some v else l.lookup k' := by
  induction l with
  | nil => rw [set_nil, lookup_cons]
  | cons p l ih =>
      obtain ⟨a, b⟩ := p
      rw [set_cons, lookup_cons]
      by_cases ha : a = k
      · rw [if_pos ha, lookup_cons, ha]
        split <;> rfl
      · rw [if_neg ha, lookup_cons, ih]
        by_cases hk : k' = a
        · rw [if_pos hk, if_pos hk, if_neg (fun h => ha (hk ▸ h))]
        · rw [if_neg hk, if_neg hk]

/-- What stands in a list after setting is what was set, or stood there before. -/
theorem mem_of_mem_set {k : String} {v : β} {e : String × β} {l : List (String × β)} (h : e ∈ set k v l) :
    e = (k, v) ∨ e ∈ l := by
  induction l with
  | nil => exact .inl (List.mem_singleton.mp h)
  | cons p l ih =>
      obtain ⟨a, b⟩ := p
      rw [set_cons] at h
      split at h
      · exact (List.mem_cons.mp h).imp_right (List.mem_cons_of_mem _)
      · rcases List.mem_cons.mp h with rfl | h
        · exact .inr List.mem_cons_self
        · exact (ih h).imp_right (List.mem_cons_of_mem _)

theorem exchange_eq (k : String) (v : β) (l : List (String × β)) :
    exchange k v l = (l.lookup k, set k v l) := by
  induction l with
  | nil => rfl
  | cons p l ih =>
      obtain ⟨a, b⟩ := p
      rw [exchange, ih, set_cons, lookup_cons]
      by_cases ha : a = k
      · rw [if_pos ha, if_pos ha, if_pos ha.symm]
      · rw [if_neg ha, if_neg ha, if_neg (Ne.symm ha)]

/-! ## Keys -/

theorem keys_cons (p : String × β) (l : List (String × β)) : keys (p :: l) = p.1 :: keys l := rfl

theorem keys_set (k : String) (v : β) (l : List (String × β)) :
    keys (set k v l) = if k ∈ keys l then keys l else keys l ++ [k] := by
  induction l with
  | nil => rfl
  | cons p l ih =>
      obtain ⟨a, b⟩ := p
      rw [set_cons, keys_cons]
      by_cases ha : a = k
      · rw [if_pos ha, keys_cons, if_pos (List.mem_cons.mpr (.inl ha.symm)), ha]
      · rw [if_neg ha, keys_cons, ih]
        by_cases hk : k ∈ keys l
        · rw [if_pos hk, if_pos (List.mem_cons.mpr (.inr hk))]
        · rw [if_neg hk, if_neg, List.cons_append]
          rw [List.mem_cons]
          exact fun h => h.elim (fun h => ha h.symm) hk

/-- A key that is met again does not count again. -/
theorem eraseDups_append_singleton (names : List String) (name : String) :
    (names ++ [name]).eraseDups = if name ∈ names.eraseDups then names.eraseDups else names.eraseDups ++ [name] := by
  rw [List.eraseDups_append]
  by_cases h : name ∈ names
  · rw [if_pos (List.mem_eraseDups.mpr h)]
    simp [List.removeAll, h]
  · have hnew : [name].removeAll names = [name] := by simp [List.removeAll, h]
    rw [if_neg (fun hmem => h (List.mem_eraseDups.mp hmem)), hnew]
    rfl

theorem nodup_keys_set {k : String} {v : β} {l : List (String × β)} (h : (keys l).Nodup) :
    (keys (set k v l)).Nodup := by
  rw [keys_set]
  split
  · exact h
  · rename_i hk
    rw [List.nodup_append]
    refine ⟨h, by simp, ?_⟩
    intro a ha b hb
    rw [List.mem_singleton] at hb
    subst hb
    exact fun hab => hk (hab ▸ ha)

theorem nodup_keys_exchange {k : String} {v : β} {l : List (String × β)} (h : (keys l).Nodup) :
    (keys (exchange k v l).2).Nodup := by
  rw [exchange_eq]
  exact nodup_keys_set h

theorem nodup_keys_setAll {l : List (String × β)} (h : (keys l).Nodup) (pairs : List (String × β)) :
    (keys (setAll l pairs)).Nodup := by
  induction pairs generalizing l with
  | nil => exact h
  | cons p ps ih => exact ih (nodup_keys_set h)

/-- Among distinct keys, setting one that is there is a change of its entry. -/
theorem set_eq_map {k : String} {l : List (String × β)} (h : (keys l).Nodup) (hk : k ∈ keys l) (v : β) :
    set k v l = l.map fun e => if e.1 = k then (k, v) else e := by
  induction l with
  | nil => exact absurd hk List.not_mem_nil
  | cons p l ih =>
      obtain ⟨a, b⟩ := p
      obtain ⟨ha, hl⟩ := List.nodup_cons.mp h
      rw [set_cons, List.map_cons]
      by_cases hak : a = k
      · subst hak
        have hrest : (l.map fun e => if e.1 = a then (a, v) else e) = l := by
          refine Eq.trans (List.map_congr_left ?_) (List.map_id l)
          intro e he
          exact if_neg fun hea => ha (List.mem_map.mpr ⟨e, he, hea⟩)
        rw [if_pos rfl, if_pos rfl, hrest]
      · rw [if_neg hak, if_neg hak, ih hl ((List.mem_cons.mp hk).resolve_left (Ne.symm hak))]

theorem set_of_not_mem {k : String} (v : β) {l : List (String × β)} (h : k ∉ keys l) : set k v l = l ++ [(k, v)] := by
  induction l with
  | nil => rfl
  | cons p l ih =>
      obtain ⟨a, b⟩ := p
      rw [keys_cons, List.mem_cons, not_or] at h
      rw [set_cons, if_neg (Ne.symm h.1), ih h.2, List.cons_append]

/-- Pairs with keys that are new and distinct are set at the end, in order. -/
theorem setAll_of_nodup {l pairs : List (String × β)} (h : (keys (l ++ pairs)).Nodup) :
    setAll l pairs = l ++ pairs := by
  induction pairs generalizing l with
  | nil => exact (List.append_nil l).symm
  | cons p pairs ih =>
      have hsplit : l ++ p :: pairs = l ++ [p] ++ pairs := by rw [List.append_assoc, List.singleton_append]
      rw [hsplit] at h
      have hnew : p.1 ∉ keys l := by
        have hkeys : (keys l ++ [p.1] ++ keys pairs).Nodup := by simpa [keys] using h
        have hdisjoint := List.nodup_append.mp (List.nodup_append.mp hkeys).1
        exact fun hmem => hdisjoint.2.2 p.1 hmem p.1 (List.mem_singleton.mpr rfl) rfl
      rw [hsplit, ← ih h, ← set_of_not_mem p.2 hnew]
      rfl

end ItemQuery.Assoc
