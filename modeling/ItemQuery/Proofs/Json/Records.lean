import ItemQuery.Assoc
import ItemQuery.Proofs.Json.Grammar
import ItemQuery.Proofs.Json.Values
import Mathlib.Data.List.Nodup
import Mathlib.Data.List.Pairwise

/-!
# `Proofs.Json.Records` — records are read by their grammars

The reader of a record walks the members in order, keeps the names that it has seen, and stops at the first
problem. What is read by it in the end is what a `Grammar` says, which knows of no order.

The link between the two is a list of `Component`s. A component is a field of the rule together with the part of
the record that its value becomes. If a rule and a grammar both come from one list of components, and no name
belongs to two of them, the reader of the rule reads exactly the grammar (`Grammar.Describes.decodes`). This is
proved once for all records; what is left for each is its list.

## Contents
- `members_eq_ok_iff`, `items_eq_ok_iff`: what is read from objects and arrays.
- `Component`, `Grammar.Matches`: a rule and a grammar that come from one list. `Grammar.Describes`: also a decoder.
- `Grammar.Describes.decodes`: a record is read exactly by its grammar.
- `Grammar.Describes.accepts_iff`: what the grammar accepts is read.
- `Grammar.Describes.read_perm`: the order of the members does not matter.
-/

namespace ItemQuery.Json

variable {ρ : Type}

/-! ## Members of an object -/

namespace RecordRule

/-- A member that the rule has no problem with, wherever it stands. -/
def Fine (r : RecordRule) : Member → Prop
  | (none, _) => False
  | (some k, v) => match r.find k with
    | none => r.admit k v = .ok ()
    | some f => f.check v = .ok ()

/-- What a member gives, under the name of its field. -/
def entry (r : RecordRule) (m : Member) : Option (String × Node) :=
  (m.1.bind r.find).map fun f => (f.name, m.2)

section Step

variable {r : RecordRule} {k : String} {f : FieldRule} {v : Node} {ms : List Member} {seen : List String}
  {closed : Bool} {es : Entries}

theorem fine_unknown_iff (h : r.find k = none) : r.Fine (some k, v) ↔ r.admit k v = .ok () := by
  rw [Fine, h]

theorem fine_known_iff (h : r.find k = some f) : r.Fine (some k, v) ↔ f.check v = .ok () := by
  rw [Fine, h]

theorem entry_unknown (h : r.find k = none) : r.entry (some k, v) = none := by
  rw [entry, Option.bind_some, h, Option.map_none]

theorem entry_known (h : r.find k = some f) : r.entry (some k, v) = some (f.name, v) := by
  rw [entry, Option.bind_some, h, Option.map_some]

/-- Where members or items end, the bracket has to follow. -/
theorem end_eq_ok_iff :
    (if closed = true then .ok [] else .error .notJson : Except ReadError Entries) = .ok es ↔
      closed = true ∧ es = [] := by
  cases closed with
  | false =>
      constructor
      · exact fun h => nomatch h
      · exact fun h => nomatch h.1
  | true => exact ⟨fun h => ⟨rfl, (Except.ok.inj h).symm⟩, fun h => congrArg Except.ok h.2.symm⟩

theorem members_unknown_iff (h : r.find k = none) :
    r.members closed seen ((some k, v) :: ms) = .ok es ↔
      r.admit k v = .ok () ∧ r.members closed seen ms = .ok es := by
  rw [members, h]
  refine bind_eq_ok_iff.trans ⟨?_, ?_⟩
  · rintro ⟨_, hstays, hes⟩
    exact ⟨hstays, hes⟩
  · rintro ⟨hstays, hes⟩
    exact ⟨(), hstays, hes⟩

theorem members_known_iff (h : r.find k = some f) :
    r.members closed seen ((some k, v) :: ms) = .ok es ↔
      f.name ∉ seen ∧ f.check v = .ok () ∧
        ∃ es', r.members closed (f.name :: seen) ms = .ok es' ∧ es = (f.name, v) :: es' := by
  rw [members, h]
  by_cases hseen : f.name ∈ seen
  · have hcontains : seen.contains f.name = true := List.contains_iff_mem.mpr hseen
    simp only [if_pos hcontains]
    constructor
    · exact fun hes => nomatch hes
    · exact fun hes => absurd hseen hes.1
  · have hcontains : ¬ seen.contains f.name = true := fun hmem => hseen (List.contains_iff_mem.mp hmem)
    simp only [if_neg hcontains]
    constructor
    · intro hes
      obtain ⟨_, hcheck, hes⟩ := bind_eq_ok_iff.mp hes
      obtain ⟨es', hes', heq⟩ := bind_eq_ok_iff.mp hes
      exact ⟨hseen, hcheck, es', hes', (Except.ok.inj heq).symm⟩
    · rintro ⟨_, hcheck, es', hes', rfl⟩
      exact bind_eq_ok_iff.mpr ⟨(), hcheck, bind_eq_ok_iff.mpr ⟨es', hes', rfl⟩⟩

end Step

/-- **An object is read exactly if all its members are fine and no field is given twice.** What is read are the
    members that name a field. -/
theorem members_eq_ok_iff (r : RecordRule) (closed : Bool) (seen : List String) (ms : List Member)
    (es : Entries) :
    r.members closed seen ms = .ok es ↔
      closed = true ∧ (∀ m ∈ ms, r.Fine m) ∧ es = ms.filterMap r.entry ∧
        (Assoc.keys es).Nodup ∧ ∀ k ∈ Assoc.keys es, k ∉ seen := by
  -- by induction on the members, for all names that were seen before
  induction ms generalizing seen es with
  | nil =>
      rw [members, end_eq_ok_iff]
      constructor
      · rintro ⟨hclosed, rfl⟩
        exact ⟨hclosed, nofun, rfl, .nil, nofun⟩
      · rintro ⟨hclosed, _, hes, _⟩
        exact ⟨hclosed, hes⟩
  | cons m ms ih =>
      obtain ⟨key, v⟩ := m
      rw [List.forall_mem_cons]
      cases key with
      | none =>
          constructor
          · exact fun h => nomatch h
          · exact fun h => h.2.1.1.elim
      | some k =>
          cases hfind : r.find k with
          | none =>
              rw [members_unknown_iff hfind, ih, fine_unknown_iff hfind,
                List.filterMap_cons_none (entry_unknown hfind)]
              constructor
              · rintro ⟨hstays, hclosed, hfine, hrest⟩
                exact ⟨hclosed, ⟨hstays, hfine⟩, hrest⟩
              · rintro ⟨hclosed, ⟨hstays, hfine⟩, hrest⟩
                exact ⟨hstays, hclosed, hfine, hrest⟩
          | some f =>
              rw [members_known_iff hfind, fine_known_iff hfind,
                List.filterMap_cons_some (entry_known hfind)]
              constructor
              · rintro ⟨hseen, hcheck, es', hes', rfl⟩
                obtain ⟨hclosed, hfine, rfl, hnodup, hunseen⟩ := (ih _ es').mp hes'
                rw [Assoc.keys_cons, List.nodup_cons, List.forall_mem_cons]
                -- the names that come later are neither among those seen before nor this one
                have hfirst : f.name ∉ Assoc.keys (ms.filterMap r.entry) :=
                  fun hmem => hunseen _ hmem List.mem_cons_self
                refine ⟨hclosed, ⟨hcheck, hfine⟩, rfl, ⟨hfirst, hnodup⟩, hseen, fun k hk hold => ?_⟩
                exact hunseen k hk (List.mem_cons_of_mem _ hold)
              · rintro ⟨hclosed, ⟨hcheck, hfine⟩, rfl, hnodup, hunseen⟩
                rw [Assoc.keys_cons, List.nodup_cons] at hnodup
                rw [Assoc.keys_cons, List.forall_mem_cons] at hunseen
                have hlater : ∀ k ∈ Assoc.keys (ms.filterMap r.entry), k ∉ f.name :: seen := by
                  intro k hk hold
                  rcases List.mem_cons.mp hold with rfl | hold
                  · exact hnodup.1 hk
                  · exact hunseen.2 k hk hold
                exact ⟨hunseen.1, hcheck, _, (ih _ _).mpr ⟨hclosed, hfine, rfl, hnodup.2, hlater⟩, rfl⟩

/-! ## Items of an array -/

theorem items_cons_iff {r : RecordRule} {closed : Bool} {given : Nat} {f : FieldRule} {fs : List FieldRule}
    {v : Node} {vs : List Node} {es : Entries} :
    r.items closed given (f :: fs) (v :: vs) = .ok es ↔
      f.check v = .ok () ∧ ∃ es', r.items closed (given + 1) fs vs = .ok es' ∧ es = (f.name, v) :: es' := by
  rw [RecordRule.items]
  constructor
  · intro hes
    obtain ⟨_, hcheck, hes⟩ := bind_eq_ok_iff.mp hes
    obtain ⟨es', hes', heq⟩ := bind_eq_ok_iff.mp hes
    exact ⟨hcheck, es', hes', (Except.ok.inj heq).symm⟩
  · rintro ⟨hcheck, es', hes', rfl⟩
    exact bind_eq_ok_iff.mpr ⟨(), hcheck, bind_eq_ok_iff.mpr ⟨es', hes', rfl⟩⟩

/-- Without items left an array is read if the rule does not want all fields, or has none left either. -/
theorem items_nil_iff {r : RecordRule} {closed : Bool} {given : Nat} {fs : List FieldRule} {es : Entries} :
    r.items closed given fs [] = .ok es ↔ (closed = true ∧ es = []) ∧ (r.complete = true → fs = []) := by
  cases fs with
  | nil =>
      rw [RecordRule.items, end_eq_ok_iff]
      exact ⟨fun h => ⟨h, fun _ => rfl⟩, And.left⟩
  | cons f fs =>
      rw [RecordRule.items]
      cases hcomplete : r.complete with
      | false =>
          rw [← end_eq_ok_iff]
          cases closed <;> exact ⟨fun h => ⟨h, nofun⟩, And.left⟩
      | true =>
          constructor
          · intro h
            cases closed <;> exact nomatch h
          · exact fun h => nomatch h.2 rfl

/-- **An array is read exactly if its items are in order one by one**, and as many as the rule allows. -/
theorem items_eq_ok_iff (r : RecordRule) (closed : Bool) (given : Nat) (fs : List FieldRule)
    (items : List Node) (es : Entries) :
    r.items closed given fs items = .ok es ↔
      closed = true ∧ (items.length ≤ fs.length ∧ (r.complete = true → items.length = fs.length)) ∧
        (∀ p ∈ fs.zip items, p.1.check p.2 = .ok ()) ∧
        es = (fs.zip items).map fun p => (p.1.name, p.2) := by
  induction items generalizing given fs es with
  | nil =>
      rw [items_nil_iff, List.zip_nil_right]
      constructor
      · rintro ⟨⟨hclosed, rfl⟩, hcomplete⟩
        exact ⟨hclosed, ⟨Nat.zero_le _, fun hc => congrArg List.length (hcomplete hc).symm⟩, nofun, rfl⟩
      · rintro ⟨hclosed, ⟨_, hcomplete⟩, _, hes⟩
        exact ⟨⟨hclosed, hes⟩, fun hc => List.length_eq_zero_iff.mp (hcomplete hc).symm⟩
  | cons v vs ih =>
      cases fs with
      | nil =>
          constructor
          · exact fun h => nomatch h
          · exact fun h => absurd h.2.1.1 (Nat.not_succ_le_zero _)
      | cons f fs =>
          rw [items_cons_iff, List.zip_cons_cons, List.forall_mem_cons]
          constructor
          · rintro ⟨hcheck, es', hes', rfl⟩
            obtain ⟨hclosed, ⟨hle, hcomplete⟩, hitems, rfl⟩ := (ih _ fs es').mp hes'
            have hlength : r.complete = true → (v :: vs).length = (f :: fs).length :=
              fun hc => congrArg Nat.succ (hcomplete hc)
            exact ⟨hclosed, ⟨Nat.succ_le_succ hle, hlength⟩, ⟨hcheck, hitems⟩, rfl⟩
          · rintro ⟨hclosed, ⟨hle, hcomplete⟩, ⟨hcheck, hitems⟩, rfl⟩
            have hlength : r.complete = true → vs.length = fs.length :=
              fun hc => Nat.succ.inj (hcomplete hc)
            have hrest := (ih (given + 1) fs _).mpr
              ⟨hclosed, ⟨Nat.le_of_succ_le_succ hle, hlength⟩, hitems, rfl⟩
            exact ⟨hcheck, _, hrest, rfl⟩

end RecordRule

/-! ## Components -/

/-- **A component of a record**: a field of its rule, the relation that the field reads, and the part of the record
    that the value becomes. -/
structure Component (ρ : Type) where
  {α : Type}
  field : RecordField α
  R : Node → α → Prop
  part : ρ → α
  decodes : Decodes field.read R
  own : field.name ∈ field.names

namespace Component

/-- The component as the grammar sees it. -/
def slot (c : Component ρ) : Slot ρ := .of c.field.names c.R c.part c.field.absent

/-- Among the values that are given the field has one that can be read, or none. -/
def Readable (c : Component ρ) (es : Entries) : Prop := ∃ a, c.field.get es = .ok a

/-- What is read of the field is what the record has there. -/
def Stores (c : Component ρ) (es : Entries) (x : ρ) : Prop := c.field.get es = .ok (c.part x)

/-- The items of an array under the names of the fields that they stand for. -/
def inOrder (cs : List (Component ρ)) (items : List Node) : Entries :=
  (cs.zip items).map fun p => (p.1.field.name, p.2)

theorem check_eq_ok_iff (c : Component ρ) (v : Node) : c.field.rule.check v = .ok () ↔ c.slot.Fits v := by
  refine map_eq_ok_iff.trans ⟨?_, ?_⟩
  · rintro ⟨a, ha, _⟩
    exact ⟨a, (c.decodes v a).mp ha⟩
  · rintro ⟨a, ha⟩
    exact ⟨a, (c.decodes v a).mpr ha, rfl⟩

theorem readable_iff (c : Component ρ) (es : Entries) :
    c.Readable es ↔ ∀ v, es.lookup c.field.name = some v → c.slot.Fits v := by
  rw [Readable, RecordField.get]
  cases es.lookup c.field.name with
  | none =>
      constructor
      · intro _ v hv
        exact nomatch hv
      · exact fun _ => ⟨_, rfl⟩
  | some v =>
      constructor
      · rintro ⟨a, ha⟩ v' hv
        obtain rfl := Option.some.inj hv
        exact ⟨a, (c.decodes v a).mp ha⟩
      · intro h
        obtain ⟨a, ha⟩ := h v rfl
        exact ⟨a, (c.decodes v a).mpr ha⟩

theorem stores_iff (c : Component ρ) (es : Entries) (x : ρ) :
    c.Stores es x ↔
      (∀ v, es.lookup c.field.name = some v → c.slot.Holds v x) ∧
        (es.lookup c.field.name = none → c.slot.Default x) := by
  rw [Stores, RecordField.get]
  cases es.lookup c.field.name with
  | none =>
      constructor
      · intro h
        exact ⟨nofun, fun _ => (Except.ok.inj h).symm⟩
      · exact fun h => congrArg Except.ok (h.2 rfl).symm
  | some v =>
      constructor
      · intro h
        refine ⟨fun v' hv => ?_, nofun⟩
        obtain rfl := Option.some.inj hv
        exact (c.decodes v _).mp h
      · exact fun h => (c.decodes v _).mpr (h.1 v rfl)

end Component

/-! ## Rules and grammars -/

/-- **A grammar and a rule match** if both come from one list of components. -/
structure Grammar.Matches (g : Grammar ρ) (r : RecordRule) (cs : List (Component ρ)) : Prop where
  fields : r.fields = cs.map fun c => c.field.rule
  slots : g.slots = cs.map Component.slot
  /-- No name belongs to two fields. -/
  names : (cs.flatMap fun c => c.field.names).Nodup
  ignores : ∀ k v, r.admit k v = .ok () ↔ g.Ignores v
  length : ∀ n, g.Length n ↔
    r.positional = true ∧ n ≤ r.fields.length ∧ (r.complete = true → n = r.fields.length)

/-- **A grammar describes a rule and its decoder** if all come from one list of components. -/
structure Grammar.Describes (g : Grammar ρ) (d : Decoder ρ) (r : RecordRule) (cs : List (Component ρ)) :
    Prop extends g.Matches r cs where
  /-- The decoder has the problems of the rule. -/
  entries : ∀ n x, d n = .ok x → ∃ es, r.entries n = .ok es
  /-- It reads the record whose parts are read from their fields, -/
  reads : ∀ n es x, r.entries n = .ok es → (∀ c ∈ cs, c.Stores es x) → d n = .ok x
  /-- and there is one, if each can be read. -/
  total : ∀ es, (∀ c ∈ cs, c.Readable es) → ∃ x, ∀ c ∈ cs, c.Stores es x

section Closed

variable {r : RecordRule} {slots : List (Slot ρ)}

theorem Grammar.closed_ignores (h : r.unknown = .refused) (k : String) (v : Node) :
    r.admit k v = .ok () ↔ (closed slots).Ignores v := by
  unfold RecordRule.admit
  rw [h]
  constructor
  · exact fun hok => nomatch hok
  · exact False.elim

theorem Grammar.closed_length (hpositional : r.positional = true) (hcomplete : r.complete = false)
    (hslots : slots.length = r.fields.length) (n : Nat) :
    (closed slots).Length n ↔
      r.positional = true ∧ n ≤ r.fields.length ∧ (r.complete = true → n = r.fields.length) := by
  rw [hpositional, hcomplete, ← hslots]
  constructor
  · exact fun hn => ⟨rfl, hn, nofun⟩
  · exact fun hn => hn.2.1

end Closed

namespace Grammar.Matches

variable {g : Grammar ρ} {r : RecordRule} {cs : List (Component ρ)}

theorem mem_slots_iff (h : g.Matches r cs) (s : Slot ρ) : s ∈ g.slots ↔ ∃ c ∈ cs, c.slot = s := by
  rw [h.slots, List.mem_map]

/-- A name belongs to one component. -/
theorem unique (h : g.Matches r cs) {c c' : Component ρ} (hc : c ∈ cs) (hc' : c' ∈ cs) {k : String}
    (hk : k ∈ c.field.names) (hk' : k ∈ c'.field.names) : c = c' := by
  by_contra hne
  have hsymm : Std.Symm (Function.onFun List.Disjoint fun c : Component ρ => c.field.names) :=
    ⟨fun _ _ hdisjoint _ hk hk' => hdisjoint hk' hk⟩
  exact (List.nodup_flatMap.mp h.names).2.forall hc hc' hne hk hk'

/-- No name belongs to two fields of the grammar. -/
theorem disjoint_names (h : g.Matches r cs) : g.slots.Pairwise fun s s' => s.names.Disjoint s'.names := by
  rw [h.slots, List.pairwise_map]
  exact (List.nodup_flatMap.mp h.names).2

theorem find_eq_some_iff (h : g.Matches r cs) (k : String) (f : FieldRule) :
    r.find k = some f ↔ ∃ c ∈ cs, k ∈ c.field.names ∧ c.field.rule = f := by
  rw [RecordRule.find, h.fields, List.find?_map, Option.map_eq_some_iff]
  constructor
  · rintro ⟨c, hfind, rfl⟩
    have hk := List.find?_some hfind
    change c.field.names.contains k = true at hk
    exact ⟨c, List.mem_of_find?_eq_some hfind, List.contains_iff_mem.mp hk, rfl⟩
  · rintro ⟨c, hc, hk, rfl⟩
    refine ⟨c, ?_, rfl⟩
    cases hfind : List.find? _ cs with
    | none => exact absurd (List.contains_iff_mem.mpr hk) (List.find?_eq_none.mp hfind c hc)
    | some c' =>
        have hk' := List.find?_some hfind
        change c'.field.names.contains k = true at hk'
        rw [h.unique (List.mem_of_find?_eq_some hfind) hc (List.contains_iff_mem.mp hk') hk]

theorem find_eq_none_iff (h : g.Matches r cs) (k : String) :
    r.find k = none ↔ ∀ c ∈ cs, k ∉ c.field.names := by
  constructor
  · intro hnone c hc hk
    have hsome := (h.find_eq_some_iff k _).mpr ⟨c, hc, hk, rfl⟩
    exact nomatch hnone.symm.trans hsome
  · intro hall
    cases hfind : r.find k with
    | none => rfl
    | some f =>
        obtain ⟨c, hc, hk, _⟩ := (h.find_eq_some_iff k f).mp hfind
        exact absurd hk (hall c hc)

/-! ### Objects -/

theorem named_iff (c : Component ρ) (k : String) (v : Node) :
    c.slot.Named (some k, v) ↔ k ∈ c.field.names := by
  constructor
  · rintro ⟨k', hk', hkey⟩
    rwa [Option.some.inj hkey]
  · exact fun hk => ⟨k, hk, rfl⟩

/-- The rule has no problem with a member exactly if the grammar has none. -/
theorem fine_iff (h : g.Matches r cs) (m : Member) : r.Fine m ↔ g.Takes m := by
  obtain ⟨key, v⟩ := m
  cases key with
  | none =>
      constructor
      · exact fun hfine => hfine.elim
      · rintro (⟨_, ⟨_, _, hkey⟩, _⟩ | ⟨hkey, _, _⟩)
        · exact nomatch hkey
        · exact nomatch hkey
  | some k =>
      cases hfind : r.find k with
      | none =>
          have hnone := (h.find_eq_none_iff k).mp hfind
          have hunnamed (s : Slot ρ) (hs : s ∈ g.slots) : ¬ s.Named (some k, v) := by
            obtain ⟨c, hc, rfl⟩ := (h.mem_slots_iff s).mp hs
            exact fun hnamed => hnone c hc ((named_iff c k v).mp hnamed)
          rw [RecordRule.fine_unknown_iff hfind, h.ignores]
          constructor
          · exact fun hignores => .other rfl hunnamed hignores
          · rintro (⟨hs, hnamed, _⟩ | ⟨_, _, hignores⟩)
            · exact absurd hnamed (hunnamed _ hs)
            · exact hignores
      | some f =>
          obtain ⟨c, hc, hk, rfl⟩ := (h.find_eq_some_iff k f).mp hfind
          have hslot : c.slot ∈ g.slots := (h.mem_slots_iff _).mpr ⟨c, hc, rfl⟩
          have hnamed : c.slot.Named (some k, v) := (named_iff c k v).mpr hk
          rw [RecordRule.fine_known_iff hfind, c.check_eq_ok_iff]
          constructor
          · exact fun hfits => .field hslot hnamed hfits
          · rintro (⟨hs, hnamed', hfits⟩ | ⟨_, hunnamed, _⟩)
            -- the field that the grammar finds is the one that the rule finds
            · obtain ⟨c', hc', rfl⟩ := (h.mem_slots_iff _).mp hs
              rwa [h.unique hc hc' hk ((named_iff c' k v).mp hnamed')]
            · exact absurd hnamed (hunnamed _ hslot)

theorem entry_eq_some_iff (h : g.Matches r cs) (m : Member) (e : String × Node) :
    r.entry m = some e ↔ ∃ c ∈ cs, c.slot.Named m ∧ e = (c.field.name, m.2) := by
  obtain ⟨key, v⟩ := m
  rw [RecordRule.entry, Option.map_eq_some_iff]
  constructor
  · rintro ⟨f, hf, rfl⟩
    obtain ⟨k, rfl, hfind⟩ := Option.bind_eq_some_iff.mp hf
    obtain ⟨c, hc, hk, rfl⟩ := (h.find_eq_some_iff k f).mp hfind
    exact ⟨c, hc, (named_iff c k v).mpr hk, rfl⟩
  · rintro ⟨c, hc, ⟨k, hk, rfl⟩, rfl⟩
    exact ⟨c.field.rule, (h.find_eq_some_iff k _).mpr ⟨c, hc, hk, rfl⟩, rfl⟩

/-- No field is given twice exactly if no two members name one. -/
theorem nodup_keys_iff (h : g.Matches r cs) (ms : List Member) :
    (Assoc.keys (ms.filterMap r.entry)).Nodup ↔ ms.Pairwise g.Apart := by
  rw [Assoc.keys, List.Nodup, List.pairwise_map, List.pairwise_filterMap]
  refine ⟨fun hpw => hpw.imp ?_, fun hpw => hpw.imp ?_⟩
  · intro m m' hm s hs hboth
    obtain ⟨c, hc, rfl⟩ := (h.mem_slots_iff s).mp hs
    exact hm _ ((h.entry_eq_some_iff m _).mpr ⟨c, hc, hboth.1, rfl⟩) _
      ((h.entry_eq_some_iff m' _).mpr ⟨c, hc, hboth.2, rfl⟩) rfl
  · intro m m' hm e he e' he' hname
    obtain ⟨c, hc, hnamed, rfl⟩ := (h.entry_eq_some_iff m e).mp he
    obtain ⟨c', hc', hnamed', rfl⟩ := (h.entry_eq_some_iff m' e').mp he'
    have hown : c.field.name ∈ c'.field.names := by
      rw [show c.field.name = c'.field.name from hname]
      exact c'.own
    obtain rfl := h.unique hc hc' c.own hown
    exact hm c.slot ((h.mem_slots_iff _).mpr ⟨c, hc, rfl⟩) ⟨hnamed, hnamed'⟩

theorem entries_object_iff (h : g.Matches r cs) (ms : List Member) (closed : Bool) (es : Entries) :
    r.entries (.object ms closed) = .ok es ↔
      g.Accepts (.object ms closed) ∧ es = ms.filterMap r.entry := by
  rw [RecordRule.entries, RecordRule.members_eq_ok_iff, Grammar.accepts_object_iff]
  simp only [h.fine_iff]
  constructor
  · rintro ⟨hclosed, hfine, rfl, hnodup, _⟩
    exact ⟨⟨hclosed, hfine, (h.nodup_keys_iff ms).mp hnodup⟩, rfl⟩
  · rintro ⟨⟨hclosed, htakes, hapart⟩, rfl⟩
    exact ⟨hclosed, htakes, rfl, (h.nodup_keys_iff ms).mpr hapart, fun _ _ => List.not_mem_nil⟩

theorem lookup_object_iff (h : g.Matches r cs) {ms : List Member} {closed : Bool}
    (haccepts : g.Accepts (.object ms closed)) {c : Component ρ} (hc : c ∈ cs) (v : Node) :
    (ms.filterMap r.entry).lookup c.field.name = some v ↔ ∃ m ∈ ms, c.slot.Named m ∧ m.2 = v := by
  obtain ⟨_, _, hapart⟩ := (g.accepts_object_iff ms closed).mp haccepts
  have hnodup := (h.nodup_keys_iff ms).mpr hapart
  rw [Assoc.lookup_eq_some_iff hnodup, List.mem_filterMap]
  constructor
  · rintro ⟨m, hm, hentry⟩
    obtain ⟨c', hc', hnamed, heq⟩ := (h.entry_eq_some_iff m _).mp hentry
    obtain ⟨hname, rfl⟩ := Prod.mk.inj heq
    obtain rfl := h.unique hc hc' c.own (hname ▸ c'.own)
    exact ⟨m, hm, hnamed, rfl⟩
  · rintro ⟨m, hm, hnamed, rfl⟩
    exact ⟨m, hm, (h.entry_eq_some_iff m _).mpr ⟨c, hc, hnamed, rfl⟩⟩

theorem readable_object (h : g.Matches r cs) {ms : List Member} {closed : Bool}
    (haccepts : g.Accepts (.object ms closed)) {c : Component ρ} (hc : c ∈ cs) :
    c.Readable (ms.filterMap r.entry) := by
  rw [c.readable_iff]
  intro v hv
  obtain ⟨m, hm, hnamed, rfl⟩ := (h.lookup_object_iff haccepts hc v).mp hv
  obtain ⟨_, htakes, _⟩ := (g.accepts_object_iff ms closed).mp haccepts
  cases htakes m hm with
  | field hs hnamed' hfits =>
      obtain ⟨c', hc', rfl⟩ := (h.mem_slots_iff _).mp hs
      obtain ⟨k, hk, hkey⟩ := hnamed
      obtain ⟨k', hk', hkey'⟩ := hnamed'
      obtain rfl := Option.some.inj (hkey.symm.trans hkey')
      rwa [h.unique hc hc' hk hk']
  | other _ hunnamed _ =>
      have hslot : c.slot ∈ g.slots := (h.mem_slots_iff _).mpr ⟨c, hc, rfl⟩
      exact absurd hnamed (hunnamed _ hslot)

/-- What is read from an object is what it holds. -/
theorem stores_object_iff (h : g.Matches r cs) {ms : List Member} {closed : Bool}
    (haccepts : g.Accepts (.object ms closed)) (x : ρ) :
    (∀ c ∈ cs, c.Stores (ms.filterMap r.entry) x) ↔ g.Denotes (.object ms closed) x := by
  rw [Grammar.Denotes, h.slots, List.forall_mem_map]
  refine forall₂_congr fun c hc => ?_
  rw [c.stores_iff, Option.eq_none_iff_forall_not_mem]
  simp only [Option.mem_def, h.lookup_object_iff haccepts hc]
  refine and_congr ?_ (imp_congr ?_ Iff.rfl)
  · refine ⟨fun hall m hm hnamed => hall m.2 ⟨m, hm, hnamed, rfl⟩, fun hall v hv => ?_⟩
    obtain ⟨m, hm, hnamed, rfl⟩ := hv
    exact hall m hm hnamed
  · refine ⟨fun hall m hm hnamed => hall m.2 ⟨m, hm, hnamed, rfl⟩, fun hall v hv => ?_⟩
    obtain ⟨m, hm, hnamed, -⟩ := hv
    exact hall m hm hnamed

/-! ### Arrays -/

theorem entries_array_iff (h : g.Matches r cs) (items : List Node) (closed : Bool) (es : Entries) :
    r.entries (.array items closed) = .ok es ↔
      g.Accepts (.array items closed) ∧ es = Component.inOrder cs items := by
  have hslots : (∀ p ∈ g.slots.zip items, p.1.Fits p.2) ↔
      ∀ p ∈ r.fields.zip items, p.1.check p.2 = .ok () := by
    rw [h.slots, h.fields, List.zip_map_left, List.zip_map_left, List.forall_mem_map,
      List.forall_mem_map]
    exact forall₂_congr fun p _ => (p.1.check_eq_ok_iff p.2).symm
  have hentries : (r.fields.zip items).map (fun p => (p.1.name, p.2)) = Component.inOrder cs items := by
    rw [h.fields, List.zip_map_left, List.map_map]
    rfl
  rw [RecordRule.entries, Grammar.accepts_array_iff, h.length, hslots, ← hentries]
  split
  · rename_i hpositional
    rw [RecordRule.items_eq_ok_iff]
    simp only [hpositional, true_and, and_assoc]
  · rename_i hpositional
    constructor
    · exact fun hes => absurd hes (mismatch_ne_ok _ _ _)
    · exact fun hes => absurd hes.1.2.1.1 hpositional

theorem nodup_names (h : g.Matches r cs) : (cs.map fun c => c.field.name).Nodup := by
  rw [List.Nodup, List.pairwise_map]
  refine (List.nodup_flatMap.mp h.names).2.imp fun {c c'} hdisjoint hname => ?_
  exact hdisjoint c.own (hname ▸ c'.own)

end Grammar.Matches

/-- Items are found under the names of their fields, and the fields beyond the last item have none. -/
theorem forall_lookup_zip_iff {cs : List (Component ρ)} (h : (cs.map fun c => c.field.name).Nodup)
    (P : Component ρ → Option Node → Prop) (items : List Node) :
    (∀ c ∈ cs, P c ((Component.inOrder cs items).lookup c.field.name)) ↔
      (∀ p ∈ cs.zip items, P p.1 (some p.2)) ∧ ∀ c ∈ cs.drop items.length, P c none := by
  induction cs generalizing items with
  | nil =>
      rw [List.zip_nil_left, List.drop_nil]
      exact ⟨fun _ => ⟨nofun, nofun⟩, fun _ => nofun⟩
  | cons c cs ih =>
      cases items with
      | nil =>
          rw [List.zip_nil_right]
          exact ⟨fun hall => ⟨nofun, hall⟩, fun hall => hall.2⟩
      | cons v vs =>
          rw [List.map_cons, List.nodup_cons] at h
          have hcons : Component.inOrder (c :: cs) (v :: vs) =
            (c.field.name, v) :: Component.inOrder cs vs := rfl
          rw [hcons, List.zip_cons_cons, List.length_cons, List.drop_succ_cons, List.forall_mem_cons,
            List.forall_mem_cons, and_assoc, ← ih h.2]
          refine and_congr ?_ (forall₂_congr fun c' hc' => ?_)
          · rw [Assoc.lookup_cons, if_pos rfl]
          -- a later field has another name, so that it is looked up among the later items
          · have hne : c'.field.name ≠ c.field.name := fun heq =>
              h.1 (List.mem_map.mpr ⟨c', hc', heq⟩)
            rw [Assoc.lookup_cons, if_neg hne]

namespace Grammar.Matches

variable {g : Grammar ρ} {r : RecordRule} {cs : List (Component ρ)}

theorem readable_array (h : g.Matches r cs) {items : List Node} {closed : Bool}
    (haccepts : g.Accepts (.array items closed)) :
    ∀ c ∈ cs, c.Readable (Component.inOrder cs items) := by
  obtain ⟨_, _, hitems⟩ := (g.accepts_array_iff items closed).mp haccepts
  rw [h.slots, List.zip_map_left, List.forall_mem_map] at hitems
  simp only [Component.readable_iff]
  refine (forall_lookup_zip_iff h.nodup_names (fun c o => ∀ v, o = some v → c.slot.Fits v) items).mpr
    ⟨fun p hp v hv => ?_, fun c _ v hv => nomatch hv⟩
  rw [← Option.some.inj hv]
  exact hitems p hp

/-- What is read from an array is what it holds. -/
theorem stores_array_iff (h : g.Matches r cs) (items : List Node) (closed : Bool) (x : ρ) :
    (∀ c ∈ cs, c.Stores (Component.inOrder cs items) x) ↔
      g.Denotes (.array items closed) x := by
  simp only [Component.stores_iff]
  rw [forall_lookup_zip_iff h.nodup_names (fun c o =>
    (∀ v, o = some v → c.slot.Holds v x) ∧ (o = none → c.slot.Default x)) items]
  rw [Grammar.Denotes, h.slots, List.zip_map_left, ← List.map_drop, List.forall_mem_map,
    List.forall_mem_map]
  simp

/-! ### Records -/

/-- The rule finds no problem exactly in the nodes that the grammar accepts. -/
theorem exists_entries_iff (h : g.Matches r cs) (n : Node) :
    (∃ es, r.entries n = .ok es) ↔ g.Accepts n := by
  cases n with
  | object ms closed =>
      simp only [h.entries_object_iff]
      exact ⟨fun ⟨_, haccepts, _⟩ => haccepts, fun haccepts => ⟨_, haccepts, rfl⟩⟩
  | array items closed =>
      simp only [h.entries_array_iff]
      exact ⟨fun ⟨_, haccepts, _⟩ => haccepts, fun haccepts => ⟨_, haccepts, rfl⟩⟩
  | _ =>
      constructor
      · exact fun ⟨_, hes⟩ => absurd hes (mismatch_ne_ok _ _ _)
      · exact fun haccepts => nomatch haccepts

/-- What is read without a problem makes the record that the grammar says. -/
theorem stores_iff_denotes (h : g.Matches r cs) {n : Node} {es : Entries} (hes : r.entries n = .ok es) :
    (∀ c ∈ cs, c.Readable es) ∧ ∀ x, (∀ c ∈ cs, c.Stores es x) ↔ g.Denotes n x := by
  cases n with
  | object ms closed =>
      obtain ⟨haccepts, rfl⟩ := (h.entries_object_iff ms closed es).mp hes
      exact ⟨fun c hc => h.readable_object haccepts hc, h.stores_object_iff haccepts⟩
  | array items closed =>
      obtain ⟨haccepts, rfl⟩ := (h.entries_array_iff items closed es).mp hes
      exact ⟨h.readable_array haccepts, h.stores_array_iff items closed⟩
  | _ => exact absurd hes (mismatch_ne_ok _ _ _)

end Grammar.Matches

namespace Grammar.Describes

variable {g : Grammar ρ} {d : Decoder ρ} {r : RecordRule} {cs : List (Component ρ)}

/-- **A decoder reads exactly the grammar that describes its rule.** -/
theorem decodes (h : g.Describes d r cs) : Decodes d g.Reads := by
  intro n x
  constructor
  · intro hx
    obtain ⟨es, hes⟩ := h.entries n x hx
    obtain ⟨hreadable, hdenotes⟩ := h.stores_iff_denotes hes
    -- the record that can be made of the parts is read too, and a decoder reads one record only
    obtain ⟨x', hx'⟩ := h.total es hreadable
    obtain rfl := Except.ok.inj (hx.symm.trans (h.reads n es x' hes hx'))
    exact ⟨(h.exists_entries_iff n).mp ⟨es, hes⟩, (hdenotes x).mp hx'⟩
  · rintro ⟨haccepts, hdenotes⟩
    obtain ⟨es, hes⟩ := (h.exists_entries_iff n).mpr haccepts
    exact h.reads n es x hes (((h.stores_iff_denotes hes).2 x).mpr hdenotes)

/-- **What a grammar accepts is read.** -/
theorem accepts_iff (h : g.Describes d r cs) (n : Node) : (∃ x, d n = .ok x) ↔ g.Accepts n := by
  constructor
  · rintro ⟨x, hx⟩
    exact ((h.decodes n x).mp hx).1
  · intro haccepts
    obtain ⟨es, hes⟩ := (h.exists_entries_iff n).mpr haccepts
    obtain ⟨x, hx⟩ := h.total es (h.stores_iff_denotes hes).1
    exact ⟨x, h.reads n es x hes hx⟩

/-- **The order of the members does not matter** to what is read. -/
theorem read_perm (h : g.Describes d r cs) {ms ms' : List Member} (hperm : ms.Perm ms') (closed : Bool)
    (x : ρ) : d (.object ms closed) = .ok x ↔ d (.object ms' closed) = .ok x := by
  rw [h.decodes, h.decodes, Grammar.Reads, Grammar.Reads, g.accepts_perm hperm, g.denotes_perm hperm]

end Grammar.Describes

end ItemQuery.Json
