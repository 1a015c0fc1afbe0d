import ItemQuery.Proofs.Json.Grammar
import Mathlib.Data.List.Forall2
import Mathlib.Data.List.Nodup
import Mathlib.Data.List.Pairwise

/-!
# `Proofs.Json.Members` — which members of an object matter

Two properties of grammars, by which objects can be changed or made. Members that name no field can be taken away
and put back: they have to be such as the grammar passes over, and say nothing (`reads_append_iff`). And an object
that gives every field exactly once is read as a record if each value fits its field and holds what the record has
there (`reads_iff_of_full`), so that an object that is written from a record is settled field by field.

## Contents
- `Reads.part_cases`: what is read of a field.
- `reads_perm_iff`: the order of the members does not matter.
- `reads_append_iff`: members that name no field.
- `not_accepts_of_twice`: a field that is named twice.
- `reads_iff_of_full`: objects that give every field once.
- `isWhole_of_isSound`: a value that can be kept can be skipped.
-/

namespace ItemQuery.Json

variable {α ρ : Type}

/-- A value fits a field and holds what the record has there. -/
def Slot.Reads (s : Slot ρ) (x : ρ) (m : Member) : Prop := s.Named m ∧ s.Fits m.2 ∧ s.Holds m.2 x

/-- The field of a part is read by the relation of the part. -/
theorem Slot.reads_of_iff {names : List String} {R : Node → α → Prop} {part : ρ → α} {absent : α} {x : ρ}
    {k : String} {v : Node} :
    (Slot.of names R part absent).Reads x (some k, v) ↔ k ∈ names ∧ R v (part x) := by
  constructor
  · rintro ⟨⟨k', hk', hkey⟩, _, hholds⟩
    rw [Option.some.inj hkey]
    exact ⟨hk', hholds⟩
  · rintro ⟨hk, hholds⟩
    exact ⟨⟨k, hk, rfl⟩, ⟨part x, hholds⟩, hholds⟩

namespace Grammar

variable {g : Grammar ρ}

theorem reads_perm_iff (g : Grammar ρ) {ms ms' : List Member} (h : ms.Perm ms') (closed : Bool) (x : ρ) :
    g.Reads (.object ms closed) x ↔ g.Reads (.object ms' closed) x := by
  rw [Reads, Reads, g.accepts_perm h, g.denotes_perm h]

/-! ## What a record is read to have -/

/-- A field of an array has an item, or lies beyond the last one. -/
theorem mem_zip_or_mem_drop {β : Type} {as : List α} {a : α} (h : a ∈ as) (bs : List β) :
    (∃ b, (a, b) ∈ as.zip bs) ∨ a ∈ as.drop bs.length := by
  induction as generalizing bs with
  | nil => exact nomatch h
  | cons a' as ih =>
      cases bs with
      | nil => exact .inr h
      | cons b bs =>
          rw [List.zip_cons_cons, List.length_cons, List.drop_succ_cons]
          rcases List.mem_cons.mp h with rfl | h
          · exact .inl ⟨b, List.mem_cons_self⟩
          · exact (ih h bs).imp_left fun ⟨b', hb'⟩ => ⟨b', List.mem_cons_of_mem _ hb'⟩

/-- **What is read of a field**: the value of some member or item, or the default. -/
theorem Reads.part_cases {names : List String} {R : Node → α → Prop} {part : ρ → α} {absent : α} {n : Node} {x : ρ}
    (h : g.Reads n x) (hs : Slot.of names R part absent ∈ g.slots) : part x = absent ∨ ∃ v, R v (part x) := by
  cases n with
  | object ms closed =>
      obtain ⟨hgiven, hdefault⟩ := h.2 _ hs
      by_cases hnamed : ∃ m ∈ ms, (Slot.of names R part absent).Named m
      · obtain ⟨m, hm, hnamed⟩ := hnamed
        exact .inr ⟨m.2, hgiven m hm hnamed⟩
      · exact .inl (hdefault fun m hm hm' => hnamed ⟨m, hm, hm'⟩)
  | array items closed =>
      obtain ⟨hgiven, hdefault⟩ := h.2
      rcases mem_zip_or_mem_drop hs items with ⟨v, hv⟩ | hs
      · exact .inr ⟨v, hgiven _ hv⟩
      · exact .inl (hdefault _ hs)
  | _ => exact h.2.elim

/-! ## Members that name no field -/

/-- A member that names no field can stand in an object exactly if it is passed over. -/
theorem takes_other_iff {m : Member} (h : ∀ s ∈ g.slots, ¬ s.Named m) :
    g.Takes m ↔ m.1.isSome = true ∧ g.Ignores m.2 := by
  constructor
  · rintro (⟨hs, hnamed, _⟩ | ⟨htext, _, hignores⟩)
    · exact absurd hnamed (h _ hs)
    · exact ⟨htext, hignores⟩
  · rintro ⟨htext, hignores⟩
    exact .other htext h hignores

/-- **Members that name no field** only have to be passed over, wherever they stand, and say nothing. -/
theorem reads_append_iff {own others : List Member} (h : ∀ m ∈ others, ∀ s ∈ g.slots, ¬ s.Named m)
    (closed : Bool) (x : ρ) :
    g.Reads (.object (own ++ others) closed) x ↔
      g.Reads (.object own closed) x ∧ ∀ m ∈ others, m.1.isSome = true ∧ g.Ignores m.2 := by
  have hothers : (∀ m ∈ others, g.Takes m) ↔ ∀ m ∈ others, m.1.isSome = true ∧ g.Ignores m.2 :=
    forall₂_congr fun m hm => takes_other_iff (h m hm)
  -- a member that names no field is apart from all members
  have happart : (own ++ others).Pairwise g.Apart ↔ own.Pairwise g.Apart := by
    rw [List.pairwise_append]
    constructor
    · exact And.left
    · intro hown
      refine ⟨hown, List.pairwise_of_forall_mem_list fun m hm m' _ s hs hboth => ?_,
        fun m _ m' hm' s hs hboth => ?_⟩
      · exact h m hm s hs hboth.1
      · exact h m' hm' s hs hboth.2
  have hdenotes : g.Denotes (.object (own ++ others) closed) x ↔ g.Denotes (.object own closed) x := by
    refine forall₂_congr fun s hs => ?_
    have hunnamed : ∀ m ∈ others, ¬ s.Named m := fun m hm => h m hm s hs
    simp only [List.forall_mem_append]
    refine and_congr ?_ (imp_congr ?_ Iff.rfl)
    · exact ⟨And.left, fun hown => ⟨hown, fun m hm hnamed => absurd hnamed (hunnamed m hm)⟩⟩
    · exact ⟨And.left, fun hown => ⟨hown, hunnamed⟩⟩
  rw [Reads, Reads, accepts_object_iff, accepts_object_iff, List.forall_mem_append, hothers, happart, hdenotes]
  constructor
  · rintro ⟨⟨hclosed, ⟨htakes, hignores⟩, hpairs⟩, hholds⟩
    exact ⟨⟨⟨hclosed, htakes, hpairs⟩, hholds⟩, hignores⟩
  · rintro ⟨⟨⟨hclosed, htakes, hpairs⟩, hholds⟩, hignores⟩
    exact ⟨⟨hclosed, ⟨htakes, hignores⟩, hpairs⟩, hholds⟩

/-- **A field that is named twice** is never accepted, be it by one name or by two. -/
theorem not_accepts_of_twice {s : Slot ρ} (hs : s ∈ g.slots) {m m' : Member} (hm : s.Named m) (hm' : s.Named m')
    (a b c : List Member) (closed : Bool) : ¬ g.Accepts (.object (a ++ m :: b ++ m' :: c) closed) := by
  intro haccepts
  obtain ⟨_, _, hapart⟩ := (g.accepts_object_iff _ closed).mp haccepts
  have hpair : g.Apart m m' :=
    (List.pairwise_append.mp hapart).2.2 m (List.mem_append_right a List.mem_cons_self) m' List.mem_cons_self
  exact hpair s hs ⟨hm, hm'⟩

/-! ## Objects that give every field once -/

/-- A field that names a member is the only one, if no name belongs to two fields. -/
theorem slot_unique (hnames : g.slots.Pairwise fun s s' => s.names.Disjoint s'.names) {s s' : Slot ρ}
    (hs : s ∈ g.slots) (hs' : s' ∈ g.slots) {m : Member} (h : s.Named m) (h' : s'.Named m) : s = s' := by
  by_contra hne
  have hsymm : Std.Symm fun s s' : Slot ρ => s.names.Disjoint s'.names := ⟨fun _ _ hdisjoint _ hk hk' => hdisjoint hk' hk⟩
  obtain ⟨k, hk, hkey⟩ := h
  obtain ⟨k', hk', hkey'⟩ := h'
  obtain rfl := Option.some.inj (hkey.symm.trans hkey')
  exact hnames.forall hs hs' hne hk hk'

/-- Members that give the fields of one grammar name no field of another, if the two share no name. -/
theorem not_named_of_disjoint {ρ' : Type} {g' : Grammar ρ'}
    (h : ∀ k ∈ g.slots.flatMap Slot.names, k ∉ g'.slots.flatMap Slot.names) {ms : List Member}
    (hms : List.Forall₂ Slot.Named g.slots ms) : ∀ m ∈ ms, ∀ s ∈ g'.slots, ¬ s.Named m := by
  rintro m hm s' hs' ⟨k', hk', hkey'⟩
  have hnamed : ∃ s ∈ g.slots, s.Named m := by
    generalize g.slots = slots at hms
    induction hms with
    | nil => exact nomatch hm
    | cons hs _ ih =>
        rcases List.mem_cons.mp hm with rfl | hm
        · exact ⟨_, List.mem_cons_self, hs⟩
        · obtain ⟨s, hs, hnamed⟩ := ih hm
          exact ⟨s, List.mem_cons_of_mem _ hs, hnamed⟩
  obtain ⟨s, hs, k, hk, hkey⟩ := hnamed
  obtain rfl := Option.some.inj (hkey.symm.trans hkey')
  exact h k (List.mem_flatMap.mpr ⟨s, hs, hk⟩) (List.mem_flatMap.mpr ⟨s', hs', hk'⟩)

/-- **An object that gives every field once** is read as a record exactly if each value fits its field and holds
    what the record has there. -/
theorem reads_iff_of_full (hnames : g.slots.Pairwise fun s s' => s.names.Disjoint s'.names) {ms : List Member}
    (hms : List.Forall₂ Slot.Named g.slots ms) (x : ρ) :
    g.Reads (.object ms true) x ↔ List.Forall₂ (fun s m => s.Reads x m) g.slots ms := by
  obtain ⟨hlength, hnamed⟩ := List.forall₂_iff_zip.mp hms
  have hslots : (g.slots.zip ms).map Prod.fst = g.slots := List.map_fst_zip (Nat.le_of_eq hlength)
  have hmembers : (g.slots.zip ms).map Prod.snd = ms := List.map_snd_zip (Nat.le_of_eq hlength.symm)
  have hslot {s : Slot ρ} {m : Member} (hp : (s, m) ∈ g.slots.zip ms) : s ∈ g.slots := (List.of_mem_zip hp).1
  -- every member has its field, and no field names it but that one
  have hmember {m : Member} (hm : m ∈ ms) : ∃ s, (s, m) ∈ g.slots.zip ms := by
    rw [← hmembers] at hm
    obtain ⟨⟨s, m'⟩, hp, rfl⟩ := List.mem_map.mp hm
    exact ⟨s, hp⟩
  have hfield {s : Slot ρ} (hs : s ∈ g.slots) : ∃ m, (s, m) ∈ g.slots.zip ms := by
    rw [← hslots] at hs
    obtain ⟨⟨s', m⟩, hp, rfl⟩ := List.mem_map.mp hs
    exact ⟨m, hp⟩
  rw [List.forall₂_iff_zip, Reads, accepts_object_iff]
  constructor
  · rintro ⟨⟨_, htakes, _⟩, hdenotes⟩
    refine ⟨hlength, fun {s m} hp => ⟨hnamed hp, ?_, ?_⟩⟩
    · rcases htakes m (List.of_mem_zip hp).2 with ⟨hs, hnamed', hfits⟩ | ⟨_, hunnamed, _⟩
      · rwa [slot_unique hnames (hslot hp) hs (hnamed hp) hnamed']
      · exact absurd (hnamed hp) (hunnamed s (hslot hp))
    · exact (hdenotes s (hslot hp)).1 m (List.of_mem_zip hp).2 (hnamed hp)
  · rintro ⟨_, hreads⟩
    refine ⟨⟨rfl, fun m hm => ?_, ?_⟩, fun s hs => ⟨fun m hm hnamed' => ?_, fun hunnamed => ?_⟩⟩
    · obtain ⟨s, hp⟩ := hmember hm
      exact .field (hslot hp) (hnamed hp) (hreads hp).2.1
    · have hpairs := hnames
      rw [← hslots, List.pairwise_map] at hpairs
      rw [← hmembers, List.pairwise_map]
      refine hpairs.imp_of_mem fun {p q} hp hq hdisjoint s hs hboth => ?_
      -- one field that names both members is the field of each
      obtain ⟨k, hk, _⟩ := hnamed hp
      have hfirst := slot_unique hnames hs (hslot hp) hboth.1 (hnamed hp)
      have hsecond := slot_unique hnames hs (hslot hq) hboth.2 (hnamed hq)
      exact hdisjoint hk (hsecond ▸ hfirst ▸ hk)
    · obtain ⟨s', hp⟩ := hmember hm
      rw [slot_unique hnames hs (hslot hp) hnamed' (hnamed hp)]
      exact (hreads hp).2.2
    · obtain ⟨m, hp⟩ := hfield hs
      exact absurd (hnamed hp) (hunnamed m (List.of_mem_zip hp).2)

end Grammar

/-! ## Values that are kept and values that are skipped -/

mutual

/-- What can be kept can be skipped. -/
theorem isWhole_of_isSound (depth : Nat) (n : Node) (h : n.isSound depth = true) : n.isWhole = true := by
  cases n with
  | array items closed =>
      cases depth with
      | zero => exact nomatch h
      | succ depth =>
          rw [Node.isSound, Bool.and_eq_true] at h
          rw [Node.isWhole, Bool.and_eq_true]
          exact ⟨h.1, allWhole_of_allSound depth items h.2⟩
  | object members closed =>
      cases depth with
      | zero => exact nomatch h
      | succ depth =>
          rw [Node.isSound, Bool.and_eq_true] at h
          rw [Node.isWhole, Bool.and_eq_true]
          exact ⟨h.1, membersWhole_of_membersSound depth members h.2⟩
  | broken => cases depth <;> exact nomatch h
  | _ => rfl

theorem allWhole_of_allSound (depth : Nat) (vs : List Node) (h : allSound depth vs = true) :
    allWhole vs = true := by
  cases vs with
  | nil => rfl
  | cons v vs =>
      rw [allSound, Bool.and_eq_true] at h
      rw [allWhole, Bool.and_eq_true]
      exact ⟨isWhole_of_isSound depth v h.1, allWhole_of_allSound depth vs h.2⟩

theorem membersWhole_of_membersSound (depth : Nat) (ms : List Member) (h : membersSound depth ms = true) :
    membersWhole ms = true := by
  cases ms with
  | nil => rfl
  | cons m ms =>
      rw [membersSound, Bool.and_eq_true, Bool.and_eq_true] at h
      rw [membersWhole, Bool.and_eq_true]
      exact ⟨isWhole_of_isSound depth m.2 h.1.2, membersWhole_of_membersSound depth ms h.2⟩

end

end ItemQuery.Json
