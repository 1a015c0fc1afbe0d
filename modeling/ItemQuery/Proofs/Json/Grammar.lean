import ItemQuery.Json.Source

/-!
# `Proofs.Json.Grammar` — grammars of records

What may be given as a record, stated without a word about reading: the fields with all their names, the values
that fit them, what happens to other keys, and how long an array of the fields may be. An object is a list of
members in which keys may stand twice, and a grammar looks at it in no order. Two properties of a node are kept
apart. Whether it is accepted is a matter of its members one by one and in pairs; what it holds is said field by
field.

## Contents
- `Slot`, `Grammar`: the fields of a record, and its grammar. `Grammar.closed`: no other keys.
- `Grammar.Accepts`, `Grammar.Denotes`, `Grammar.Reads`: which nodes are accepted, and what they hold.
- `accepts_perm`, `denotes_perm`: the order of the members does not matter.
-/

namespace ItemQuery.Json

variable {α ρ : Type}

/-! ## Grammars -/

/-- A member of an object; its key may be less than text. -/
abbrev Member := Option String × Node

/-- **A field of a record**: the names that it answers to, the values that fit it, and what a record has there, if
    the field is given some value and if it is not given. -/
structure Slot (ρ : Type) where
  names : List String
  Fits : Node → Prop
  Holds : Node → ρ → Prop
  Default : ρ → Prop

/-- The field of a part of a record that is read by a relation. -/
def Slot.of (names : List String) (R : Node → α → Prop) (part : ρ → α) (absent : α) : Slot ρ where
  names := names
  Fits n := ∃ a, R n a
  Holds n x := R n (part x)
  Default x := part x = absent

/-- The member names the field, by any of its names. -/
def Slot.Named (s : Slot ρ) (m : Member) : Prop := ∃ k ∈ s.names, m.1 = some k

/-- **The grammar of a record.** -/
structure Grammar (ρ : Type) where
  /-- The fields in order. -/
  slots : List (Slot ρ)
  /-- The values that may stand under a key that names no field. -/
  Ignores : Node → Prop
  /-- The numbers of items that an array of the fields may have. -/
  Length : Nat → Prop

namespace Grammar

/-- The grammar of a record that has no other keys, and of which an array may leave out fields at the end. -/
def closed (slots : List (Slot ρ)) : Grammar ρ where
  slots := slots
  Ignores _ := False
  Length n := n ≤ slots.length

/-- **A member that may stand in an object**: it names a field that its value fits, or it names none and is passed
    over. -/
inductive Takes (g : Grammar ρ) (m : Member) : Prop
  | field {s : Slot ρ} (hs : s ∈ g.slots) (hnamed : s.Named m) (hfits : s.Fits m.2)
  | other (htext : m.1.isSome = true) (hunnamed : ∀ s ∈ g.slots, ¬ s.Named m) (hignores : g.Ignores m.2)

/-- Two members do not name one field, be it by one name or by two. -/
def Apart (g : Grammar ρ) (m m' : Member) : Prop := ∀ s ∈ g.slots, ¬ (s.Named m ∧ s.Named m')

/-- **What a grammar accepts.** In an object all members may stand there, and no two of them name one field. In an
    array the items fit the fields one by one. -/
inductive Accepts (g : Grammar ρ) : Node → Prop
  | object {ms : List Member} (htakes : ∀ m ∈ ms, g.Takes m) (hapart : ms.Pairwise g.Apart) :
      Accepts g (.object ms true)
  | array {items : List Node} (hlength : g.Length items.length)
      (hitems : ∀ p ∈ g.slots.zip items, p.1.Fits p.2) : Accepts g (.array items true)

/-- **What a node of a grammar holds.** Every field that is given has its value, and every other its default. -/
def Denotes (g : Grammar ρ) : Node → ρ → Prop
  | .object ms _, x => ∀ s ∈ g.slots,
      (∀ m ∈ ms, s.Named m → s.Holds m.2 x) ∧ ((∀ m ∈ ms, ¬ s.Named m) → s.Default x)
  | .array items _, x =>
      (∀ p ∈ g.slots.zip items, p.1.Holds p.2 x) ∧ ∀ s ∈ g.slots.drop items.length, s.Default x
  | _, _ => False

/-- The node is accepted, and holds the record. -/
def Reads (g : Grammar ρ) (n : Node) (x : ρ) : Prop := g.Accepts n ∧ g.Denotes n x

theorem accepts_object_iff (g : Grammar ρ) (ms : List Member) (closed : Bool) :
    g.Accepts (.object ms closed) ↔
      closed = true ∧ (∀ m ∈ ms, g.Takes m) ∧ ms.Pairwise g.Apart := by
  constructor
  · intro h
    cases h with
    | object htakes hapart => exact ⟨rfl, htakes, hapart⟩
  · rintro ⟨rfl, htakes, hapart⟩
    exact .object htakes hapart

theorem accepts_array_iff (g : Grammar ρ) (items : List Node) (closed : Bool) :
    g.Accepts (.array items closed) ↔
      closed = true ∧ g.Length items.length ∧ ∀ p ∈ g.slots.zip items, p.1.Fits p.2 := by
  constructor
  · intro h
    cases h with
    | array hlength hitems => exact ⟨rfl, hlength, hitems⟩
  · rintro ⟨rfl, hlength, hitems⟩
    exact .array hlength hitems

/-! ## The order of members -/

theorem Apart.symm {g : Grammar ρ} {m m' : Member} (h : g.Apart m m') : g.Apart m' m := by
  intro s hs hboth
  exact h s hs hboth.symm

/-- **The order of the members does not matter** to a grammar. -/
theorem accepts_perm (g : Grammar ρ) {ms ms' : List Member} (h : ms.Perm ms') (closed : Bool) :
    g.Accepts (.object ms closed) ↔ g.Accepts (.object ms' closed) := by
  have hapart : ms.Pairwise g.Apart ↔ ms'.Pairwise g.Apart := h.pairwise_iff Apart.symm
  rw [accepts_object_iff, accepts_object_iff, hapart]
  simp only [h.mem_iff]

theorem denotes_perm (g : Grammar ρ) {ms ms' : List Member} (h : ms.Perm ms') (closed : Bool) (x : ρ) :
    g.Denotes (.object ms closed) x ↔ g.Denotes (.object ms' closed) x := by
  simp only [Denotes, h.mem_iff]

end Grammar

end ItemQuery.Json
