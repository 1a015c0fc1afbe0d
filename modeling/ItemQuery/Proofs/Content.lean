import ItemQuery.Assoc
import ItemQuery.Json.Source
import ItemQuery.Toml.Decode
import Mathlib

/-!
# `Proofs.Content` — what a kept value has of the value that it was

A value that is kept is read from what was kept, by readers of its own. So there are two things to know of every
format: which of its values can be kept, and what the readers of kept values make of them. Of JSON exactly the sound
values can be kept, and an integer is told from a double by the way in which it is kept. Of TOML every value can be
kept, and each reader of kept values answers as the reader of the values themselves does. Only one pair of readers
differs: an array that stands for a record loses its surplus items when it is read directly, and is refused when it
has been kept (`Toml.Value.HasSurplus`).

## Contents
- `Content.integer?_ofInt`, `Content.float?_ofInt`, `Content.int64?_ofInt`: integers.
- `Json.isSome_content?`: the values of JSON that can be kept.
- `Toml.entries?_content`, `Toml.record?_content_of_fits`, `Toml.record?_content_of_surplus`: tables and records.
- `Toml.field?_kept`: a field that was kept.
-/

namespace ItemQuery

/-! ## Integers -/

namespace Content

@[simp] theorem integer?_ofInt (n : Int) : (ofInt n).integer? = some n := by
  unfold ofInt
  split
  · rename_i hn
    rw [integer?, Int.toNat_of_nonneg hn]
  · rfl

@[simp] theorem bool?_ofInt (n : Int) : (ofInt n).bool? = none := by
  unfold ofInt
  split <;> rfl

@[simp] theorem float?_ofInt (n : Int) : (ofInt n).float? = some (Float.ofInt n) := by
  have hinteger : (ofInt n).float? = (ofInt n).integer?.map Float.ofInt := by
    unfold ofInt
    split <;> rfl
  rw [hinteger, integer?_ofInt, Option.map_some]

/-- An integer is one of 64 bits if it lies between their bounds. -/
theorem int64?_ofInt (n : Int) :
    (ofInt n).int64? = if -Int.pow 2 63 ≤ n ∧ n < Int.pow 2 63 then some (Int64.ofInt n) else none := by
  have hbounds : n ≤ Int.pow 2 63 - 1 ↔ n < Int.pow 2 63 := ⟨Int.lt_of_le_sub_one, Int.le_sub_one_of_lt⟩
  rw [int64?, integerWithin?, integer?_ofInt, Option.filter_some]
  simp only [Bool.and_eq_true, decide_eq_true_eq, hbounds]
  split <;> rfl

end Content

/-! ## Values of JSON -/

namespace Json

mutual

/-- **The values that can be kept** are the sound ones. -/
theorem isSome_content? (depth : Nat) (n : Node) : (n.content? depth).isSome = n.isSound depth := by
  cases n with
  | array items closed =>
      cases depth with
      | zero => rfl
      | succ depth =>
          rw [Node.content?, Node.isSound, ← isSome_contents? depth items]
          cases closed <;> simp
  | object members closed =>
      cases depth with
      | zero => rfl
      | succ depth =>
          rw [Node.content?, Node.isSound, ← isSome_memberContents? depth members]
          cases closed <;> simp
  | number l => simp [Node.content?, Node.isSound]
  | string s => simp [Node.content?, Node.isSound]
  | _ => simp [Node.content?, Node.isSound]

theorem isSome_contents? (depth : Nat) (vs : List Node) : (contents? depth vs).isSome = allSound depth vs := by
  cases vs with
  | nil => rfl
  | cons v vs =>
      rw [contents?, allSound, ← isSome_content? depth v, ← isSome_contents? depth vs]
      cases v.content? depth <;> cases contents? depth vs <;> rfl

theorem isSome_memberContents? (depth : Nat) (ms : List (Option String × Node)) :
    (memberContents? depth ms).isSome = membersSound depth ms := by
  cases ms with
  | nil => rfl
  | cons m ms =>
      obtain ⟨k, v⟩ := m
      rw [memberContents?, membersSound, ← isSome_content? depth v, ← isSome_memberContents? depth ms]
      cases k <;> cases v.content? depth <;> cases memberContents? depth ms <;> rfl

end

variable {depth : Nat} {c : Content}

/-- An array is kept as a list. -/
theorem exists_list_of_content? {items : List Node} {closed : Bool}
    (h : (Node.array items closed).content? depth = some c) : ∃ l, c = .list l := by
  cases depth with
  | zero => exact nomatch h
  | succ depth =>
      rw [Node.content?, Option.ite_none_right_eq_some, Option.map_eq_some_iff] at h
      obtain ⟨-, l, -, rfl⟩ := h
      exact ⟨l, rfl⟩

/-- An object is kept as a map. -/
theorem exists_map_of_content? {members : List (Option String × Node)} {closed : Bool}
    (h : (Node.object members closed).content? depth = some c) : ∃ l, c = .map l := by
  cases depth with
  | zero => exact nomatch h
  | succ depth =>
      rw [Node.content?, Option.ite_none_right_eq_some, Option.map_eq_some_iff] at h
      obtain ⟨-, l, -, rfl⟩ := h
      exact ⟨l, rfl⟩

end Json

/-! ## Values of TOML -/

namespace Toml

open Assoc (field?)

variable {α : Type} {entries : Entries} {fields : List String} {v : Value}

theorem contents_eq_map (vs : List Value) : contents vs = vs.map Value.content := by
  induction vs with
  | nil => rfl
  | cons v vs ih => rw [contents, List.map_cons, ih]

theorem entryContents_eq_map (es : Entries) : entryContents es = es.map (Prod.map id Value.content) := by
  induction es with
  | nil => rfl
  | cons e es ih => rw [entryContents, List.map_cons, ih]; rfl

theorem bool?_content (v : Value) : v.content.bool? = boolean? v := by
  cases v <;> rfl

theorem string?_content (v : Value) : v.content.string? = text? v := by
  cases v <;> rfl

theorem integerWithin?_content (least greatest : Int) (v : Value) :
    v.content.integerWithin? least greatest = integerWithin? least greatest v := by
  cases v with
  | integer n =>
      rw [Value.content, Content.integerWithin?, Content.integer?, integerWithin?, Option.filter_some]
  | _ => rfl

theorem natural?_content (bits : Nat) (v : Value) : v.content.natural? bits = natural? bits v := by
  rw [Content.natural?, integerWithin?_content, natural?]

theorem entries?_content (v : Value) : v.content.entries? = v.entries?.map entryContents := by
  cases v <;> rfl

/-- The value is an array with items that belong to no field. -/
def Value.HasSurplus (fields : List String) (v : Value) : Prop :=
  ∃ items, v = .array items ∧ fields.length < items.length

/-- **A record that was kept** has the entries that it had. -/
theorem record?_content_of_fits (h : ¬ v.HasSurplus fields) :
    v.content.record? fields = (v.record? fields).map entryContents := by
  cases v with
  | array items =>
      have hlength : ¬ fields.length < items.length := fun hlt => h ⟨items, rfl, hlt⟩
      rw [Value.content, contents_eq_map, Content.record?, List.length_map, if_neg hlength, Value.record?,
        Option.map_some, entryContents_eq_map, List.zip_map_right]
  | _ => rfl

/-- An array with surplus items is no record once it was kept. -/
theorem record?_content_of_surplus (h : v.HasSurplus fields) : v.content.record? fields = none := by
  obtain ⟨items, rfl, hlength⟩ := h
  rw [Value.content, contents_eq_map, Content.record?, List.length_map, if_pos hlength]

theorem lookup_entryContents (es : Entries) (name : String) :
    (entryContents es).lookup name = (es.lookup name).map Value.content := by
  induction es with
  | nil => rfl
  | cons e es ih =>
      obtain ⟨k, v⟩ := e
      rw [entryContents, Assoc.lookup_cons, Assoc.lookup_cons, ih]
      split <;> rfl

/-- **A field that was kept** is read as before, if its value is. -/
theorem field?_kept {kept : List (String × Content)} {name : String}
    (hkept : kept.lookup name = (entries.lookup name).map Value.content) {d' : Content → Option α} {d : Decoder α}
    (h : ∀ v, entries.lookup name = some v → d' v.content = d v) (absent : α) :
    field? kept name d' absent = field? entries name d absent := by
  unfold field?
  rw [hkept]
  cases hlookup : entries.lookup name with
  | none => rfl
  | some v => exact h v hlookup

end Toml

end ItemQuery
