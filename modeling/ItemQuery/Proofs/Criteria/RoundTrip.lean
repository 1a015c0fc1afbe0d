import ItemQuery.Proofs.Criteria.Reading
import ItemQuery.Proofs.Json.Doubles
import ItemQuery.Proofs.Json.Members

/-!
# `Proofs.Criteria.RoundTrip` — criteria are read from what they are written as

Criteria are written with all their fields, each under its own name and in order, and absent values as `null`. Such
an object gives every field of the grammar exactly once, so that it is read field by field. A field is read back
whatever it holds, unless it holds doubles: then they have to be read back, which is said of each by `Rereads`.

## Contents
- `isOption_option_iff`, `isList_map_iff`: optional values and lists.
- `Bounds.reads_toJson_iff`, `Requirements.reads_toJson`, `ModifierCriterion.reads_toJson_iff`,
  `Criteria.reads_toJson_iff`: the records, one in the other.
- `Bounds.isFinite_of_reads`, …, `Criteria.isFinite_of_read`: doubles that were read are finite.
- `Criteria.written_read`: writing and reading criteria changes nothing.
-/

namespace ItemQuery

open Json

variable {α : Type}

/-! ## Values -/

namespace Json

theorem isOption_some_iff {R : Node → α → Prop} {n : Node} {a : α} :
    IsOption R n (some a) ↔ n ≠ .null ∧ R n a := by
  constructor
  · rintro (_ | ⟨hn, ha⟩)
    exact ⟨hn, ha⟩
  · rintro ⟨hn, ha⟩
    exact .given hn ha

/-- An optional value is read from what it is written as if the value is, given that it is not written `null`. -/
theorem isOption_option_iff {R : Node → α → Prop} (hnull : ∀ a, ¬ R .null a) (f : α → Json) (o : Option α) :
    IsOption R (Json.option f o).node o ↔ ∀ a ∈ o, R (f a).node a := by
  cases o with
  | none => exact ⟨fun _ => nofun, fun _ => .null⟩
  | some a =>
      show IsOption R (f a).node (some a) ↔ _
      rw [isOption_some_iff]
      constructor
      · rintro ⟨_, ha⟩ a' ha'
        obtain rfl := Option.some.inj ha'
        exact ha
      · intro ha
        refine ⟨fun hn => hnull a ?_, ha a rfl⟩
        rw [← hn]
        exact ha a rfl

theorem isOption_string (o : Option String) : IsOption IsText (optionString o).node o :=
  (isOption_option_iff (fun _ => nofun) _ o).mpr fun s _ => .mk s

theorem isOption_bool (o : Option Bool) : IsOption IsBool (optionBool o).node o :=
  (isOption_option_iff (fun _ => nofun) _ o).mpr fun b _ => .mk b

theorem isOption_int (o : Option Int64) : IsOption IsInt64 (optionInt o).node o :=
  (isOption_option_iff (fun _ => nofun) _ o).mpr fun n _ => isInt64_ofInt n

theorem isOption_float_iff (o : Option Float) : IsOption IsDouble (optionFloat o).node o ↔ ∀ y ∈ o, Rereads y := by
  rw [optionFloat, isOption_option_iff (fun _ => nofun)]
  exact forall₂_congr fun y _ => (rereads_iff y).symm

/-- A list is read from what it is written as if its items are. -/
theorem isList_map_iff {R : Node → α → Prop} (f : α → Json) (as : List α) :
    IsList R (Json.array (as.map f)).node as ↔ ∀ a ∈ as, R (f a).node a := by
  rw [node, itemNodes_eq_map, List.map_map]
  constructor
  · rintro ⟨hitems⟩
    rwa [List.forall₂_map_left_iff, List.forall₂_same] at hitems
  · intro h
    refine .mk ?_
    rwa [List.forall₂_map_left_iff, List.forall₂_same]

/-- Each item of a list that was read comes from some node. -/
theorem IsList.exists_node {R : Node → α → Prop} {n : Node} {as : List α} (h : IsList R n as) {a : α} (ha : a ∈ as) :
    ∃ v, R v a := by
  obtain ⟨hitems⟩ := h
  induction hitems with
  | nil => exact nomatch ha
  | cons hv _ ih =>
      rcases List.mem_cons.mp ha with rfl | ha
      · exact ⟨_, hv⟩
      · exact ih ha

/-- An optional double of a record that was read is finite. -/
theorem isFinite_part {ρ : Type} {g : Grammar ρ} {n : Node} {x : ρ} (h : g.Reads n x) {names : List String}
    {part : ρ → Option Float} (hs : Slot.double names part ∈ g.slots) :
    ∀ y ∈ part x, Decimal.isFinite y = true := by
  intro y hy
  rcases h.part_cases hs with hnone | ⟨v, hv⟩
  · rw [hnone] at hy
    exact nomatch hy
  · rw [hy] at hv
    exact (isOption_some_iff.mp hv).2.isFinite

end Json

/-! ## Bounds -/

namespace Bounds

/-- The bounds that are given. -/
def toList (b : Bounds α) : List α := b.min.toList ++ b.max.toList

theorem forall_toList_iff (b : Bounds α) (P : α → Prop) :
    (∀ a ∈ b.toList, P a) ↔ (∀ a ∈ b.min, P a) ∧ ∀ a ∈ b.max, P a := by
  simp only [toList, List.forall_mem_append, Option.mem_toList, Option.mem_def]

theorem reads_toJson_iff {d : Decoder α} {R : Node → α → Prop} (h : Decodes d R) (hnull : ∀ a, ¬ R .null a)
    (f : α → Json) (b : Bounds α) :
    (grammar R).Reads (b.toJson f).node b ↔ ∀ a ∈ b.toList, R (f a).node a := by
  have hfull : List.Forall₂ Slot.Named (grammar R).slots
      [(some "min", (Json.option f b.min).node), (some "max", (Json.option f b.max).node)] := by
    simp [grammar, Slot.Named, Slot.of]
  refine (Grammar.reads_iff_of_full (describes h).disjoint_names hfull b).trans ?_
  simp only [grammar, List.forall₂_cons, List.forall₂_nil_left_iff, Slot.reads_of_iff, List.mem_singleton,
    isOption_option_iff hnull, forall_toList_iff, true_and, and_true]

/-- Bounds on integers are always read again. -/
theorem reads_int (b : Bounds Int64) : (grammar IsInt64).Reads (b.toJson intJson).node b :=
  (reads_toJson_iff int64_decodes (fun _ => nofun) intJson b).mpr fun n _ => isInt64_ofInt n

theorem reads_float_iff (b : Bounds Float) :
    (grammar IsDouble).Reads (b.toJson .float).node b ↔ ∀ y ∈ b.toList, Rereads y := by
  rw [reads_toJson_iff float_decodes (fun _ => nofun)]
  exact forall₂_congr fun y _ => (rereads_iff y).symm

/-- Bounds that were read on doubles are finite. -/
theorem isFinite_of_reads {n : Node} {b : Bounds Float} (h : (grammar IsDouble).Reads n b) :
    ∀ y ∈ b.toList, Decimal.isFinite y = true := by
  have hmin := isFinite_part h (List.mem_cons_self : Slot.double ["min"] Bounds.min ∈ _)
  have hmax := isFinite_part h (List.mem_cons_of_mem _ List.mem_cons_self : Slot.double ["max"] Bounds.max ∈ _)
  exact (forall_toList_iff b _).mpr ⟨hmin, hmax⟩

end Bounds

/-! ## Requirements -/

theorem Requirements.reads_toJson (x : Requirements) : grammar.Reads x.toJson.node x := by
  have hfull : List.Forall₂ Slot.Named grammar.slots
      [(some "intelligence", (x.intelligence.toJson intJson).node),
        (some "dexterity", (x.dexterity.toJson intJson).node),
        (some "strength", (x.strength.toJson intJson).node), (some "level", (x.level.toJson intJson).node)] := by
    simp [grammar, Grammar.closed, Slot.Named, Slot.integers, Slot.of]
  refine (Grammar.reads_iff_of_full describes.disjoint_names hfull x).mpr ?_
  simp [grammar, Grammar.closed, Slot.integers, Slot.reads_of_iff, Bounds.reads_int]

/-! ## Modifiers -/

theorem ModifierCriterion.reads_toJson_iff (x : ModifierCriterion) :
    grammar.Reads x.toJson.node x ↔ ∀ y ∈ x.bounds.toList, Rereads y := by
  have hfull : List.Forall₂ Slot.Named grammar.slots
      [(some "name", (Json.string x.name).node), (some "lower", (optionFloat x.lower).node),
        (some "upper", (optionFloat x.upper).node)] := by
    simp [grammar, Grammar.closed, Slot.Named, Slot.double, Slot.of]
  have hname : IsText (Json.string x.name).node x.name := .mk x.name
  refine (Grammar.reads_iff_of_full describes.disjoint_names hfull x).trans ?_
  rw [Bounds.forall_toList_iff]
  simp [grammar, Grammar.closed, Slot.double, Slot.reads_of_iff, hname, isOption_float_iff, bounds]

/-- The bounds of a modifier that was read are finite. -/
theorem ModifierCriterion.isFinite_of_reads {n : Node} {m : ModifierCriterion} (h : grammar.Reads n m) :
    ∀ y ∈ m.bounds.toList, Decimal.isFinite y = true := by
  have hlower : ∀ y ∈ m.lower, Decimal.isFinite y = true :=
    isFinite_part h (by simp [grammar, Grammar.closed] : Slot.double ["lower"] ModifierCriterion.lower ∈ _)
  have hupper : ∀ y ∈ m.upper, Decimal.isFinite y = true :=
    isFinite_part h (by simp [grammar, Grammar.closed] : Slot.double ["upper"] ModifierCriterion.upper ∈ _)
  exact (m.bounds.forall_toList_iff _).mpr ⟨hlower, hupper⟩

/-! ## Criteria -/

namespace Criteria

/-- All bounds on doubles. -/
def floatBounds (x : Criteria) : List (Bounds Float) :=
  [x.price, x.armour, x.evasion, x.energyShield, x.block, x.quality, x.physicalDamage, x.elementalDamage,
    x.criticalStrikeChance, x.attacksPerSecond] ++ x.modifiers.map ModifierCriterion.bounds

/-- All doubles in criteria. -/
def doubles (x : Criteria) : List Float := x.floatBounds.flatMap Bounds.toList

theorem forall_doubles_iff (x : Criteria) (P : Float → Prop) :
    (∀ y ∈ x.doubles, P y) ↔ ∀ b ∈ x.floatBounds, ∀ y ∈ b.toList, P y := List.forall_mem_flatMap

/-- Field by field: only doubles may be read as something else than they were. -/
theorem reads_toJson_iff (x : Criteria) : grammar.Reads x.toJson.node x ↔ ∀ y ∈ x.doubles, Rereads y := by
  refine (Grammar.reads_iff_of_full describes.disjoint_names ?full x).trans ?_
  case full =>
    simp [memberNodes, grammar, Grammar.closed, Slot.Named, Slot.text, Slot.flag, Slot.integer, Slot.integers,
      Slot.doubles, Slot.of]
  rw [forall_doubles_iff]
  simp [memberNodes, grammar, Grammar.closed, floatBounds, Slot.reads_of_iff, Slot.text, Slot.flag, Slot.integer,
    Slot.integers, Slot.doubles, isOption_string, isOption_bool, isOption_int, Bounds.reads_int,
    Bounds.reads_float_iff, Requirements.reads_toJson, isList_map_iff, ModifierCriterion.reads_toJson_iff]

/-- **The doubles of criteria that were read are finite**, because every double that is read is. -/
theorem isFinite_of_read {n : Node} {x : Criteria} (h : read n = .ok x) :
    ∀ y ∈ x.doubles, Decimal.isFinite y = true := by
  have hreads := (describes.decodes n x).mp h
  have hbounds (names : List String) (part : Criteria → Bounds Float)
      (hs : Slot.doubles names part ∈ grammar.slots) : ∀ y ∈ (part x).toList, Decimal.isFinite y = true := by
    rcases hreads.part_cases hs with hempty | ⟨v, hv⟩
    · rw [hempty]
      exact fun _ hy => nomatch hy
    · exact Bounds.isFinite_of_reads hv
  have hmodifiers : ∀ m ∈ x.modifiers, ∀ y ∈ m.bounds.toList, Decimal.isFinite y = true := by
    have hs : Slot.of ["modifiers", "mods"] (IsList ModifierCriterion.grammar.Reads) Criteria.modifiers [] ∈
        grammar.slots := by simp [grammar, Grammar.closed]
    intro m hm
    rcases hreads.part_cases hs with hempty | ⟨v, hv⟩
    · rw [hempty] at hm
      exact nomatch hm
    · obtain ⟨v', hv'⟩ := hv.exists_node hm
      exact ModifierCriterion.isFinite_of_reads hv'
  rw [forall_doubles_iff]
  simp only [floatBounds, List.forall_mem_append, List.forall_mem_cons, List.forall_mem_map]
  refine ⟨⟨hbounds ["price"] price ?_, hbounds ["armour"] armour ?_, hbounds ["evasion"] evasion ?_,
    hbounds ["energy_shield"] energyShield ?_, hbounds ["block"] block ?_, hbounds ["quality"] quality ?_,
    hbounds ["physical_damage"] physicalDamage ?_, hbounds ["elemental_damage"] elementalDamage ?_,
    hbounds ["critical_strike_chance"] criticalStrikeChance ?_,
    hbounds ["attacks_per_second"] attacksPerSecond ?_, nofun⟩, hmodifiers⟩
  all_goals simp [grammar, Grammar.closed]

/-- What is read from the text of criteria is the criteria, exactly if each of their doubles is read as itself. -/
theorem ofText_toJson_iff (x : Criteria) :
    ofText x.toJson.compact = .ok x ↔ ∀ y ∈ x.doubles, Rereads y := by
  rw [ofText, decodeText_compact, describes.decodes, reads_toJson_iff]

/-- **Writing and reading criteria changes nothing.** Criteria whose doubles are finite are read from their own text,
    on the assumption that each finite double of theirs is read from its own text as itself; texts, flags, integers
    and the order of modifiers need no assumption. Criteria that were read from any text are of this kind. -/
theorem written_read :
    (∀ x : Criteria, (∀ y ∈ x.doubles, Decimal.isFinite y = true) →
      (∀ y ∈ x.doubles, Decimal.isFinite y = true → Rereads y) → ofText x.toJson.compact = .ok x) ∧
    ∀ (text : String) (x : Criteria), ofText text = .ok x → ∀ y ∈ x.doubles, Decimal.isFinite y = true := by
  refine ⟨fun x hfinite hformat => ?_, fun text x h => ?_⟩
  · exact (ofText_toJson_iff x).mpr fun y hy => hformat y hy (hfinite y hy)
  · exact isFinite_of_read ((decodeText_eq_ok_iff read text x).mp h).1

/-- Criteria with the extremes of integers, doubles that are written with and without exponent, and a name that needs
    every kind of escape. -/
def extremes : Criteria where
  name := some "\x00\x08\t\n\x0c\r\x1f \"\\\"/\x7f é 😀"
  category := some ""
  verified := some false
  itemLevel := ⟨some Int64.minValue, some Int64.maxValue⟩
  strSockets := some 0
  armour := ⟨some (-0.0), some 5.5⟩
  quality := ⟨none, some 1e16⟩
  modifiers := [⟨"b", some 2, none⟩, ⟨"a", none, none⟩, ⟨"b", some 2, none⟩]

theorem extremes_read :
    (∀ y ∈ extremes.doubles, Decimal.isFinite y = true) ∧ (∀ y ∈ extremes.doubles, Rereads y) ∧
      ofText extremes.toJson.compact = .ok extremes := by
  have hfinite : ∀ y ∈ extremes.doubles, Decimal.isFinite y = true := by decide
  have hdoubles : extremes.doubles = [-0.0, 5.5, 1e16, 2, 2] := rfl
  have hrereads : ∀ y ∈ extremes.doubles, Rereads y := by
    rw [hdoubles]
    simp only [List.forall_mem_cons]
    exact ⟨rfl, rfl, rfl, rfl, rfl, nofun⟩
  exact ⟨hfinite, hrereads, written_read.1 extremes hfinite fun y hy _ => hrereads y hy⟩

end Criteria

end ItemQuery
