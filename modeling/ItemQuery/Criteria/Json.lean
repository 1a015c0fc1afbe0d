import ItemQuery.Criteria.Basic
import ItemQuery.Json.Decode

/-!
# `Criteria.Json` — criteria as JSON

Criteria are one object with a member for each field; all may be left out, and only fields that are known may
be given. Some fields answer to a second name. Bounds ignore members they do not know, the other records
refuse them. Records inside may also be given as arrays of their fields.

## Contents
- `Bounds.read`, `Requirements.read`, `ModifierCriterion.read`, `Criteria.read`.
- `Bounds.toJson`, …, `Criteria.toJson`: all fields in order, absent values as `null`.
- `Criteria.ofText`: criteria from a text.
-/

namespace ItemQuery

open Json (Decoder RecordField RecordRule ReadError decodeText bool? string? int64? float? option? list?)

/-! ## Values -/

/-- A signed integer. -/
def intJson (n : Int64) : Json := .int n.toInt

/-- An integer or `null`. -/
def optionInt : Option Int64 → Json := Json.option intJson

/-- A double or `null`. -/
def optionFloat : Option Float → Json := Json.option .float

/-- A boolean or `null`. -/
def optionBool : Option Bool → Json := Json.option .bool

/-- A string or `null`. -/
def optionString : Option String → Json := Json.option .string

/-! ## Bounds -/

namespace Bounds

variable {α : Type}

/-- The lower bound as a field. -/
def minField (d : Decoder α) : RecordField (Option α) := .plain "min" (option? d) none

/-- The upper bound as a field. -/
def maxField (d : Decoder α) : RecordField (Option α) := .plain "max" (option? d) none

/-- How bounds are read: as an array they have to be two. -/
def rule (d : Decoder α) : RecordRule where
  typeName := "struct Bounds"
  fields := [(minField d).rule, (maxField d).rule]
  unknown := .skipped
  positional := true
  complete := true

/-- Read bounds on what `d` reads. -/
def read (d : Decoder α) : Decoder (Bounds α) := fun n => do
  let entries ← (rule d).entries n
  return { min := ← (minField d).get entries, max := ← (maxField d).get entries }

/-- Both bounds as an object. -/
def toJson (f : α → Json) (b : Bounds α) : Json :=
  .object [("min", Json.option f b.min), ("max", Json.option f b.max)]

end Bounds

/-! ## Requirements -/

namespace Requirements

/-- One of the four as a field with a short name. -/
def field (name : String) (names : List String) : RecordField (Bounds Int64) :=
  ⟨name, names, Bounds.read int64?, {}⟩

def intelligenceField : RecordField (Bounds Int64) := field "intelligence" ["int", "intelligence"]
def dexterityField : RecordField (Bounds Int64) := field "dexterity" ["dex", "dexterity"]
def strengthField : RecordField (Bounds Int64) := field "strength" ["str", "strength"]
def levelField : RecordField (Bounds Int64) := field "level" ["level", "lvl"]

/-- How requirements are read. -/
def rule : RecordRule where
  typeName := "struct Requirements"
  fields := [intelligenceField.rule, dexterityField.rule, strengthField.rule, levelField.rule]
  unknown := .refused
  positional := true
  complete := false

/-- Read requirements. -/
def read : Decoder Requirements := fun n => do
  let entries ← rule.entries n
  return {
    intelligence := ← intelligenceField.get entries
    dexterity := ← dexterityField.get entries
    strength := ← strengthField.get entries
    level := ← levelField.get entries }

/-- Requirements as an object. -/
def toJson (x : Requirements) : Json :=
  .object
    [("intelligence", x.intelligence.toJson intJson),
     ("dexterity", x.dexterity.toJson intJson),
     ("strength", x.strength.toJson intJson),
     ("level", x.level.toJson intJson)]

end Requirements

/-! ## Modifiers -/

namespace ModifierCriterion

def nameField : RecordField String := .plain "name" string? ""
def lowerField : RecordField (Option Float) := .plain "lower" (option? float?) none
def upperField : RecordField (Option Float) := .plain "upper" (option? float?) none

/-- How a modifier is read. -/
def rule : RecordRule where
  typeName := "struct ModifierFilter"
  fields := [nameField.rule, lowerField.rule, upperField.rule]
  unknown := .refused
  positional := true
  complete := false

/-- Read a modifier. -/
def read : Decoder ModifierCriterion := fun n => do
  let entries ← rule.entries n
  return {
    name := ← nameField.get entries
    lower := ← lowerField.get entries
    upper := ← upperField.get entries }

/-- A modifier as an object. -/
def toJson (x : ModifierCriterion) : Json :=
  .object [("name", .string x.name), ("lower", optionFloat x.lower), ("upper", optionFloat x.upper)]

end ModifierCriterion

/-! ## Criteria -/

namespace Criteria

namespace Fields

def currencyName : RecordField (Option String) := .plain "currency_name" (option? string?) none
def price : RecordField (Bounds Float) := .plain "price" (Bounds.read float?) {}
def name : RecordField (Option String) := .plain "name" (option? string?) none
def category : RecordField (Option String) := ⟨"type", ["item_type", "type"], option? string?, none⟩
def typeLine : RecordField (Option String) := ⟨"typeLine", ["typeLine", "type_line"], option? string?, none⟩
def league : RecordField (Option String) := .plain "league" (option? string?) none
def corrupted : RecordField (Option Bool) := .plain "corrupted" (option? bool?) none
def verified : RecordField (Option Bool) := .plain "verified" (option? bool?) none
def identified : RecordField (Option Bool) := .plain "identified" (option? bool?) none
def supported : RecordField (Option Bool) := .plain "supported" (option? bool?) none
def itemLevel : RecordField (Bounds Int64) := ⟨"item_level", ["ilvl", "item_level"], Bounds.read int64?, {}⟩
def socketCount : RecordField (Bounds Int64) := .plain "socket_count" (Bounds.read int64?) {}
def requirements : RecordField Requirements := .plain "requirements" Requirements.read {}
def armour : RecordField (Bounds Float) := .plain "armour" (Bounds.read float?) {}
def evasion : RecordField (Bounds Float) := .plain "evasion" (Bounds.read float?) {}
def energyShield : RecordField (Bounds Float) := .plain "energy_shield" (Bounds.read float?) {}
def block : RecordField (Bounds Float) := .plain "block" (Bounds.read float?) {}
def quality : RecordField (Bounds Float) := .plain "quality" (Bounds.read float?) {}
def physicalDamage : RecordField (Bounds Float) := .plain "physical_damage" (Bounds.read float?) {}
def elementalDamage : RecordField (Bounds Float) := .plain "elemental_damage" (Bounds.read float?) {}
def criticalStrikeChance : RecordField (Bounds Float) :=
  .plain "critical_strike_chance" (Bounds.read float?) {}
def attacksPerSecond : RecordField (Bounds Float) := .plain "attacks_per_second" (Bounds.read float?) {}
def strSockets : RecordField (Option Int64) := .plain "str_sockets" (option? int64?) none
def dexSockets : RecordField (Option Int64) := .plain "dex_sockets" (option? int64?) none
def intSockets : RecordField (Option Int64) := .plain "int_sockets" (option? int64?) none
def otherSockets : RecordField (Option Int64) := .plain "other_sockets" (option? int64?) none
def linkCount : RecordField (Bounds Int64) := .plain "link_count" (Bounds.read int64?) {}
def modifiers : RecordField (List ModifierCriterion) :=
  ⟨"modifiers", ["modifiers", "mods"], list? ModifierCriterion.read, []⟩

end Fields

/-- How criteria are read. -/
def rule : RecordRule where
  typeName := "struct FilterInput"
  fields := [
    Fields.currencyName.rule, Fields.price.rule, Fields.name.rule, Fields.category.rule,
    Fields.typeLine.rule, Fields.league.rule, Fields.corrupted.rule, Fields.verified.rule,
    Fields.identified.rule, Fields.supported.rule, Fields.itemLevel.rule, Fields.socketCount.rule,
    Fields.requirements.rule, Fields.armour.rule, Fields.evasion.rule, Fields.energyShield.rule,
    Fields.block.rule, Fields.quality.rule, Fields.physicalDamage.rule,
    Fields.elementalDamage.rule, Fields.criticalStrikeChance.rule, Fields.attacksPerSecond.rule,
    Fields.strSockets.rule, Fields.dexSockets.rule, Fields.intSockets.rule,
    Fields.otherSockets.rule, Fields.linkCount.rule, Fields.modifiers.rule]
  unknown := .refused
  positional := true
  complete := false

/-- Read criteria. -/
def read : Decoder Criteria := fun n => do
  let entries ← rule.entries n
  return {
    currencyName := ← Fields.currencyName.get entries
    price := ← Fields.price.get entries
    name := ← Fields.name.get entries
    category := ← Fields.category.get entries
    typeLine := ← Fields.typeLine.get entries
    league := ← Fields.league.get entries
    corrupted := ← Fields.corrupted.get entries
    verified := ← Fields.verified.get entries
    identified := ← Fields.identified.get entries
    supported := ← Fields.supported.get entries
    itemLevel := ← Fields.itemLevel.get entries
    socketCount := ← Fields.socketCount.get entries
    requirements := ← Fields.requirements.get entries
    armour := ← Fields.armour.get entries
    evasion := ← Fields.evasion.get entries
    energyShield := ← Fields.energyShield.get entries
    block := ← Fields.block.get entries
    quality := ← Fields.quality.get entries
    physicalDamage := ← Fields.physicalDamage.get entries
    elementalDamage := ← Fields.elementalDamage.get entries
    criticalStrikeChance := ← Fields.criticalStrikeChance.get entries
    attacksPerSecond := ← Fields.attacksPerSecond.get entries
    strSockets := ← Fields.strSockets.get entries
    dexSockets := ← Fields.dexSockets.get entries
    intSockets := ← Fields.intSockets.get entries
    otherSockets := ← Fields.otherSockets.get entries
    linkCount := ← Fields.linkCount.get entries
    modifiers := ← Fields.modifiers.get entries }

/-- Criteria as an object. -/
def toJson (x : Criteria) : Json :=
  .object
    [("currency_name", optionString x.currencyName),
     ("price", x.price.toJson .float),
     ("name", optionString x.name),
     ("type", optionString x.category),
     ("typeLine", optionString x.typeLine),
     ("league", optionString x.league),
     ("corrupted", optionBool x.corrupted),
     ("verified", optionBool x.verified),
     ("identified", optionBool x.identified),
     ("supported", optionBool x.supported),
     ("item_level", x.itemLevel.toJson intJson),
     ("socket_count", x.socketCount.toJson intJson),
     ("requirements", x.requirements.toJson),
     ("armour", x.armour.toJson .float),
     ("evasion", x.evasion.toJson .float),
     ("energy_shield", x.energyShield.toJson .float),
     ("block", x.block.toJson .float),
     ("quality", x.quality.toJson .float),
     ("physical_damage", x.physicalDamage.toJson .float),
     ("elemental_damage", x.elementalDamage.toJson .float),
     ("critical_strike_chance", x.criticalStrikeChance.toJson .float),
     ("attacks_per_second", x.attacksPerSecond.toJson .float),
     ("str_sockets", optionInt x.strSockets),
     ("dex_sockets", optionInt x.dexSockets),
     ("int_sockets", optionInt x.intSockets),
     ("other_sockets", optionInt x.otherSockets),
     ("link_count", x.linkCount.toJson intJson),
     ("modifiers", .array (x.modifiers.map ModifierCriterion.toJson))]

/-- Read criteria from a text. -/
def ofText (text : String) : Except ReadError Criteria := decodeText read text

end Criteria

end ItemQuery
