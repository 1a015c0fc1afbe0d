import ItemQuery.Criteria.Json
import ItemQuery.WebForm.Basic

/-!
# `WebForm.Json` — the web form as JSON

The form is one flat object, and the keys of its single-modifier widget stand among its own. Reading takes two
passes over the object: the first reads the form's own fields and keeps every other member, the second finds
the widget's fields among those that were kept. Members that neither pass wants are ignored.

## Contents
- `ModifierRow.read`, `WebForm.read`, `WebForm.ofText`.
- `ModifierRow.toJson`, `WebForm.toJson`: all fields in order, the widget's between the last quality bound and
  the rows.
-/

namespace ItemQuery

open Json (Decoder RecordField RecordRule ReadError decodeText bool? string? int64? float? option? list?)

/-! ## Modifier rows -/

namespace ModifierRow

def nameField : RecordField (Option String) := .plain "mods_name" (option? string?) none
def lowerField : RecordField (Option Float) := .plain "mods_lower_bound" (option? float?) none
def upperField : RecordField (Option Float) := .plain "mods_upper_bound" (option? float?) none

/-- How a row is read. -/
def rule : RecordRule where
  typeName := "struct ModifierForm"
  fields := [nameField.rule, lowerField.rule, upperField.rule]
  unknown := .skipped
  positional := true
  complete := false

/-- Read a row, or the widget among other members. -/
def read : Decoder ModifierRow := fun n => do
  let entries ← rule.entries n
  return {
    name := ← nameField.get entries
    lower := ← lowerField.get entries
    upper := ← upperField.get entries }

/-- The fields of a row as members. -/
def members (r : ModifierRow) : List (String × Json) :=
  [("mods_name", optionString r.name),
   ("mods_lower_bound", optionFloat r.lower),
   ("mods_upper_bound", optionFloat r.upper)]

/-- A row as an object. -/
def toJson (r : ModifierRow) : Json := .object r.members

end ModifierRow

/-! ## The form -/

namespace WebForm

namespace Fields

def name : RecordField (Option String) := .plain "name" (option? string?) none
def category : RecordField (Option String) := .plain "type" (option? string?) none
def typeLine : RecordField (Option String) := .plain "typeLine" (option? string?) none
def league : RecordField (Option String) := .plain "league" (option? string?) none
def currencyName : RecordField (Option String) := .plain "currency_name" (option? string?) none
def minPrice : RecordField (Option Float) := .plain "min_price" (option? float?) none
def maxPrice : RecordField (Option Float) := .plain "max_price" (option? float?) none
def corrupted : RecordField (Option Bool) := .plain "corrupted" (option? bool?) none
def verified : RecordField (Option Bool) := .plain "verified" (option? bool?) none
def identified : RecordField (Option Bool) := .plain "identified" (option? bool?) none
def supported : RecordField (Option Bool) := .plain "supported" (option? bool?) none
def minItemLevel : RecordField (Option Int64) := .plain "min_ilvl" (option? int64?) none
def maxItemLevel : RecordField (Option Int64) := .plain "max_ilvl" (option? int64?) none
def minSocketCount : RecordField (Option Int64) := .plain "min_socket_number" (option? int64?) none
def maxSocketCount : RecordField (Option Int64) := .plain "max_socket_number" (option? int64?) none
def minLinkCount : RecordField (Option Int64) := .plain "min_link_number" (option? int64?) none
def maxLinkCount : RecordField (Option Int64) := .plain "max_link_number" (option? int64?) none
def strSockets : RecordField (Option Int64) := .plain "str_socket" (option? int64?) none
def dexSockets : RecordField (Option Int64) := .plain "dex_socket" (option? int64?) none
def intSockets : RecordField (Option Int64) := .plain "int_socket" (option? int64?) none
def otherSockets : RecordField (Option Int64) := .plain "other_socket" (option? int64?) none
def minIntelligence : RecordField (Option Int64) := .plain "min_requirements_int" (option? int64?) none
def maxIntelligence : RecordField (Option Int64) := .plain "max_requirements_int" (option? int64?) none
def minDexterity : RecordField (Option Int64) := .plain "min_requirements_dex" (option? int64?) none
def maxDexterity : RecordField (Option Int64) := .plain "max_requirements_dex" (option? int64?) none
def minStrength : RecordField (Option Int64) := .plain "min_requirements_str" (option? int64?) none
def maxStrength : RecordField (Option Int64) := .plain "max_requirements_str" (option? int64?) none
def minLevel : RecordField (Option Int64) := .plain "min_requirements_lvl" (option? int64?) none
def maxLevel : RecordField (Option Int64) := .plain "max_requirements_lvl" (option? int64?) none
def minPhysicalDamage : RecordField (Option Float) := .plain "min_physical_damage" (option? float?) none
def maxPhysicalDamage : RecordField (Option Float) := .plain "max_physical_damage" (option? float?) none
def minElementalDamage : RecordField (Option Float) := .plain "min_elemental_damage" (option? float?) none
def maxElementalDamage : RecordField (Option Float) := .plain "max_elemental_damage" (option? float?) none
def minCriticalStrikeChance : RecordField (Option Float) :=
  .plain "min_critical_strike_chance" (option? float?) none
def maxCriticalStrikeChance : RecordField (Option Float) :=
  .plain "max_critical_strike_chance" (option? float?) none
def minAttacksPerSecond : RecordField (Option Float) := .plain "min_attacks_per_second" (option? float?) none
def maxAttacksPerSecond : RecordField (Option Float) := .plain "max_attacks_per_second" (option? float?) none
def minArmour : RecordField (Option Float) := .plain "min_armour" (option? float?) none
def maxArmour : RecordField (Option Float) := .plain "max_armour" (option? float?) none
def minEvasion : RecordField (Option Float) := .plain "min_evasion" (option? float?) none
def maxEvasion : RecordField (Option Float) := .plain "max_evasion" (option? float?) none
def minEnergyShield : RecordField (Option Float) := .plain "min_shield" (option? float?) none
def maxEnergyShield : RecordField (Option Float) := .plain "max_shield" (option? float?) none
def minBlock : RecordField (Option Float) := .plain "min_block" (option? float?) none
def maxBlock : RecordField (Option Float) := .plain "max_block" (option? float?) none
def minQuality : RecordField (Option Float) := .plain "min_quality" (option? float?) none
def maxQuality : RecordField (Option Float) := .plain "max_quality" (option? float?) none
def rows : RecordField (List ModifierRow) := .plain "Mods_content" (list? ModifierRow.read) []

end Fields

/-- How the form's own fields are read. What is kept lies inside the form's object, which leaves 126 levels
    for arrays and objects. -/
def rule : RecordRule where
  typeName := "struct ItemQueryForm"
  fields := [
    Fields.name.rule, Fields.category.rule, Fields.typeLine.rule, Fields.league.rule,
    Fields.currencyName.rule, Fields.minPrice.rule, Fields.maxPrice.rule, Fields.corrupted.rule,
    Fields.verified.rule, Fields.identified.rule, Fields.supported.rule, Fields.minItemLevel.rule,
    Fields.maxItemLevel.rule, Fields.minSocketCount.rule, Fields.maxSocketCount.rule,
    Fields.minLinkCount.rule, Fields.maxLinkCount.rule, Fields.strSockets.rule,
    Fields.dexSockets.rule, Fields.intSockets.rule, Fields.otherSockets.rule,
    Fields.minIntelligence.rule, Fields.maxIntelligence.rule, Fields.minDexterity.rule,
    Fields.maxDexterity.rule, Fields.minStrength.rule, Fields.maxStrength.rule,
    Fields.minLevel.rule, Fields.maxLevel.rule, Fields.minPhysicalDamage.rule,
    Fields.maxPhysicalDamage.rule, Fields.minElementalDamage.rule, Fields.maxElementalDamage.rule,
    Fields.minCriticalStrikeChance.rule, Fields.maxCriticalStrikeChance.rule,
    Fields.minAttacksPerSecond.rule, Fields.maxAttacksPerSecond.rule, Fields.minArmour.rule,
    Fields.maxArmour.rule, Fields.minEvasion.rule, Fields.maxEvasion.rule,
    Fields.minEnergyShield.rule, Fields.maxEnergyShield.rule, Fields.minBlock.rule,
    Fields.maxBlock.rule, Fields.minQuality.rule, Fields.maxQuality.rule, Fields.rows.rule]
  unknown := .kept 126
  positional := false
  complete := false

/-- Read a form. -/
def read : Decoder WebForm := fun n => do
  let entries ← rule.entries n
  let widget ← ModifierRow.read n
  return {
    name := ← Fields.name.get entries
    category := ← Fields.category.get entries
    typeLine := ← Fields.typeLine.get entries
    league := ← Fields.league.get entries
    currencyName := ← Fields.currencyName.get entries
    minPrice := ← Fields.minPrice.get entries
    maxPrice := ← Fields.maxPrice.get entries
    corrupted := ← Fields.corrupted.get entries
    verified := ← Fields.verified.get entries
    identified := ← Fields.identified.get entries
    supported := ← Fields.supported.get entries
    minItemLevel := ← Fields.minItemLevel.get entries
    maxItemLevel := ← Fields.maxItemLevel.get entries
    minSocketCount := ← Fields.minSocketCount.get entries
    maxSocketCount := ← Fields.maxSocketCount.get entries
    minLinkCount := ← Fields.minLinkCount.get entries
    maxLinkCount := ← Fields.maxLinkCount.get entries
    strSockets := ← Fields.strSockets.get entries
    dexSockets := ← Fields.dexSockets.get entries
    intSockets := ← Fields.intSockets.get entries
    otherSockets := ← Fields.otherSockets.get entries
    minIntelligence := ← Fields.minIntelligence.get entries
    maxIntelligence := ← Fields.maxIntelligence.get entries
    minDexterity := ← Fields.minDexterity.get entries
    maxDexterity := ← Fields.maxDexterity.get entries
    minStrength := ← Fields.minStrength.get entries
    maxStrength := ← Fields.maxStrength.get entries
    minLevel := ← Fields.minLevel.get entries
    maxLevel := ← Fields.maxLevel.get entries
    minPhysicalDamage := ← Fields.minPhysicalDamage.get entries
    maxPhysicalDamage := ← Fields.maxPhysicalDamage.get entries
    minElementalDamage := ← Fields.minElementalDamage.get entries
    maxElementalDamage := ← Fields.maxElementalDamage.get entries
    minCriticalStrikeChance := ← Fields.minCriticalStrikeChance.get entries
    maxCriticalStrikeChance := ← Fields.maxCriticalStrikeChance.get entries
    minAttacksPerSecond := ← Fields.minAttacksPerSecond.get entries
    maxAttacksPerSecond := ← Fields.maxAttacksPerSecond.get entries
    minArmour := ← Fields.minArmour.get entries
    maxArmour := ← Fields.maxArmour.get entries
    minEvasion := ← Fields.minEvasion.get entries
    maxEvasion := ← Fields.maxEvasion.get entries
    minEnergyShield := ← Fields.minEnergyShield.get entries
    maxEnergyShield := ← Fields.maxEnergyShield.get entries
    minBlock := ← Fields.minBlock.get entries
    maxBlock := ← Fields.maxBlock.get entries
    minQuality := ← Fields.minQuality.get entries
    maxQuality := ← Fields.maxQuality.get entries
    modifier := widget
    rows := ← Fields.rows.get entries }

/-- The form as an object. -/
def toJson (x : WebForm) : Json :=
  .object (
    [("name", optionString x.name),
     ("type", optionString x.category),
     ("typeLine", optionString x.typeLine),
     ("league", optionString x.league),
     ("currency_name", optionString x.currencyName),
     ("min_price", optionFloat x.minPrice),
     ("max_price", optionFloat x.maxPrice),
     ("corrupted", optionBool x.corrupted),
     ("verified", optionBool x.verified),
     ("identified", optionBool x.identified),
     ("supported", optionBool x.supported),
     ("min_ilvl", optionInt x.minItemLevel),
     ("max_ilvl", optionInt x.maxItemLevel),
     ("min_socket_number", optionInt x.minSocketCount),
     ("max_socket_number", optionInt x.maxSocketCount),
     ("min_link_number", optionInt x.minLinkCount),
     ("max_link_number", optionInt x.maxLinkCount),
     ("str_socket", optionInt x.strSockets),
     ("dex_socket", optionInt x.dexSockets),
     ("int_socket", optionInt x.intSockets),
     ("other_socket", optionInt x.otherSockets),
     ("min_requirements_int", optionInt x.minIntelligence),
     ("max_requirements_int", optionInt x.maxIntelligence),
     ("min_requirements_dex", optionInt x.minDexterity),
     ("max_requirements_dex", optionInt x.maxDexterity),
     ("min_requirements_str", optionInt x.minStrength),
     ("max_requirements_str", optionInt x.maxStrength),
     ("min_requirements_lvl", optionInt x.minLevel),
     ("max_requirements_lvl", optionInt x.maxLevel),
     ("min_physical_damage", optionFloat x.minPhysicalDamage),
     ("max_physical_damage", optionFloat x.maxPhysicalDamage),
     ("min_elemental_damage", optionFloat x.minElementalDamage),
     ("max_elemental_damage", optionFloat x.maxElementalDamage),
     ("min_critical_strike_chance", optionFloat x.minCriticalStrikeChance),
     ("max_critical_strike_chance", optionFloat x.maxCriticalStrikeChance),
     ("min_attacks_per_second", optionFloat x.minAttacksPerSecond),
     ("max_attacks_per_second", optionFloat x.maxAttacksPerSecond),
     ("min_armour", optionFloat x.minArmour),
     ("max_armour", optionFloat x.maxArmour),
     ("min_evasion", optionFloat x.minEvasion),
     ("max_evasion", optionFloat x.maxEvasion),
     ("min_shield", optionFloat x.minEnergyShield),
     ("max_shield", optionFloat x.maxEnergyShield),
     ("min_block", optionFloat x.minBlock),
     ("max_block", optionFloat x.maxBlock),
     ("min_quality", optionFloat x.minQuality),
     ("max_quality", optionFloat x.maxQuality)] ++
    x.modifier.members ++
    [("Mods_content", .array (x.rows.map ModifierRow.toJson))])

/-- Read a form from a text. -/
def ofText (text : String) : Except ReadError WebForm := decodeText read text

end WebForm

end ItemQuery
