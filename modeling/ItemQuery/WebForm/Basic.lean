import ItemQuery.Criteria.Basic
import ItemQuery.Text.Blank

/-!
# `WebForm.Basic` — the search form of the web client

The web client posts one flat record with a key for each widget, a widget for a single modifier, and a list
of further modifier rows. A text that is blank counts as not given, like a text box that is left empty.

## Contents
- `ModifierRow`, `WebForm`.
- `nonBlank`: a given text that is not blank.
- `ModifierRow.criterion`: the modifier that a row asks for, if it names one.
- `WebForm.criteria`: the criteria of a form.
-/

namespace ItemQuery

/-- A row of the form that asks for a modifier. -/
structure ModifierRow where
  name : Option String := none
  lower : Option Float := none
  upper : Option Float := none
  deriving DecidableEq

/-- The search form. -/
structure WebForm where
  name : Option String := none
  category : Option String := none
  typeLine : Option String := none
  league : Option String := none
  currencyName : Option String := none
  minPrice : Option Float := none
  maxPrice : Option Float := none
  corrupted : Option Bool := none
  verified : Option Bool := none
  identified : Option Bool := none
  supported : Option Bool := none
  minItemLevel : Option Int64 := none
  maxItemLevel : Option Int64 := none
  minSocketCount : Option Int64 := none
  maxSocketCount : Option Int64 := none
  minLinkCount : Option Int64 := none
  maxLinkCount : Option Int64 := none
  strSockets : Option Int64 := none
  dexSockets : Option Int64 := none
  intSockets : Option Int64 := none
  otherSockets : Option Int64 := none
  minIntelligence : Option Int64 := none
  maxIntelligence : Option Int64 := none
  minDexterity : Option Int64 := none
  maxDexterity : Option Int64 := none
  minStrength : Option Int64 := none
  maxStrength : Option Int64 := none
  minLevel : Option Int64 := none
  maxLevel : Option Int64 := none
  minPhysicalDamage : Option Float := none
  maxPhysicalDamage : Option Float := none
  minElementalDamage : Option Float := none
  maxElementalDamage : Option Float := none
  minCriticalStrikeChance : Option Float := none
  maxCriticalStrikeChance : Option Float := none
  minAttacksPerSecond : Option Float := none
  maxAttacksPerSecond : Option Float := none
  minArmour : Option Float := none
  maxArmour : Option Float := none
  minEvasion : Option Float := none
  maxEvasion : Option Float := none
  minEnergyShield : Option Float := none
  maxEnergyShield : Option Float := none
  minBlock : Option Float := none
  maxBlock : Option Float := none
  minQuality : Option Float := none
  maxQuality : Option Float := none
  /-- The widget for a single modifier. -/
  modifier : ModifierRow := {}
  /-- Further modifier rows. -/
  rows : List ModifierRow := []
  deriving DecidableEq

/-- A given text, unless it is blank. -/
def nonBlank (s : Option String) : Option String := s.filter fun s => !Text.isBlank s

/-- The modifier that a row asks for; a row without a name asks for none. -/
def ModifierRow.criterion (r : ModifierRow) : Option ModifierCriterion :=
  (nonBlank r.name).map fun name => ⟨name, r.lower, r.upper⟩

/-- The criteria of a form: its pairs of bounds put together, blank texts dropped, and the modifiers of the
    widget and the rows in order. -/
def WebForm.criteria (f : WebForm) : Criteria where
  currencyName := nonBlank f.currencyName
  price := ⟨f.minPrice, f.maxPrice⟩
  name := nonBlank f.name
  category := nonBlank f.category
  typeLine := nonBlank f.typeLine
  league := nonBlank f.league
  corrupted := f.corrupted
  verified := f.verified
  identified := f.identified
  supported := f.supported
  itemLevel := ⟨f.minItemLevel, f.maxItemLevel⟩
  socketCount := ⟨f.minSocketCount, f.maxSocketCount⟩
  requirements := {
    intelligence := ⟨f.minIntelligence, f.maxIntelligence⟩
    dexterity := ⟨f.minDexterity, f.maxDexterity⟩
    strength := ⟨f.minStrength, f.maxStrength⟩
    level := ⟨f.minLevel, f.maxLevel⟩ }
  armour := ⟨f.minArmour, f.maxArmour⟩
  evasion := ⟨f.minEvasion, f.maxEvasion⟩
  energyShield := ⟨f.minEnergyShield, f.maxEnergyShield⟩
  block := ⟨f.minBlock, f.maxBlock⟩
  quality := ⟨f.minQuality, f.maxQuality⟩
  physicalDamage := ⟨f.minPhysicalDamage, f.maxPhysicalDamage⟩
  elementalDamage := ⟨f.minElementalDamage, f.maxElementalDamage⟩
  criticalStrikeChance := ⟨f.minCriticalStrikeChance, f.maxCriticalStrikeChance⟩
  attacksPerSecond := ⟨f.minAttacksPerSecond, f.maxAttacksPerSecond⟩
  strSockets := f.strSockets
  dexSockets := f.dexSockets
  intSockets := f.intSockets
  otherSockets := f.otherSockets
  linkCount := ⟨f.minLinkCount, f.maxLinkCount⟩
  modifiers := (f.modifier :: f.rows).filterMap ModifierRow.criterion

end ItemQuery
