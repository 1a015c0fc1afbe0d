import ItemQuery.Predicate.Basic

/-!
# `Criteria.Basic` — what a search asks for

Every criterion is optional and an absent one never constrains the search; the default value of `Criteria`
asks for nothing.

## Contents
- `Bounds`: an optional lower and an optional upper bound.
- `Requirements`, `ModifierCriterion`, `Criteria`.
-/

namespace ItemQuery

/-- An optional lower and an optional upper bound. -/
structure Bounds (α : Type) where
  min : Option α := none
  max : Option α := none
  deriving DecidableEq

namespace Bounds

variable {α β : Type}

/-- Neither bound is given. -/
def isEmpty (b : Bounds α) : Bool := b.min.isNone && b.max.isNone

/-- Both bounds taken through a function. -/
def map (f : α → β) (b : Bounds α) : Bounds β := ⟨b.min.map f, b.max.map f⟩

end Bounds

/-- Bounds on what a character needs to wear an item. -/
structure Requirements where
  intelligence : Bounds Int64 := {}
  dexterity : Bounds Int64 := {}
  strength : Bounds Int64 := {}
  level : Bounds Int64 := {}
  deriving DecidableEq

/-- A modifier that an item has to have, with bounds on its value. -/
structure ModifierCriterion where
  name : String := ""
  lower : Option Float := none
  upper : Option Float := none
  deriving DecidableEq

/-- The bounds as a pair. -/
def ModifierCriterion.bounds (m : ModifierCriterion) : Bounds Float := ⟨m.lower, m.upper⟩

/-- The criteria of an item search. -/
structure Criteria where
  /-- The currency of the price, by its display name. -/
  currencyName : Option String := none
  /-- Bounds on the price; without a currency they mean nothing. -/
  price : Bounds Float := {}
  /-- A part of the item's name, in whatever case. -/
  name : Option String := none
  /-- The category, in the singular or plural. -/
  category : Option String := none
  /-- The exact base type. -/
  typeLine : Option String := none
  league : Option String := none
  corrupted : Option Bool := none
  verified : Option Bool := none
  identified : Option Bool := none
  /-- Whether the item is a support gem. -/
  supported : Option Bool := none
  itemLevel : Bounds Int64 := {}
  socketCount : Bounds Int64 := {}
  requirements : Requirements := {}
  armour : Bounds Float := {}
  evasion : Bounds Float := {}
  energyShield : Bounds Float := {}
  block : Bounds Float := {}
  quality : Bounds Float := {}
  physicalDamage : Bounds Float := {}
  elementalDamage : Bounds Float := {}
  criticalStrikeChance : Bounds Float := {}
  attacksPerSecond : Bounds Float := {}
  /-- Least numbers of sockets by colour. -/
  strSockets : Option Int64 := none
  dexSockets : Option Int64 := none
  intSockets : Option Int64 := none
  otherSockets : Option Int64 := none
  /-- The size of the largest linked group of sockets. -/
  linkCount : Bounds Int64 := {}
  /-- Modifiers, in the order in which they are compiled. -/
  modifiers : List ModifierCriterion := []
  deriving DecidableEq

end ItemQuery
