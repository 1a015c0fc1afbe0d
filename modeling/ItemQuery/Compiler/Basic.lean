import ItemQuery.Category
import ItemQuery.Criteria.Basic
import ItemQuery.Currency.Table
import ItemQuery.Predicate.Display

/-!
# `Compiler.Basic` — from criteria to predicates

Compiling is a walk over a fixed list of steps, one for each criterion and one for each modifier. A step
looks at its own criterion only: it contributes no predicate or one, or it refuses. The predicates of all
steps in order are the result; the first refusal is the fault. The order of the steps is part of the
contract, because results are shown and compared as lists.

Two rules are kept for the searches that users have saved: a derived quantity with both bounds asks for at
least their mean, and a link count with both bounds asks for exactly the lower one.

## Contents
- `Options`, `Compiler`.
- `rangeCondition`, `derivedCondition`, `linkMembers`: what bounds ask for.
- `Compiler.steps`: the steps; `Compiler.compile`: their result.
-/

namespace ItemQuery

/-- How strictly criteria are taken. -/
structure Options where
  /-- Whether bounds in the wrong order are refused. -/
  strictRanges : Bool := false
  /-- The greatest length of a modifier name, in characters. -/
  nameLimit : Nat := defaultNameLimit
  deriving DecidableEq

/-- All that compiling depends on beside the criteria. -/
structure Compiler where
  currencies : Currency.Table := Currency.Table.builtin
  options : Options := {}

/-- What a single criterion leads to. -/
abbrev Step := Except Fault (List Predicate)

/-! ## Bounds -/

/-- Bounds as a condition: a closed range, or one side of it. -/
def rangeCondition (b : Bounds Operand) : Option Condition :=
  match b.min, b.max with
  | some lo, some hi => some (.between lo hi)
  | some lo, none => some (.atLeast lo)
  | none, some hi => some (.atMost hi)
  | none, none => none

/-- Bounds on a derived quantity: two bounds stand for their mean as the least value. Each is halved before
    they are added, so that two large ones stay finite. -/
def derivedCondition (b : Bounds Float) : Option Condition :=
  match b.min, b.max with
  | some lo, some hi => some (.atLeast (.ofFloat (lo / 2.0 + hi / 2.0)))
  | some lo, none => some (.atLeast (.ofFloat lo))
  | none, some hi => some (.atMost (.ofFloat hi))
  | none, none => none

/-- The sizes that a linked group can have. -/
def linkSizes : List Int64 := [0, 1, 2, 3, 4, 5, 6]

/-- The sizes that bounds on the link count select: the lower bound itself if both are given, the sizes from
    the lower bound on, or the sizes below the upper bound. -/
def linkMembers (b : Bounds Int64) : Option (List Int64) :=
  match b.min, b.max with
  | some lo, some _ => some [lo]
  | some lo, none => some (linkSizes.filter (lo ≤ ·))
  | none, some hi => some (linkSizes.filter (· < hi))
  | none, none => none

/-! ## Criteria by group -/

/-- A pair of bounds: the name it has in messages, its path, and the bounds. -/
structure RangeRow where
  field : String
  path : String
  bounds : Bounds Operand

/-- A pair of bounds on a derived quantity. -/
structure DerivedRow where
  field : String
  path : String
  bounds : Bounds Float

/-- The criteria on texts and flags. A flag constrains only if it is set. -/
def Criteria.labels (x : Criteria) : List (String × Option Condition) :=
  let flag (b : Option Bool) := if b = some true then some (Condition.equals (.bool true)) else none
  [("name", x.name.map .contains),
   ("type", x.category.map fun s => .equals (.text (pluralize s))),
   ("typeLine", x.typeLine.map fun s => .equals (.text s)),
   ("league", x.league.map fun s => .equals (.text s)),
   ("corrupted", flag x.corrupted),
   ("verified", flag x.verified),
   ("identified", flag x.identified),
   ("support", flag x.supported)]

/-- The criteria with a closed range. -/
def Criteria.ranges (x : Criteria) : List RangeRow :=
  [⟨"item_level", "ilvl", x.itemLevel.map .int⟩,
   ⟨"socket_count", "sockets.socket_number", x.socketCount.map .int⟩,
   ⟨"requirements.intelligence", "requirements.Int", x.requirements.intelligence.map .int⟩,
   ⟨"requirements.dexterity", "requirements.Dex", x.requirements.dexterity.map .int⟩,
   ⟨"requirements.strength", "requirements.Str", x.requirements.strength.map .int⟩,
   ⟨"requirements.level", "requirements.Level", x.requirements.level.map .int⟩,
   ⟨"armour", "properties.Armour", x.armour.map .ofFloat⟩,
   ⟨"evasion", "properties.Evasion Rating", x.evasion.map .ofFloat⟩,
   ⟨"energy_shield", "properties.Energy Shield", x.energyShield.map .ofFloat⟩,
   ⟨"block", "properties.Chance to Block", x.block.map .ofFloat⟩,
   ⟨"quality", "properties.Quality", x.quality.map .ofFloat⟩]

/-- The criteria on derived quantities. -/
def Criteria.derived (x : Criteria) : List DerivedRow :=
  [⟨"physical_damage", "properties.Physical Damage", x.physicalDamage⟩,
   ⟨"elemental_damage", "properties.Elemental Damage", x.elementalDamage⟩,
   ⟨"critical_strike_chance", "properties.Critical Strike Chance", x.criticalStrikeChance⟩,
   ⟨"attacks_per_second", "properties.Attacks per Second", x.attacksPerSecond⟩]

/-- The least numbers of sockets by colour. -/
def Criteria.sockets (x : Criteria) : List (String × Option Condition) :=
  [("sockets.S", x.strSockets.map fun n => .atLeast (.int n)),
   ("sockets.D", x.dexSockets.map fun n => .atLeast (.int n)),
   ("sockets.I", x.intSockets.map fun n => .atLeast (.int n)),
   ("sockets.Other", x.otherSockets.map fun n => .atLeast (.int n))]

/-! ## Steps -/

/-- No predicate, or one on a path of the fixed layout. -/
def contribution (path : String) (condition : Option Condition) : List Predicate :=
  (condition.map (Predicate.on path)).toList

namespace Compiler

/-- Refuse inverted bounds if ranges are strict; else go on with the given predicates. -/
def checked (c : Compiler) (field : String) (b : Bounds Operand) (ps : List Predicate) : Step :=
  match b.min, b.max with
  | some lo, some hi =>
    if c.options.strictRanges && hi.below lo then
      .error (.invertedRange field lo.display hi.display)
    else .ok ps
  | _, _ => .ok ps

/-- The currency, which anchors the price if that has bounds. Without a currency the price is not looked
    at. -/
def price (c : Compiler) (x : Criteria) : Step :=
  match x.currencyName with
  | none => .ok []
  | some name => do
    let code ← c.currencies.resolve name
    let currency : Clause := ⟨⟨"Price.Currency"⟩, .equals (.text code)⟩
    let bounds := x.price.map Operand.ofFloat
    c.checked "price" bounds
      [match rangeCondition bounds with
        | some condition => ⟨some currency, ⟨⟨"Price.Number"⟩, condition⟩⟩
        | none => ⟨none, currency⟩]

/-- A modifier: present, or within its bounds. -/
def modifier (c : Compiler) (m : ModifierCriterion) : Step := do
  let path ← Path.within modifierSpace m.name c.options.nameLimit
  let bounds := m.bounds.map Operand.ofFloat
  c.checked "modifier" bounds [⟨none, ⟨path, (rangeCondition bounds).getD .present⟩⟩]

/-- The step of a closed range. -/
def range (c : Compiler) (r : RangeRow) : Step :=
  c.checked r.field r.bounds (contribution r.path (rangeCondition r.bounds))

/-- The step of a derived quantity. -/
def derivedRange (c : Compiler) (r : DerivedRow) : Step :=
  c.checked r.field (r.bounds.map .ofFloat) (contribution r.path (derivedCondition r.bounds))

/-- The step of the link count. -/
def links (c : Compiler) (b : Bounds Int64) : Step :=
  c.checked "link_count" (b.map .int) (contribution "sockets.link" ((linkMembers b).map .oneOf))

/-- All steps, in the order in which their predicates appear. -/
def steps (c : Compiler) (x : Criteria) : List Step :=
  [c.price x] ++
  x.labels.map (fun (path, condition) => .ok (contribution path condition)) ++
  x.ranges.map c.range ++
  x.derived.map c.derivedRange ++
  x.sockets.map (fun (path, condition) => .ok (contribution path condition)) ++
  [c.links x.linkCount] ++
  x.modifiers.map c.modifier

/-- The predicates of all steps in order, or the fault of the first that refuses. -/
def collect : List Step → Step
  | [] => .ok []
  | s :: ss => do
    let ps ← s
    let qs ← collect ss
    return ps ++ qs

/-- Compile criteria to the predicates that a record has to satisfy. -/
def compile (c : Compiler) (x : Criteria) : Except Fault (List Predicate) := collect (c.steps x)

end Compiler

end ItemQuery
