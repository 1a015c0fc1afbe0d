import ItemQuery.Double
import ItemQuery.Path

/-!
# `Predicate.Basic` — compiled criteria

Criteria compile to a list of predicates, all of which a record has to satisfy. A predicate is a clause, that
is, a condition on one path; a predicate on prices also has an anchor, a second clause that has to hold of
the same record.

## Contents
- `Operand`, `Condition`, `Clause`, `Predicate`.
- `Operand.ofFloat`, `Operand.toFloat?`, `Operand.toText?`: an operand from a double, and views of operands.
- `Predicate.clauses`: all clauses, the anchor first.
-/

namespace ItemQuery

/-- A value to compare with. -/
inductive Operand where
  | bool (b : Bool)
  | int (n : Int64)
  | float (x : Double)
  | text (s : String)
  deriving DecidableEq

namespace Operand

/-- A double as an operand. -/
def ofFloat (x : Float) : Operand := float (.ofFloat x)

/-- The operand as a number, if it is one. -/
def toFloat? : Operand → Option Float
  | int n => some (Float.ofInt n.toInt)
  | float x => some x.toFloat
  | _ => none

/-- The operand as a text, if it is one. -/
def toText? : Operand → Option String
  | text s => some s
  | _ => none

/-- Strictly below, between operands of one numeric kind. -/
def below : Operand → Operand → Bool
  | int a, int b => a < b
  | float a, float b => a.toFloat < b.toFloat
  | _, _ => false

end Operand

/-- What is asked of the value at a path. -/
inductive Condition where
  | equals (v : Operand)
  /-- The value contains the text, in whatever case. -/
  | contains (text : String)
  | atLeast (v : Operand)
  | atMost (v : Operand)
  | between (lower upper : Operand)
  | oneOf (members : List Int64)
  /-- There is a value. -/
  | present
  deriving DecidableEq

/-- The name of a condition's kind. -/
def Condition.name : Condition → String
  | equals _ => "equals"
  | contains _ => "contains_ci"
  | atLeast _ => "gte"
  | atMost _ => "lte"
  | between _ _ => "range"
  | oneOf _ => "in_set"
  | present => "exists"

/-- A condition on the value at a path. -/
structure Clause where
  path : Path
  condition : Condition
  deriving DecidableEq

/-- A clause, with an anchor that has to hold of the same record. -/
structure Predicate where
  anchor : Option Clause
  clause : Clause
  deriving DecidableEq

namespace Predicate

/-- A predicate without anchor on a path of the fixed layout. -/
def on (path : String) (condition : Condition) : Predicate := ⟨none, ⟨⟨path⟩, condition⟩⟩

/-- All clauses, the anchor first. -/
def clauses (p : Predicate) : List Clause := p.anchor.toList ++ [p.clause]

end Predicate

end ItemQuery
