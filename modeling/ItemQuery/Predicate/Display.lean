import ItemQuery.Predicate.Basic
import ItemQuery.Decimal.Layout

/-!
# `Predicate.Display` — predicates as lines of text

One line per predicate, for people to read: `ilvl >= 80`, `10 <= ilvl <= 60`,
`name contains "Tabula" (case-insensitive)`. Texts stand in quotes, so that a line never breaks and a text
cannot be taken for another kind of operand.
-/

namespace ItemQuery

/-- An operand in a line; a text is quoted. -/
def Operand.display : Operand → String
  | bool b => if b then "true" else "false"
  | int n => n.toInt.repr
  | float x => Decimal.displayFloat x.toFloat
  | text s => Text.quote s

/-- A clause in a line. -/
def Clause.display (c : Clause) : String :=
  let path := c.path.text
  match c.condition with
  | .equals v => path ++ " = " ++ v.display
  | .contains s => path ++ " contains " ++ Text.quote s ++ " (case-insensitive)"
  | .atLeast v => path ++ " >= " ++ v.display
  | .atMost v => path ++ " <= " ++ v.display
  | .between lo hi => lo.display ++ " <= " ++ path ++ " <= " ++ hi.display
  | .oneOf ns => path ++ " in [" ++ ", ".intercalate (ns.map fun n => n.toInt.repr) ++ "]"
  | .present => path ++ " exists"

/-- A predicate in a line, the anchor first. -/
def Predicate.display (p : Predicate) : String :=
  match p.anchor with
  | some anchor => anchor.display ++ " and " ++ p.clause.display
  | none => p.clause.display

end ItemQuery
