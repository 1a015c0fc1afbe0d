import ItemQuery.Decimal.Nearest
import ItemQuery.Decimal.Shortest

/-!
# `Double` — doubles in which NaN has a sign

`Float` has one NaN. The doubles of the document store have a sign there too, and documents show it, so that
what goes into a query has one value more. To every other use, that of comparing and of plain text, both are
the one NaN.

## Contents
- `Double`, `Double.toFloat`: a double, and what it is without the sign of NaN.
- `Double.ofText?`: a double spelled in a text.
-/

namespace ItemQuery

open Decimal (Magnitude)

/-- A double; NaN has a sign. -/
inductive Double where
  /-- A double whose sign, if it is NaN, is not set. -/
  | ofFloat (x : Float)
  | negativeNaN
  deriving DecidableEq

namespace Double

/-- The double without the sign of NaN. -/
def toFloat : Double → Float
  | ofFloat x => x
  | negativeNaN => 0.0 / 0.0

/-- The double that a text spells. -/
def ofText? (s : String) : Option Double :=
  (Decimal.floatOfText? s).map fun x =>
    if Magnitude.ofFloat x = .notANumber && s.toList.head? = some '-' then negativeNaN else ofFloat x

@[simp] theorem toFloat_ofFloat (x : Float) : (ofFloat x).toFloat = x := rfl

end Double

end ItemQuery
