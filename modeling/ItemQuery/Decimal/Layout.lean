import ItemQuery.Decimal.Shortest

/-!
# `Decimal.Layout` — how a decimal is written

A `Layout` fixes what a format decides: for which places of the first digit no exponent is written,
whether an integral value keeps a point, and which of two equally short and near decimals is taken.

## Contents
- `Layout.write`: a decimal as text.
- `Layout.writeFinite`: a finite double as text, sign included.
- `Layout.display`, `displayFloat`: the layout of display lines and messages, with its words for the
  values that are not finite.
-/

namespace ItemQuery.Decimal

/-- The decisions of a number format. -/
structure Layout where
  /-- Whether a number whose first digit has this place (`0` for the ones) is written without exponent. -/
  positional : Int → Bool
  /-- Whether an integral value is written with a point and a zero. -/
  keepsPoint : Bool
  /-- Which of two equally near decimals is taken. -/
  tie : Tie

/-- The decimal digits of the coefficient. -/
def Numeral.digits (d : Numeral) : List Char := Nat.toDigits 10 d.coefficient

/-- The place of the first digit, `0` for the ones. -/
def Numeral.place (d : Numeral) : Int := d.exponent + d.digits.length - 1

/-- Without exponent: zeros fill the places between the digits and the point. -/
def Layout.writePositional (l : Layout) (d : Numeral) : List Char :=
  let ds := d.digits
  if 0 ≤ d.exponent then
    ds ++ List.replicate d.exponent.toNat '0' ++ if l.keepsPoint then ['.', '0'] else []
  else
    let fraction := (-d.exponent).toNat
    if fraction < ds.length then
      ds.take (ds.length - fraction) ++ '.' :: ds.drop (ds.length - fraction)
    else
      '0' :: '.' :: List.replicate (fraction - ds.length) '0' ++ ds

/-- With exponent: one digit before the point, and the sign of the exponent always written. -/
def writeScientific (d : Numeral) : List Char :=
  let mantissa := match d.digits with
    | [] => []
    | [c] => [c]
    | c :: cs => c :: '.' :: cs
  let sign := if d.place < 0 then '-' else '+'
  mantissa ++ 'e' :: sign :: Nat.toDigits 10 d.place.natAbs

/-- The decimal in the given layout. -/
def Layout.write (l : Layout) (d : Numeral) : List Char :=
  if l.positional d.place then l.writePositional d else writeScientific d

/-- The shortest decimal of a finite double, with its sign; zero has a sign too. -/
def Layout.writeFinite (l : Layout) (negative : Bool) (b : Binary) : List Char :=
  (if negative then ['-'] else []) ++ l.write (b.shortest l.tie)

/-- Display text never has an exponent, and an integral value has no point. Of two equally near decimals
    the one farther from zero is shown. -/
def Layout.display : Layout := ⟨fun _ => true, false, .awayFromZero⟩

/-- A double in display text. -/
def displayFloat (x : Float) : String :=
  match Magnitude.ofFloat x with
  | .notANumber => "NaN"
  | .infinite => if isNegative x then "-inf" else "inf"
  | .finite b => String.ofList (Layout.display.writeFinite (isNegative x) b)

end ItemQuery.Decimal
