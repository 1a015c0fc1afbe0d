/-!
# `Decimal.Nearest` — the double nearest to a decimal

Numbers in texts other than JSON are rounded once, to the nearest double, ties to even. Exponents of any size
may stand in a text, so that those far outside the range of doubles are answered without computing the power
of ten.

## Contents
- `nearest`: the double nearest to `coefficient * 10 ^ exponent`.
- `unsignedOfText?`, `floatOfText?`: a double spelled in a text.
-/

namespace ItemQuery.Decimal

/-- The double nearest to `coefficient * 10 ^ exponent`, infinite beyond their range. -/
def nearest (coefficient : Nat) (exponent : Int) : Float :=
  let magnitude := (Nat.toDigits 10 coefficient).length + exponent
  if coefficient = 0 || magnitude < -400 then 0
  else if 400 < magnitude then 1.0 / 0.0
  else Float.ofScientific coefficient (exponent < 0) exponent.natAbs

/-- Leading decimal digits, and what follows them. -/
def digitRun (s : List Char) : List Char × List Char := s.span Char.isDigit

/-- The exponent at the end of a number. -/
def exponentOfText? : List Char → Option Int
  | [] => some 0
  | e :: s =>
    if e = 'e' || e = 'E' then
      let (negative, ds) := match s with
        | '+' :: r => (false, r)
        | '-' :: r => (true, r)
        | r => (false, r)
      if ds ≠ [] && ds.all Char.isDigit then
        let n : Int := Nat.ofDigitChars 10 ds 0
        some (if negative then -n else n)
      else none
    else none

/-- The double that a text without sign spells. -/
def unsignedOfText? (cs : List Char) : Option Float :=
  let word := String.ofList (cs.map Char.toLower)
  if word = "inf" || word = "infinity" then some (1.0 / 0.0)
  else if word = "nan" then some (0.0 / 0.0)
  else do
    let (whole, rest) := digitRun cs
    let (fraction, rest) := match rest with
      | '.' :: r => digitRun r
      | r => ([], r)
    guard (whole ≠ [] || fraction ≠ [])
    let e ← exponentOfText? rest
    return nearest (Nat.ofDigitChars 10 (whole ++ fraction) 0) (e - fraction.length)

/-- The double that a text spells: digits with a point and an exponent, a sign before them, or one of the
    words for infinity and for what is no number. -/
def floatOfText? (s : String) : Option Float :=
  match s.toList with
  | '+' :: cs => unsignedOfText? cs
  | '-' :: cs => (unsignedOfText? cs).map fun x => -x
  | cs => unsignedOfText? cs

end ItemQuery.Decimal
