/-!
# `Json.Number` — number literals and what they mean

A literal is kept as it is written, because a text may hold numbers that nobody reads: only a number that
is read has to lie in the range of doubles.

A literal without point and exponent is an integer if it fits 64 bits (signed when it has a minus), save
`-0`, which is the double. Every other literal is a double, found in three roundings: the leading digits
that fit an unsigned 64-bit integer are converted, further digits only count, and the result is multiplied
or divided by one power of ten. For literals of up to 15 digits and small exponents this is the nearest
double.

## Contents
- `Literal`, `Literal.lex`: number literals.
- `Number`, `Literal.number`: their values.
-/

namespace ItemQuery.Json

/-- The part of a literal after `e`. -/
structure Exponent where
  negative : Bool
  digits : List Char
  deriving DecidableEq, Repr

/-- A number as it is written; no fraction digits means no point. -/
structure Literal where
  negative : Bool
  whole : List Char
  fraction : List Char
  exponent : Option Exponent
  deriving DecidableEq, Repr

/-- The value of a literal. -/
inductive Number where
  | int (n : Int)
  | float (x : Float)
  deriving DecidableEq, Repr

/-! ## Literals -/

/-- At least one digit. -/
def lexDigits (s : List Char) : Option (List Char × List Char) :=
  match s.span Char.isDigit with
  | ([], _) => none
  | (ds, rest) => some (ds, rest)

/-- Digits without a leading zero, or a zero alone. -/
def lexWhole (s : List Char) : Option (List Char × List Char) :=
  match lexDigits s with
  | some ('0' :: _ :: _, _) => none
  | r => r

/-- An exponent, if there is one. -/
def lexExponent : List Char → Option (Option Exponent × List Char)
  | c :: s =>
    if c = 'e' || c = 'E' then
      let (negative, s) := match s with
        | '+' :: r => (false, r)
        | '-' :: r => (true, r)
        | r => (false, r)
      (lexDigits s).map fun (ds, rest) => (some ⟨negative, ds⟩, rest)
    else some (none, c :: s)
  | [] => some (none, [])

/-- The longest literal at the start of a text. -/
def Literal.lex (s : List Char) : Option (Literal × List Char) := do
  let (negative, s) := match s with
    | '-' :: r => (true, r)
    | r => (false, r)
  let (whole, s) ← lexWhole s
  let (fraction, s) ← match s with
    | '.' :: r => lexDigits r
    | r => some ([], r)
  let (exponent, s) ← lexExponent s
  return (⟨negative, whole, fraction, exponent⟩, s)

/-! ## Values -/

/-- Append digits to a number while it stays below `2 ^ 64`; also the digits that are left. -/
def absorb : Nat → List Char → Nat × List Char
  | n, [] => (n, [])
  | n, d :: ds =>
    let m := 10 * n + (d.toNat - '0'.toNat)
    if m < Nat.pow 2 64 then absorb m ds else (n, d :: ds)

/-- The double nearest to `10 ^ e`. -/
def tenTo (e : Nat) : Float := Float.ofScientific 1 false e

/-- `x * 10 ^ e`, with one rounding for each power of ten that is a double; `none` beyond their range. -/
def scaleByTen (x : Float) (e : Int) : Option Float :=
  if 0 ≤ e then
    if e ≤ 308 then
      let y := x * tenTo e.toNat
      if y.isInf then none else some y
    else if x == 0 then some x
    else none
  else if -308 ≤ e then some (x / tenTo (-e).toNat)
  else if -616 ≤ e then some (x / tenTo 308 / tenTo (-e - 308).toNat)
  else some 0

/-- The exponent as a number, `0` when there is none. -/
def Exponent.value : Option Exponent → Int
  | none => 0
  | some e =>
    let n : Int := Nat.ofDigitChars 10 e.digits 0
    if e.negative then -n else n

/-- The value of a literal; `none` for a number beyond the range of doubles. -/
def Literal.number (l : Literal) : Option Number :=
  let (n, dropped) := absorb 0 l.whole
  if l.fraction = [] && l.exponent = none && dropped = [] &&
      (!l.negative || (0 < n && n ≤ Nat.pow 2 63)) then
    some (.int (if l.negative then -n else n))
  else
    let (significand, left) := absorb n l.fraction
    let e := (dropped.length : Int) - (l.fraction.length - left.length : Int) + Exponent.value l.exponent
    (scaleByTen (UInt64.ofNat significand).toFloat e).map fun x => .float (if l.negative then -x else x)

end ItemQuery.Json
