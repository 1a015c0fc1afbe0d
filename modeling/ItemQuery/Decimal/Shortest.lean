/-!
# `Decimal.Shortest` — the shortest decimal that reads back

A finite double is `significand * 2 ^ exponent`. The reals that round to it (to nearest, ties to even)
form an interval, ends included exactly when the significand is even. Its shortest decimal is the
multiple of the largest power of ten that has a multiple in the interval; of two multiples the nearer
one is taken, and `Tie` decides between two equally near. All tests are made in exact natural numbers.

## Contents
- `Binary`, `Binary.ofBits`, `Magnitude.ofFloat`: a double taken apart.
- `Binary.covers`: the interval, as a test on decimals.
- `Binary.shortest`: the decimal.
-/

namespace ItemQuery.Decimal

/-- The decimal number `coefficient * 10 ^ exponent`. -/
structure Numeral where
  coefficient : Nat
  exponent : Int
  deriving DecidableEq, Repr

/-- The binary number `significand * 2 ^ exponent` that a finite double stands for, sign aside. -/
structure Binary where
  significand : Nat
  exponent : Int
  deriving DecidableEq, Repr

/-- Which of two equally near neighbours is taken. -/
inductive Tie
  /-- The even one. -/
  | toEven
  /-- The one farther from zero. -/
  | awayFromZero
  deriving DecidableEq, Repr

/-- What a double is, sign aside. -/
inductive Magnitude
  | notANumber
  | infinite
  | finite (b : Binary)
  deriving DecidableEq, Repr

/-! ## A double taken apart -/

/-- The sign bit. -/
def isNegative (x : Float) : Bool := x.toBits.toNat / Nat.pow 2 63 == 1

/-- The value that the exponent and fraction fields of a finite double stand for: without a leading one
    when the exponent field is zero, with one otherwise. -/
def Binary.ofFields (exponent fraction : Nat) : Binary :=
  if exponent = 0 then ⟨fraction, -1074⟩ else ⟨Nat.pow 2 52 + fraction, (exponent : Int) - 1075⟩

/-- Take a double apart; an exponent field of ones marks what is not finite. -/
def Magnitude.ofFloat (x : Float) : Magnitude :=
  let bits := x.toBits.toNat
  let exponent := bits / Nat.pow 2 52 % Nat.pow 2 11
  let fraction := bits % Nat.pow 2 52
  if exponent = 2047 then
    if fraction = 0 then .infinite else .notANumber
  else .finite (.ofFields exponent fraction)

/-- The finite doubles. -/
def isFinite (x : Float) : Bool :=
  match Magnitude.ofFloat x with
  | .finite _ => true
  | _ => false

/-! ## The interval of reals that round to a double -/

/-- The gap below a power of two is half the gap above it, save at the foot of the range. -/
def Binary.isNarrowBelow (b : Binary) : Bool := b.significand == Nat.pow 2 52 && -1074 < b.exponent

/-- In quarters of the unit `2 ^ exponent`: the value. -/
def Binary.quarters (b : Binary) : Nat := 4 * b.significand

/-- In quarters of the unit: the lower end of the interval. -/
def Binary.lower (b : Binary) : Nat := b.quarters - if b.isNarrowBelow then 1 else 2

/-- In quarters of the unit: the upper end of the interval. -/
def Binary.upper (b : Binary) : Nat := b.quarters + 2

/-- A common scale for quarters of the unit and multiples of `10 ^ g`: the number `n` of quarters equals
    the number `k` of steps exactly when `n * (scale g).1 = k * (scale g).2`. -/
def Binary.scale (b : Binary) (g : Int) : Nat × Nat :=
  let e := b.exponent - 2
  (Nat.pow 2 e.toNat * Nat.pow 10 (-g).toNat, Nat.pow 2 (-e).toNat * Nat.pow 10 g.toNat)

/-- Whether the decimal is among the reals that round to `b`. -/
def Binary.covers (b : Binary) (d : Numeral) : Bool :=
  let (quarter, step) := b.scale d.exponent
  let lo := b.lower * quarter
  let hi := b.upper * quarter
  let at_ := d.coefficient * step
  if b.significand % 2 = 0 then lo ≤ at_ && at_ ≤ hi else lo < at_ && at_ < hi

/-! ## The search -/

/-- The multiple of `10 ^ g` that is chosen, if one lies in the interval. Only the two neighbours of the
    value need a test: if any multiple lies in the interval, one of them does. -/
def Binary.onGrid (b : Binary) (tie : Tie) (g : Int) : Option Nat :=
  let (quarter, step) := b.scale g
  let value := b.quarters * quarter
  let below := value / step
  let rest := value % step
  match b.covers ⟨below, g⟩, b.covers ⟨below + 1, g⟩ with
  | true, false => some below
  | false, true => some (below + 1)
  | false, false => none
  | true, true =>
    if 2 * rest < step then some below
    else if step < 2 * rest then some (below + 1)
    else match tie with
      | .awayFromZero => some (below + 1)
      | .toEven => some (if below % 2 = 0 then below else below + 1)

/-- Try the grids `10 ^ g`, `10 ^ (g - 1)`, … and keep the first hit. -/
def Binary.search (b : Binary) (tie : Tie) : Nat → Int → Numeral
  | 0, g => ⟨0, g⟩
  | tries + 1, g =>
    match b.onGrid tie g with
    | some c => ⟨c, g⟩
    | none => b.search tie tries (g - 1)

/-- The shortest decimal that reads back as `b`, and of those the nearest. The search begins above the
    interval; every double is a multiple of `10 ^ (-1074)`, so that it ends with a hit. -/
def Binary.shortest (b : Binary) (tie : Tie) : Numeral :=
  if b.significand = 0 then ⟨0, 0⟩
  else
    let (quarter, step) := b.scale 0
    let start := (Nat.toDigits 10 (b.upper * quarter / step)).length
    b.search tie (start + 1075) start

end ItemQuery.Decimal
