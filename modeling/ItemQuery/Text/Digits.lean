/-!
# `Text.Digits` — digits and integers in texts

## Contents
- `digitValue?`: the value of a digit in a base up to sixteen.
- `valueOfDigits?`: the number that digits spell.
- `integerOfText?`: an integer with an optional sign, between two bounds.
-/

namespace ItemQuery.Text

/-- The value of a hexadecimal digit of either case. -/
def hexValue? (c : Char) : Option Nat :=
  if c.isDigit then some (c.toNat - '0'.toNat)
  else if 'a' ≤ c && c ≤ 'f' then some (c.toNat - 'a'.toNat + 10)
  else if 'A' ≤ c && c ≤ 'F' then some (c.toNat - 'A'.toNat + 10)
  else none

/-- The value of a digit in a base up to sixteen. -/
def digitValue? (base : Nat) (c : Char) : Option Nat :=
  (hexValue? c).filter (· < base)

/-- The number that digits spell after those that spell `n`. -/
def valueOfDigits? (base : Nat) (n : Nat) : List Char → Option Nat
  | [] => some n
  | c :: cs => do
    let d ← digitValue? base c
    valueOfDigits? base (base * n + d) cs

/-- An integer in decimal digits with an optional sign, between two bounds; a minus sign stands only where
    the bounds admit negative numbers. -/
def integerOfText? (least greatest : Int) (s : String) : Option Int := do
  let (negative, digits) := match s.toList with
    | '+' :: ds => (false, ds)
    | '-' :: ds => (true, ds)
    | ds => (false, ds)
  guard (!digits.isEmpty && (least < 0 || !negative))
  let n ← valueOfDigits? 10 0 digits
  let z : Int := if negative then -n else n
  guard (least ≤ z && z ≤ greatest)
  return z

end ItemQuery.Text
