import ItemQuery.Proofs.Decimal.Rounding
import ItemQuery.Proofs.Decimal.Shortest
import Mathlib.Algebra.Order.Field.Power
import Mathlib.Algebra.Order.Field.Rat
import Mathlib.Tactic.FieldSimp
import Mathlib.Tactic.Linarith
import Mathlib.Tactic.NormNum

/-!
# `Proofs.Decimal.Distinct` — no decimal rounds to two doubles

The reals that round to a double form an interval around it, which ends half way to its neighbours. So the intervals
of two doubles meet in a single point at most, and that point belongs to the one with an even significand. Of two
neighbours one is odd, also where the unit doubles between them: the greatest significand is odd. Hence a decimal that
rounds to two doubles does not exist, and the shortest decimal of a double shows which double it is.

Numbers are compared as rationals here. The test that the search makes is in natural numbers on a common scale, and
`covers_iff` takes the one to the other.

## Contents
- `Numeral.value`, `Binary.Rounds`, `covers_iff`: decimals as numbers, and those that round to a double.
- `Binary.Proper`, `Binary.Before`, `upper_le_lower`: the intervals lie in the order of the doubles.
- `eq_of_rounds`: no number rounds to two doubles.
- `eq_of_notANumber`, `eq_of_magnitude`: a double is its magnitude and its sign; what is no number has no sign.
- `eq_of_shortest`: the shortest decimal and the sign show the double.
-/

namespace ItemQuery.Decimal

open Float.Model (Format)
open Float.Model.UnpackedFloat

/-- The number that a decimal stands for. -/
def Numeral.value (d : Numeral) : ℚ := d.coefficient * 10 ^ d.exponent

namespace Binary

variable {b b' : Binary} {d d' : Numeral} {v : ℚ}

/-! ## The interval in rationals -/

/-- A quarter of the unit. -/
def quarter (b : Binary) : ℚ := 2 ^ (b.exponent - 2)

/-- **The number rounds to the double**: it is between the ends, which belong to an even significand. -/
def Rounds (b : Binary) (v : ℚ) : Prop :=
  if b.significand % 2 = 0 then b.lower * b.quarter ≤ v ∧ v ≤ b.upper * b.quarter
  else b.lower * b.quarter < v ∧ v < b.upper * b.quarter

theorem quarter_pos (b : Binary) : 0 < b.quarter := zpow_pos (by decide) _

/-- A power with a sign in its exponent is a quotient of powers without. -/
theorem pow_toNat {a : ℚ} (ha : a ≠ 0) (z : ℤ) : a ^ z.toNat = a ^ z * a ^ (-z).toNat := by
  rw [← zpow_natCast, ← zpow_natCast, ← zpow_add₀ ha]
  congr 1
  omega

/-- The two numbers of a scale are in the proportion of a quarter to a step of the grid. -/
theorem scale_proportion (b : Binary) (g : Int) :
    ((b.scale g).2 : ℚ) * b.quarter = (b.scale g).1 * 10 ^ g := by
  have htwo := pow_toNat (a := 2) (by decide) (b.exponent - 2)
  have hten := pow_toNat (a := 10) (by decide) g
  show ((2 ^ (-(b.exponent - 2)).toNat * 10 ^ g.toNat : Nat) : ℚ) * 2 ^ (b.exponent - 2) =
    (2 ^ (b.exponent - 2).toNat * 10 ^ (-g).toNat : Nat) * 10 ^ g
  push_cast
  rw [htwo, hten]
  ring

/-- Both sides of a comparison on the common scale, as rationals. -/
theorem scale_value (b : Binary) (d : Numeral) (n : Nat) :
    (n * (b.scale d.exponent).1 ≤ d.coefficient * (b.scale d.exponent).2 ↔ n * b.quarter ≤ d.value) ∧
      (d.coefficient * (b.scale d.exponent).2 ≤ n * (b.scale d.exponent).1 ↔ d.value ≤ n * b.quarter) := by
  have hquarter : (0 : ℚ) < (b.scale d.exponent).1 := by exact_mod_cast (b.scale_pos d.exponent).1
  have hunit := b.quarter_pos
  have hvalue : d.value * (b.scale d.exponent).1 = d.coefficient * (b.scale d.exponent).2 * b.quarter := by
    rw [Numeral.value, mul_assoc, mul_assoc, b.scale_proportion, mul_comm (10 ^ d.exponent)]
  -- multiply both sides by the positive numbers that the scale is off by
  constructor
  · rw [← Nat.cast_le (α := ℚ), ← mul_le_mul_iff_left₀ hunit, ← mul_le_mul_iff_left₀ hquarter (b := n * b.quarter),
      hvalue]
    push_cast
    rw [mul_right_comm]
  · rw [← Nat.cast_le (α := ℚ), ← mul_le_mul_iff_left₀ hunit, ← mul_le_mul_iff_left₀ hquarter (b := d.value),
      hvalue]
    push_cast
    rw [mul_right_comm (n : ℚ)]

/-- **The test of the search** is whether the decimal, as a number, rounds to the double. -/
theorem covers_iff (b : Binary) (d : Numeral) : b.covers d = true ↔ b.Rounds d.value := by
  have hlower := b.scale_value d b.lower
  have hupper := b.scale_value d b.upper
  unfold covers Rounds
  dsimp only
  split
  · rw [Bool.and_eq_true, decide_eq_true_eq, decide_eq_true_eq, hlower.1, hupper.2]
  · rw [Bool.and_eq_true, decide_eq_true_eq, decide_eq_true_eq, ← not_le, ← not_le, hlower.2, hupper.1, not_le,
      not_le]

/-! ## The order of the intervals -/

/-- **What a finite double is taken apart to**: at most 53 bits, and all of them above the least exponent. -/
structure Proper (b : Binary) : Prop where
  least : -1074 ≤ b.exponent
  small : b.significand < 2 ^ 53
  normal : -1074 < b.exponent → 2 ^ 52 ≤ b.significand

/-- The order of doubles by their parts. -/
def Before (b b' : Binary) : Prop :=
  b.exponent < b'.exponent ∨ b.exponent = b'.exponent ∧ b.significand < b'.significand

theorem before_or_eq_or_before (b b' : Binary) : b.Before b' ∨ b = b' ∨ b'.Before b := by
  obtain ⟨m, e⟩ := b
  obtain ⟨m', e'⟩ := b'
  simp only [Before, Binary.mk.injEq]
  omega

/-- The ends of two intervals in quarters of the smaller unit. They are the same only between neighbours, of which
    one is odd. -/
theorem exists_upper_le_lower (hb : b.Proper) (hb' : b'.Proper) (h : b.Before b') :
    ∃ k : Nat, b'.exponent = b.exponent + k ∧ b.upper ≤ b'.lower * 2 ^ k ∧
      (b.upper = b'.lower * 2 ^ k → b.significand % 2 = 1 ∨ b'.significand % 2 = 1) := by
  have hsmall := hb.small
  have hleast := hb.least
  rcases h with hlt | ⟨heq, hlt⟩
  · -- the greatest significand against the least one with all its bits, of a unit twice as large or more
    obtain ⟨k, hk⟩ : ∃ k : Nat, b'.exponent = b.exponent + (k + 1 : Nat) :=
      ⟨(b'.exponent - b.exponent).toNat - 1, by omega⟩
    have hnormal := hb'.normal (by omega)
    have hlower : 2 ^ 54 - 1 ≤ b'.lower := by
      unfold lower quarters isNarrowBelow
      split
      · omega
      · rename_i hwide
        have hne : b'.significand ≠ 2 ^ 52 := by
          intro hpow
          rw [Bool.and_eq_true, beq_iff_eq, decide_eq_true_eq, not_and] at hwide
          exact hwide hpow (by omega)
        omega
    have hpow : 2 ≤ 2 ^ (k + 1) := Nat.le_self_pow (by omega) 2
    have hmul : b'.lower * 2 ≤ b'.lower * 2 ^ (k + 1) := Nat.mul_le_mul_left _ hpow
    unfold upper quarters
    exact ⟨k + 1, hk, by omega, fun heq => .inl (by omega)⟩
  · refine ⟨0, by omega, ?_⟩
    -- a significand with others before it is not the least one with all its bits
    have hwide : b'.isNarrowBelow = false := by
      rw [isNarrowBelow, Bool.and_eq_false_iff, beq_eq_false_iff_ne, decide_eq_false_iff_not]
      by_cases hexponent : -1074 < b.exponent
      · have hnormal := hb.normal hexponent
        left
        show b'.significand ≠ 2 ^ 52
        omega
      · right
        omega
    unfold upper lower quarters
    rw [hwide]
    simp only [Bool.false_eq_true, if_false, Nat.pow_zero, Nat.mul_one]
    omega

/-- **The interval of a double ends before that of a greater one begins**, or at the same point, which then does not
    belong to both. -/
theorem upper_le_lower (hb : b.Proper) (hb' : b'.Proper) (h : b.Before b') :
    b.upper * b.quarter ≤ b'.lower * b'.quarter ∧
      (b.upper * b.quarter = b'.lower * b'.quarter → b.significand % 2 = 1 ∨ b'.significand % 2 = 1) := by
  obtain ⟨k, hk, hle, heq⟩ := exists_upper_le_lower hb hb' h
  have hunit := b.quarter_pos
  have hquarter : b'.lower * b'.quarter = (b'.lower * 2 ^ k : Nat) * b.quarter := by
    have hexponent : b'.exponent - 2 = k + (b.exponent - 2) := by omega
    rw [quarter, quarter, hexponent, zpow_add₀ (by decide), zpow_natCast]
    push_cast
    ring
  rw [hquarter]
  constructor
  · exact mul_le_mul_of_nonneg_right (by exact_mod_cast hle) hunit.le
  · intro hends
    exact heq (by exact_mod_cast mul_right_cancel₀ hunit.ne' hends)

theorem not_rounds_of_before (hb : b.Proper) (hb' : b'.Proper) (h : b.Before b') (hv : b.Rounds v) :
    ¬ b'.Rounds v := by
  obtain ⟨hle, heq⟩ := upper_le_lower hb hb' h
  intro hv'
  unfold Rounds at hv hv'
  -- a number in both intervals is their common end, and belongs to both only if both are even
  split at hv <;> split at hv'
  · have hends : b.upper * b.quarter = b'.lower * b'.quarter := by linarith [hv.2, hv'.1]
    have hodd := heq hends
    omega
  · linarith [hv.2, hv'.1]
  · linarith [hv.2, hv'.1]
  · linarith [hv.2, hv'.1]

/-- **No number rounds to two doubles.** -/
theorem eq_of_rounds (hb : b.Proper) (hb' : b'.Proper) (hv : b.Rounds v) (hv' : b'.Rounds v) : b = b' := by
  rcases before_or_eq_or_before b b' with h | h | h
  · exact absurd hv' (not_rounds_of_before hb hb' h hv)
  · exact h
  · exact absurd hv (not_rounds_of_before hb' hb h hv')

end Binary

/-! ## Fields of doubles -/

/-- The field of the fraction. -/
def fractionField (x : Float) : Nat := x.toBits.toNat % Nat.pow 2 52

theorem fractionField_lt (x : Float) : fractionField x < 2 ^ 52 := Nat.mod_lt _ (by decide)

theorem fractionField_eq (x : Float) :
    fractionField x = (@unpackMantissa Format.binary64 x.toModel.toBits.toBitVec).toNat := by
  simp [fractionField, unpackMantissa, Float.toBits]

theorem magnitude_eq (x : Float) :
    Magnitude.ofFloat x =
      if exponentField x = 2047 then if fractionField x = 0 then .infinite else .notANumber
      else .finite (.ofFields (exponentField x) (fractionField x)) := rfl

theorem Binary.proper_ofFields {exponent fraction : Nat} (he : exponent ≤ 2046) (hf : fraction < 2 ^ 52) :
    (Binary.ofFields exponent fraction).Proper := by
  unfold Binary.ofFields
  split
  · refine ⟨Int.le_refl _, ?_, fun h => absurd h (Int.lt_irrefl _)⟩
    show fraction < 2 ^ 53
    omega
  · refine ⟨?_, ?_, fun _ => Nat.le_add_right _ _⟩
    · show (-1074 : Int) ≤ exponent - 1075
      omega
    · show 2 ^ 52 + fraction < 2 ^ 53
      omega

theorem Binary.ofFields_inj {e e' f f' : Nat} (hf : f < 2 ^ 52) (hf' : f' < 2 ^ 52)
    (h : Binary.ofFields e f = Binary.ofFields e' f') : e = e' ∧ f = f' := by
  have hpow : Nat.pow 2 52 = 2 ^ 52 := rfl
  unfold Binary.ofFields at h
  rw [hpow] at h
  split at h <;> split at h <;> simp only [Binary.mk.injEq] at h <;> omega

/-! ## Doubles by their magnitudes -/

theorem infinite_iff {x : Float} :
    Magnitude.ofFloat x = .infinite ↔ exponentField x = 2047 ∧ fractionField x = 0 := by
  rw [magnitude_eq]
  split
  · rename_i hones
    by_cases hfraction : fractionField x = 0 <;> simp [hones, hfraction]
  · rename_i hones
    simp [hones]

theorem notANumber_iff {x : Float} :
    Magnitude.ofFloat x = .notANumber ↔ exponentField x = 2047 ∧ fractionField x ≠ 0 := by
  rw [magnitude_eq]
  split
  · rename_i hones
    by_cases hfraction : fractionField x = 0 <;> simp [hones, hfraction]
  · rename_i hones
    simp [hones]

theorem finite_iff {x : Float} {b : Binary} :
    Magnitude.ofFloat x = .finite b ↔
      exponentField x ≠ 2047 ∧ Binary.ofFields (exponentField x) (fractionField x) = b := by
  rw [magnitude_eq]
  split
  · rename_i hones
    by_cases hfraction : fractionField x = 0 <;> simp [hones, hfraction]
  · rename_i hones
    simp [hones]

theorem proper_of_finite {x : Float} {b : Binary} (h : Magnitude.ofFloat x = .finite b) : b.Proper := by
  obtain ⟨hones, rfl⟩ := finite_iff.mp h
  have hfield : exponentField x < 2048 := Nat.mod_lt _ (by decide)
  exact Binary.proper_ofFields (by omega) (fractionField_lt x)

/-- There is one double that is no number: its bits are fixed. -/
theorem toBits_of_notANumber {x : Float} (h : Magnitude.ofFloat x = .notANumber) :
    x.toBits.toBitVec = packedNaN Format.binary64 := by
  obtain ⟨hones, hfraction⟩ := notANumber_iff.mp h
  refine x.toModel.valid.eq_packedNaN (BitVec.eq_of_toNat_eq ?_) fun hzero => hfraction ?_
  · rw [← exponentField_eq, hones]
    rfl
  · rw [fractionField_eq, hzero]
    rfl

/-- The bits of a double are its sign and its two fields. -/
theorem toBits_eq_of_fields {x y : Float} (hs : isNegative x = isNegative y)
    (he : exponentField x = exponentField y) (hf : fractionField x = fractionField y) : x.toBits = y.toBits := by
  apply UInt64.toNat_inj.mp
  have hx := x.toBits.toNat_lt
  have hy := y.toBits.toNat_lt
  unfold exponentField at he
  unfold fractionField at hf
  simp only [isNegative, Bool.beq_eq_decide_eq, decide_eq_decide, Nat.pow_eq] at hs he hf
  omega

theorem eq_of_toBits {x y : Float} (h : x.toBits = y.toBits) : x = y := by
  obtain ⟨⟨bits, valid⟩⟩ := x
  obtain ⟨⟨bits', valid'⟩⟩ := y
  obtain rfl : bits = bits' := h
  rfl

/-- What is no number has no sign. -/
theorem eq_of_notANumber {x y : Float} (hx : Magnitude.ofFloat x = .notANumber)
    (hy : Magnitude.ofFloat y = .notANumber) : x = y :=
  eq_of_toBits (UInt64.toBitVec_inj.mp ((toBits_of_notANumber hx).trans (toBits_of_notANumber hy).symm))

/-- **A double is its magnitude and its sign.** -/
theorem eq_of_magnitude {x y : Float} (hm : Magnitude.ofFloat x = Magnitude.ofFloat y)
    (hs : isNegative x = isNegative y) : x = y := by
  cases hx : Magnitude.ofFloat x with
  | notANumber => exact eq_of_notANumber hx (hm.symm.trans hx)
  | infinite =>
      obtain ⟨he, hf⟩ := infinite_iff.mp hx
      obtain ⟨he', hf'⟩ := infinite_iff.mp (hm.symm.trans hx)
      exact eq_of_toBits (toBits_eq_of_fields hs (he.trans he'.symm) (hf.trans hf'.symm))
  | finite b =>
      obtain ⟨_, hb⟩ := finite_iff.mp hx
      obtain ⟨_, hb'⟩ := finite_iff.mp (hm.symm.trans hx)
      obtain ⟨he, hf⟩ := Binary.ofFields_inj (fractionField_lt x) (fractionField_lt y) (hb.trans hb'.symm)
      exact eq_of_toBits (toBits_eq_of_fields hs he hf)

/-- **The shortest decimal of a double shows the double**, together with its sign. -/
theorem eq_of_shortest {x y : Float} {b b' : Binary} {tie : Tie} (hx : Magnitude.ofFloat x = .finite b)
    (hy : Magnitude.ofFloat y = .finite b') (hs : isNegative x = isNegative y)
    (hvalue : (b.shortest tie).value = (b'.shortest tie).value) : x = y := by
  have hcovers := (b.covers_iff _).mp (b.covers_shortest (le_exponent_of_finite hx) tie)
  have hcovers' := (b'.covers_iff _).mp (b'.covers_shortest (le_exponent_of_finite hy) tie)
  rw [← hvalue] at hcovers'
  have hb := Binary.eq_of_rounds (proper_of_finite hx) (proper_of_finite hy) hcovers hcovers'
  exact eq_of_magnitude (hx.trans (hb ▸ hy.symm)) hs

end ItemQuery.Decimal
