import ItemQuery.Proofs.Decimal.Rounding
import ItemQuery.Proofs.Json.Written

/-!
# `Proofs.Json.Doubles` — the doubles that are read, and those that are read again

A literal is turned into a double by rounding its digits and scaling by a power of ten, with a check that the result
is not infinite only where it is multiplied. No check is needed elsewhere: the digits that are kept fit 64 bits, and
dividing by a power of ten does not make a double large. So whatever is read as a double is finite.

The rounding is not always that of the decimal that is written. Whether a double is read as itself from its own text
is therefore a property of the double, `Rereads`. It is what has to be assumed of numbers wherever a text is said
to be read as what was written.

## Contents
- `field_tenTo`: the powers of ten.
- `field_scaleByTen`, `isFinite_number`, `IsDouble.isFinite`: what is read is finite.
- `Rereads`, `rereads_iff`: doubles that are read as themselves.
-/

namespace ItemQuery.Json

open Decimal
open Float.Model (UnpackedFloat Format)

/-! ## Powers of ten -/

/-- **The powers of ten that are used are at least one, and finite.** -/
theorem field_tenTo {n : Nat} (hn : n ≤ 308) :
    1023 ≤ exponentField (tenTo n) ∧ exponentField (tenTo n) ≤ 2046 := by
  -- the powers that come from a table, and those so near the end that they have to be computed
  have hsmall : ∀ n < 23, 1023 ≤ exponentField (tenTo n) ∧ exponentField (tenTo n) ≤ 2046 := by
    decide +kernel
  have hlarge : ∀ n < 2, 1023 ≤ exponentField (tenTo (307 + n)) ∧ exponentField (tenTo (307 + n)) ≤ 2046 := by
    decide +kernel
  by_cases htable : n < 23
  · exact hsmall n htable
  by_cases hend : 307 ≤ n
  · obtain ⟨k, rfl⟩ := Nat.exists_eq_add_of_le hend
    exact hlarge k (by omega)
  have hten : tenTo n = .ofModel (.pack (UnpackedFloat.ofScientific Format.binary64 1 n)) := by
    rw [tenTo, Float.ofScientific, dif_neg (by omega)]
    rfl
  -- three powers of ten are less than ten powers of two
  have hsize {k : Nat} (hk : n ≤ 3 * k) : (1 * 10 ^ n).log2 ≤ 10 * k := by
    apply log2_le_of_le_two_pow
    calc 1 * 10 ^ n = 10 ^ n := Nat.one_mul _
      _ ≤ 10 ^ (3 * k) := Nat.pow_le_pow_right (by decide) hk
      _ = (10 ^ 3) ^ k := Nat.pow_mul 10 3 k
      _ ≤ (2 ^ 10) ^ k := Nat.pow_le_pow_left (by decide) k
      _ = 2 ^ (10 * k) := (Nat.pow_mul 2 10 k).symm
  have hlog : (1 * 10 ^ n).log2 ≤ 10 * 102 := hsize (by omega)
  have hfield := field_ofScientific Nat.one_pos (by omega) (Nat.lt_of_le_of_lt hlog (by decide))
  rw [hten]
  omega

theorem field_div_tenTo {x : Float} {n : Nat} (hn : n ≤ 308) (hx : exponentField x ≤ 1900) :
    exponentField (x / tenTo n) ≤ exponentField x + 53 := by
  obtain ⟨hlow, hhigh⟩ := field_tenTo hn
  have hx' : exponentField x ≤ 2046 := by omega
  have hwithin : Within (exponentField x - 1022 : Int)
      (UnpackedFloat.div Format.binary64 x.toModel.unpack (tenTo n).toModel.unpack) :=
    within_div (unpacked_of_field hx') (unpacked_of_field hhigh) hlow (by omega) (by omega)
  have hfield := field_pack hwithin (by omega)
  show exponentField (.ofModel (.pack (UnpackedFloat.div Format.binary64 _ _))) ≤ _
  omega

/-! ## What is read is finite -/

theorem field_scaleByTen {n : UInt64} {e : Int} {y : Float} (h : scaleByTen n.toFloat e = some y) :
    exponentField y ≤ 2046 := by
  have hn := field_toFloat n
  unfold scaleByTen at h
  split at h
  · split at h
    · dsimp only at h
      split at h
      · exact nomatch h
      · rename_i hinf
        obtain rfl := Option.some.inj h
        exact field_mul (by omega) (field_tenTo (by omega)).2 (Bool.not_eq_true _ ▸ hinf)
    split at h
    · obtain rfl := Option.some.inj h
      omega
    · exact nomatch h
  split at h
  · obtain rfl := Option.some.inj h
    have hfield : exponentField (n.toFloat / tenTo (-e).toNat) ≤ exponentField n.toFloat + 53 :=
      field_div_tenTo (by omega) (by omega)
    omega
  split at h
  -- two divisions, neither of which makes the double much larger
  · obtain rfl := Option.some.inj h
    have hfirst : exponentField (n.toFloat / tenTo 308) ≤ exponentField n.toFloat + 53 :=
      field_div_tenTo (by omega) (by omega)
    have hsecond : exponentField (n.toFloat / tenTo 308 / tenTo (-e - 308).toNat) ≤
        exponentField (n.toFloat / tenTo 308) + 53 := field_div_tenTo (by omega) (by omega)
    omega
  · obtain rfl := Option.some.inj h
    decide

/-- The double of a literal is finite. -/
theorem isFinite_number {l : Literal} {x : Float} (h : l.number = some (.float x)) : isFinite x = true := by
  unfold Literal.number at h
  dsimp only at h
  split at h
  · exact nomatch h
  obtain ⟨y, hy, hx⟩ := Option.map_eq_some_iff.mp h
  obtain rfl := Number.float.inj hx
  have hfield := field_scaleByTen hy
  rw [isFinite_iff]
  split
  · exact field_neg hfield
  · exact hfield

/-- **Whatever is read as a double is finite.** -/
theorem IsDouble.isFinite {n : Node} {x : Float} (h : IsDouble n x) : isFinite x = true := by
  cases h with
  | int h =>
      obtain ⟨hint, rfl⟩ := isInteger_of_number h
      have hfits := hint.fits
      rw [isFinite_iff]
      apply field_ofInt
      unfold Literal.signed
      split
      · rwa [Int.natAbs_neg, Int.natAbs_natCast]
      · rwa [Int.natAbs_natCast]
  | float h => exact isFinite_number h

/-- What is read as a double can be kept. -/
theorem IsDouble.isSound {n : Node} {x : Float} (h : IsDouble n x) (depth : Nat) : n.isSound depth = true := by
  cases h with
  | int h => simp [Node.isSound, h]
  | float h => simp [Node.isSound, h]

/-! ## What is read again -/

/-- **A double that is read from its own text as itself.** -/
def Rereads (x : Float) : Prop := decodeText float? (Json.float x).compact = .ok x

theorem rereads_iff (x : Float) : Rereads x ↔ IsDouble (Json.float x).node x := by
  rw [Rereads, decodeText_compact, float_decodes]

end ItemQuery.Json
