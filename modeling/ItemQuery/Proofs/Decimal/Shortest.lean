import ItemQuery.Decimal.Shortest
import Mathlib.Tactic.Ring

/-!
# `Proofs.Decimal.Shortest` — the shortest decimal of a double rounds to it

The search for the shortest decimal of a double goes from coarse grids to finer ones and takes a fixed number of
tries. That the tries suffice is what has to be proved, since a search that runs out of them answers zero. Ten has
a factor two for each halving of the unit, so that a double is itself a point of the grid `10 ^ -n` as soon as its
unit is no finer than `2 ^ -n`, and no double has a finer unit than `2 ^ -1074`.

Where the decimal is written, only a consequence is needed: it has a digit other than zero, unless the double is
zero. Otherwise its text could begin with zeros.

## Contents
- `covers_of_onGrid`, `onGrid_ne_none`: one grid.
- `covers_shortest`: the shortest decimal rounds to its double.
- `coefficient_shortest`: it is zero only for zero.
-/

namespace ItemQuery.Decimal

/-- No finite double has a finer unit than the least. -/
theorem le_exponent_of_finite {x : Float} {b : Binary} (h : Magnitude.ofFloat x = .finite b) :
    -1074 ≤ b.exponent := by
  unfold Magnitude.ofFloat at h
  dsimp only at h
  split at h
  · split at h <;> exact nomatch h
  · obtain rfl := Magnitude.finite.inj h
    unfold Binary.ofFields
    split
    · exact Int.le_refl _
    · show (-1074 : Int) ≤ _ - 1075
      omega

namespace Binary

variable {b : Binary} {d : Numeral} {tie : Tie}

/-! ## One grid -/

theorem scale_pos (b : Binary) (g : Int) : 0 < (b.scale g).1 ∧ 0 < (b.scale g).2 := by
  have hpow (m n : Nat) : 0 < Nat.pow 2 m * Nat.pow 10 n :=
    Nat.mul_pos (Nat.pow_pos (by decide)) (Nat.pow_pos (by decide))
  exact ⟨hpow _ _, hpow _ _⟩

theorem lower_lt_quarters (h : b.significand ≠ 0) : b.lower < b.quarters := by
  unfold lower quarters
  split <;> omega

theorem lower_pos (h : b.significand ≠ 0) : 0 < b.lower := by
  unfold lower quarters
  split <;> omega

/-- A decimal strictly inside the interval is covered, whether or not the ends belong to it. -/
theorem covers_of_between (hlo : b.lower * (b.scale d.exponent).1 < d.coefficient * (b.scale d.exponent).2)
    (hhi : d.coefficient * (b.scale d.exponent).2 < b.upper * (b.scale d.exponent).1) : b.covers d = true := by
  unfold covers
  dsimp only
  split
  · simp only [Bool.and_eq_true, decide_eq_true_eq]
    exact ⟨Nat.le_of_lt hlo, Nat.le_of_lt hhi⟩
  · simp only [Bool.and_eq_true, decide_eq_true_eq]
    exact ⟨hlo, hhi⟩

/-- What rounds to a double that is not zero is not zero. -/
theorem coefficient_pos_of_covers (hb : b.significand ≠ 0) (h : b.covers d = true) : 0 < d.coefficient := by
  have hlower : 0 < b.lower * (b.scale d.exponent).1 := Nat.mul_pos (lower_pos hb) (b.scale_pos _).1
  have hle : b.lower * (b.scale d.exponent).1 ≤ d.coefficient * (b.scale d.exponent).2 := by
    unfold covers at h
    dsimp only at h
    split at h <;> simp only [Bool.and_eq_true, decide_eq_true_eq] at h
    · exact h.1
    · exact Nat.le_of_lt h.1
  exact Nat.pos_of_ne_zero fun hzero => by
    rw [hzero, Nat.zero_mul] at hle
    omega

/-- What a grid is left with is covered. -/
theorem covers_of_onGrid {g : Int} {c : Nat} (h : b.onGrid tie g = some c) : b.covers ⟨c, g⟩ = true := by
  unfold onGrid at h
  dsimp only at h
  split at h
  · rename_i hbelow _
    rw [← Option.some.inj h]
    exact hbelow
  · rename_i _ habove
    rw [← Option.some.inj h]
    exact habove
  · exact nomatch h
  · rename_i hbelow habove
    split at h
    · rw [← Option.some.inj h]
      exact hbelow
    split at h
    · rw [← Option.some.inj h]
      exact habove
    cases tie with
    | awayFromZero =>
        rw [← Option.some.inj h]
        exact habove
    | toEven =>
        rw [← Option.some.inj h]
        split
        · exact hbelow
        · exact habove

theorem two_pow_dvd_four_mul (n : Nat) : 2 ^ (n + 2) ∣ 4 * 10 ^ n := by
  refine ⟨5 ^ n, ?_⟩
  have hten : (10 : Nat) ^ n = 2 ^ n * 5 ^ n := Nat.mul_pow 2 5 n
  rw [hten]
  ring

/-- On a grid as fine as its unit a double stands itself. -/
theorem onGrid_ne_none {n : Nat} (hb : b.significand ≠ 0) (he : -n ≤ b.exponent) :
    b.onGrid tie (-n) ≠ none := by
  -- the value is a multiple of the step, since ten has a factor two for each halving of the unit
  have hdvd : (b.scale (-n)).2 ∣ b.quarters * (b.scale (-n)).1 := by
    have hstep : (b.scale (-n)).2 = 2 ^ (-(b.exponent - 2)).toNat := by simp [scale]
    have hquarter : (b.scale (-n)).1 = 2 ^ (b.exponent - 2).toNat * 10 ^ n := by simp [scale]
    have hle : (-(b.exponent - 2)).toNat ≤ n + 2 := by omega
    have hten := Nat.dvd_trans (Nat.pow_dvd_pow 2 hle) (two_pow_dvd_four_mul n)
    rw [hstep, hquarter, quarters]
    exact Nat.dvd_trans hten ⟨b.significand * 2 ^ (b.exponent - 2).toNat, by ring⟩
  have hvalue := Nat.div_mul_cancel hdvd
  have hcovers : b.covers ⟨b.quarters * (b.scale (-n)).1 / (b.scale (-n)).2, -n⟩ = true := by
    apply covers_of_between
    · show _ < _ / _ * _
      rw [hvalue]
      exact Nat.mul_lt_mul_of_pos_right (lower_lt_quarters hb) (b.scale_pos _).1
    · show _ / _ * _ < _
      rw [hvalue]
      exact Nat.mul_lt_mul_of_pos_right (by unfold upper; omega) (b.scale_pos _).1
  unfold onGrid
  dsimp only
  rw [hcovers]
  intro hnone
  split at hnone
  · exact nomatch hnone
  · rename_i hbelow _
    exact nomatch hbelow
  · rename_i hbelow _
    exact nomatch hbelow
  · split at hnone
    · exact nomatch hnone
    split at hnone
    · exact nomatch hnone
    cases tie <;> exact nomatch hnone

/-! ## The search -/

/-- **The search ends with a hit**, if it goes as far as the finest grid. -/
theorem covers_search {n : Nat} (hb : b.significand ≠ 0) (he : -n ≤ b.exponent) {tries : Nat} {g : Int}
    (hfinest : -n ≤ g) (htries : g < -n + tries) : b.covers (b.search tie tries g) = true := by
  induction tries generalizing g with
  | zero => omega
  | succ tries ih =>
      rw [search]
      split
      · rename_i c hc
        exact covers_of_onGrid hc
      · rename_i hnone
        -- a grid with nothing on it is not the finest, so that a finer one is left
        have hne : g ≠ -n := by
          rintro rfl
          exact onGrid_ne_none hb he hnone
        exact ih (by omega) (by omega)

/-- **The shortest decimal of a double rounds to it.** -/
theorem covers_shortest (b : Binary) (he : -1074 ≤ b.exponent) (tie : Tie) :
    b.covers (b.shortest tie) = true := by
  unfold shortest
  split
  · rename_i hzero
    unfold covers lower upper quarters
    simp [hzero]
  · rename_i hb
    dsimp only
    generalize (Nat.toDigits 10 (b.upper * (b.scale 0).1 / (b.scale 0).2)).length = start
    have hunit : -(1074 : Nat) ≤ b.exponent := he
    exact covers_search hb hunit (by omega) (by omega)

/-- The shortest decimal is zero only for zero. -/
theorem coefficient_shortest (b : Binary) (he : -1074 ≤ b.exponent) (tie : Tie) :
    b.shortest tie = ⟨0, 0⟩ ∨ 0 < (b.shortest tie).coefficient := by
  by_cases hb : b.significand = 0
  · exact .inl (by rw [shortest, if_pos hb])
  · exact .inr (coefficient_pos_of_covers hb (b.covers_shortest he tie))

end Binary

end ItemQuery.Decimal
