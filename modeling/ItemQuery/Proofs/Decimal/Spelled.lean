import ItemQuery.Proofs.Decimal.Distinct
import ItemQuery.Proofs.Json.Literals

/-!
# `Proofs.Decimal.Spelled` — the text of a double shows the double

A layout decides where the point stands, and whether there is an exponent. It does not decide the number: the literal
of a decimal has the value of the decimal in every layout (`value_ofNumeral`). Since the shortest decimal of a double
shows which double it is, so does the text that it is written as, in each layout. In display text the words for the
values that are not finite are no literals, so that all doubles are told apart there (`displayFloat_injective`).

## Contents
- `Literal.value`, `value_ofNumeral`: the number of a literal.
- `eq_of_ofNumeral`: the literal of a finite double shows the double.
- `mem_text`: the characters of literals.
- `displayFloat_injective`, `mem_displayFloat`: doubles in display text.
-/

namespace ItemQuery

open Decimal

namespace Json

/-! ## The number of a literal -/

/-- The number that a literal stands for, without its sign. -/
def Literal.value (l : Literal) : ℚ :=
  Nat.ofDigitChars 10 (l.whole ++ l.fraction) 0 * 10 ^ (Exponent.value l.exponent - l.fraction.length)

theorem ofDigitChars_digits (d : Numeral) : Nat.ofDigitChars 10 d.digits 0 = d.coefficient :=
  Nat.ofDigitChars_ten_toDigits

/-- Zeros behind the digits multiply the number. -/
theorem ofDigitChars_zeros_behind (d : Numeral) (n : Nat) :
    Nat.ofDigitChars 10 (d.digits ++ List.replicate n '0') 0 = 10 ^ n * d.coefficient := by
  rw [Nat.ofDigitChars_append, ofDigitChars_digits, Nat.ofDigitChars_replicate_zero]

/-- Zeros before the digits do not count. -/
theorem ofDigitChars_zeros_before (d : Numeral) (n : Nat) :
    Nat.ofDigitChars 10 (List.replicate n '0' ++ d.digits) 0 = d.coefficient := by
  rw [Nat.ofDigitChars_append, Nat.ofDigitChars_replicate_zero, Nat.mul_zero, ofDigitChars_digits]

theorem exponentValue_some (z : Int) : Exponent.value (some ⟨z < 0, Nat.toDigits 10 z.natAbs⟩) = z := by
  simp only [Exponent.value, Nat.ofDigitChars_ten_toDigits, decide_eq_true_eq]
  split <;> omega

/-- **A decimal keeps its value in every layout.** -/
theorem value_ofNumeral (l : Layout) (negative : Bool) (d : Numeral) :
    (Literal.ofNumeral l negative d).value = d.value := by
  have hlength : 0 < d.digits.length := List.length_pos_of_ne_nil Nat.toDigits_ne_nil
  unfold Literal.ofNumeral Numeral.value
  dsimp only
  split
  · split
    · -- zeros behind the digits, and one more behind a point
      rename_i hexponent
      have hpow : (10 : ℚ) ^ d.exponent = 10 ^ d.exponent.toNat := by
        rw [← zpow_natCast, Int.toNat_of_nonneg hexponent]
      have hzero : (if l.keepsPoint = true then ['0'] else []) =
          List.replicate (if l.keepsPoint = true then 1 else 0) '0' := by
        split <;> rfl
      rw [Literal.value, hzero, List.append_assoc, List.replicate_append_replicate, ofDigitChars_zeros_behind, hpow,
        List.length_replicate, Exponent.value, zero_sub, zpow_neg, zpow_natCast, pow_add]
      push_cast
      field_simp
    split
    · -- the point among the digits
      rename_i hexponent hplaces
      have hpoint : Exponent.value none -
          ((d.digits.drop (d.digits.length - (-d.exponent).toNat)).length : Int) = d.exponent := by
        rw [Exponent.value, List.length_drop]
        omega
      rw [Literal.value, List.take_append_drop, ofDigitChars_digits, hpoint]
    · -- zeros before the digits, the first of them before the point
      rename_i hexponent hplaces
      have hzeros : ['0'] ++ (List.replicate ((-d.exponent).toNat - d.digits.length) '0' ++ d.digits) =
          List.replicate ((-d.exponent).toNat - d.digits.length + 1) '0' ++ d.digits := rfl
      have hpoint : Exponent.value none -
          ((List.replicate ((-d.exponent).toNat - d.digits.length) '0' ++ d.digits).length : Int) = d.exponent := by
        rw [Exponent.value, List.length_append, List.length_replicate]
        omega
      rw [Literal.value, hzeros, ofDigitChars_zeros_before, hpoint]
  · -- one digit before the point, and an exponent
    have hpoint : d.place - ((d.digits.drop 1).length : Int) = d.exponent := by
      rw [Numeral.place, List.length_drop]
      omega
    rw [Literal.value, List.take_append_drop, ofDigitChars_digits, exponentValue_some, hpoint]

theorem negative_ofNumeral (l : Layout) (negative : Bool) (d : Numeral) :
    (Literal.ofNumeral l negative d).negative = negative := by
  unfold Literal.ofNumeral
  dsimp only
  split_ifs <;> rfl

/-- **The literal of a finite double shows the double**, whatever the layout. -/
theorem eq_of_ofNumeral {l : Layout} {x y : Float} {b b' : Binary} (hx : Magnitude.ofFloat x = .finite b)
    (hy : Magnitude.ofFloat y = .finite b')
    (h : Literal.ofNumeral l (isNegative x) (b.shortest l.tie) =
      Literal.ofNumeral l (isNegative y) (b'.shortest l.tie)) : x = y := by
  have hsign := congrArg Literal.negative h
  have hvalue := congrArg Literal.value h
  rw [negative_ofNumeral, negative_ofNumeral] at hsign
  rw [value_ofNumeral, value_ofNumeral] at hvalue
  exact eq_of_shortest hx hy hsign hvalue

/-! ## The characters of a literal -/

/-- A literal is made of digits and four other characters. -/
theorem Literal.Proper.mem_text {l : Literal} (hl : l.Proper) {c : Char} (h : c ∈ l.text) :
    c.isDigit = true ∨ c ∈ ['-', '.', 'e', '+'] := by
  obtain ⟨negative, whole, fraction, exponent⟩ := l
  obtain ⟨hwhole, -, hfraction, hexponent⟩ := hl
  simp only at hwhole hfraction hexponent
  simp only [Literal.text, List.mem_append] at h
  rcases h with ((h | h) | h) | h
  · split at h
    · rw [List.mem_singleton.mp h]
      exact .inr (by decide)
    · exact absurd h List.not_mem_nil
  · exact .inl (hwhole.2 c h)
  · split at h
    · exact absurd h List.not_mem_nil
    · rename_i hne
      rcases List.mem_cons.mp h with rfl | h
      · exact .inr (by decide)
      · exact .inl ((hfraction hne).2 c h)
  · cases exponent with
    | none => exact absurd h List.not_mem_nil
    | some e =>
        rcases List.mem_cons.mp h with rfl | h
        · exact .inr (by decide)
        rcases List.mem_cons.mp h with rfl | h
        · cases e.negative <;> exact .inr (by decide)
        · exact .inl ((hexponent e rfl).2 c h)

end Json

/-! ## Doubles in display text -/

namespace Decimal

open Json (Literal)

variable {x y : Float} {b : Binary}

/-- The literal that a finite double is shown as. -/
def displayLiteral (x : Float) (b : Binary) : Literal :=
  .ofNumeral .display (isNegative x) (b.shortest Layout.display.tie)

theorem proper_displayLiteral (hx : Magnitude.ofFloat x = .finite b) : (displayLiteral x b).Proper :=
  Json.proper_ofNumeral _ _ (b.coefficient_shortest (le_exponent_of_finite hx) _)

theorem displayFloat_finite (hx : Magnitude.ofFloat x = .finite b) :
    displayFloat x = String.ofList (displayLiteral x b).text := by
  rw [displayFloat, hx, displayLiteral, Json.text_ofNumeral]
  rfl

/-- **What is shown of a double** is a literal, or one of three words. -/
theorem displayFloat_cases (x : Float) :
    (∃ b, Magnitude.ofFloat x = .finite b ∧ displayFloat x = String.ofList (displayLiteral x b).text) ∨
      (Magnitude.ofFloat x = .notANumber ∧ displayFloat x = "NaN") ∨
      (Magnitude.ofFloat x = .infinite ∧ displayFloat x = if isNegative x then "-inf" else "inf") := by
  cases hx : Magnitude.ofFloat x with
  | finite b => exact .inl ⟨b, rfl, displayFloat_finite hx⟩
  | notANumber => exact .inr (.inl ⟨rfl, by rw [displayFloat, hx]⟩)
  | infinite => exact .inr (.inr ⟨rfl, by rw [displayFloat, hx]⟩)

/-- The characters that a double is shown with. -/
theorem mem_displayFloat {c : Char} (h : c ∈ (displayFloat x).toList) :
    c.isDigit = true ∨ c ∈ "-.e+infNa".toList := by
  rcases displayFloat_cases x with ⟨b, hx, htext⟩ | ⟨-, htext⟩ | ⟨-, htext⟩
  · have hsub : ['-', '.', 'e', '+'] ⊆ "-.e+infNa".toList := by decide
    rw [htext, String.toList_ofList] at h
    exact ((proper_displayLiteral hx).mem_text h).imp_right (hsub ·)
  · have hsub : "NaN".toList ⊆ "-.e+infNa".toList := by decide
    rw [htext] at h
    exact .inr (hsub h)
  · have hsub : "-inf".toList ⊆ "-.e+infNa".toList ∧ "inf".toList ⊆ "-.e+infNa".toList := by decide
    rw [htext] at h
    split at h
    · exact .inr (hsub.1 h)
    · exact .inr (hsub.2 h)

/-- No word is a literal: each has a letter that no literal has. -/
theorem text_displayLiteral_ne (hx : Magnitude.ofFloat x = .finite b) {word : String}
    (hword : word = "NaN" ∨ word = "inf" ∨ word = "-inf") : String.ofList (displayLiteral x b).text ≠ word := by
  rintro rfl
  have hletter : 'N' ∈ (displayLiteral x b).text ∨ 'i' ∈ (displayLiteral x b).text := by
    rcases hword with h | h | h <;> rw [← String.toList_ofList (l := (displayLiteral x b).text), h] <;> decide
  have hall := fun c => (proper_displayLiteral hx).mem_text (c := c)
  rcases hletter with h | h
  · exact absurd (hall _ h) (by decide)
  · exact absurd (hall _ h) (by decide)

/-- A finite double is shown as no other double is, finite or not. -/
theorem eq_of_displayFloat_finite (hx : Magnitude.ofFloat x = .finite b) (h : displayFloat x = displayFloat y) :
    x = y := by
  rw [displayFloat_finite hx] at h
  rcases displayFloat_cases y with ⟨b', hy, hyt⟩ | ⟨-, hyt⟩ | ⟨-, hyt⟩ <;> rw [hyt] at h
  · have hliteral := (proper_displayLiteral hx).eq_of_text (proper_displayLiteral hy) (String.ofList_inj.mp h)
    exact Json.eq_of_ofNumeral hx hy hliteral
  · exact absurd h (text_displayLiteral_ne hx (.inl rfl))
  · exact absurd h (text_displayLiteral_ne hx (by split <;> simp))

/-- **Two doubles that are shown alike are the same.** -/
theorem displayFloat_injective : Function.Injective displayFloat := by
  intro x y h
  rcases displayFloat_cases x with ⟨b, hx, -⟩ | ⟨hx, hxt⟩ | ⟨hx, hxt⟩
  · exact eq_of_displayFloat_finite hx h
  · rcases displayFloat_cases y with ⟨b', hy, -⟩ | ⟨hy, -⟩ | ⟨-, hyt⟩
    · exact (eq_of_displayFloat_finite hy h.symm).symm
    · exact eq_of_notANumber hx hy
    · rw [hxt, hyt] at h
      split at h <;> exact absurd h (by decide)
  · rcases displayFloat_cases y with ⟨b', hy, -⟩ | ⟨-, hyt⟩ | ⟨hy, hyt⟩
    · exact (eq_of_displayFloat_finite hy h.symm).symm
    · rw [hxt, hyt] at h
      split at h <;> exact absurd h (by decide)
    · refine eq_of_magnitude (hx.trans hy.symm) ?_
      rw [hxt, hyt] at h
      cases hs : isNegative x <;> cases hs' : isNegative y <;> simp [hs, hs'] at h ⊢

end Decimal

end ItemQuery
