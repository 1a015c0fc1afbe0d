import ItemQuery.Json.Decode
import Mathlib

/-!
# `Proofs.Json.Values` — which values scalars, options and lists are read from

Decoders say what is wrong with a value, in the order of the text, and are for that reason longer than what
they accept. What they accept is stated here as relations between a node and the value that it holds, and each
decoder is shown to read exactly its relation (`Decodes`). Records are built on these in `Proofs.Json.Records`.

Only the integers need an argument. A literal is read digit by digit, as long as the number fits 64 bits, and
whether it is an integer at all is decided on the way; the relation `IsInt64` just asks for the number that
the digits make.

## Contents
- `Decodes`: a decoder reads exactly a relation.
- `IsBool`, `IsText`, `IsInt64`, `IsDouble`, `IsOption`, `IsList`: the relations.
- `bool_decodes`, `string_decodes`, `int64_decodes`, `float_decodes`, `option_decodes`, `list_decodes`.
- `isInt64_iff`: the literals of 64-bit integers, by their numbers.
-/

namespace ItemQuery.Json

variable {α β ε : Type}

/-! ## Decoders and relations -/

/-- **A decoder reads exactly a relation**: the node is accepted as the value where the relation holds. -/
def Decodes (d : Decoder α) (R : Node → α → Prop) : Prop := ∀ n a, d n = .ok a ↔ R n a

theorem ok_bind (a : α) (f : α → Except ε β) : (Except.ok a : Except ε α) >>= f = f a := rfl

theorem bind_eq_ok_iff {s : Except ε α} {f : α → Except ε β} {b : β} :
    (s >>= f) = .ok b ↔ ∃ a, s = .ok a ∧ f a = .ok b := by
  cases s with
  | error e =>
      constructor
      · exact fun h => nomatch h
      · exact fun ⟨_, h, _⟩ => nomatch h
  | ok a =>
      constructor
      · exact fun h => ⟨a, rfl, h⟩
      · rintro ⟨a', ha, h⟩
        injection ha with ha
        subst ha
        exact h

theorem map_eq_ok_iff {s : Except ε α} {f : α → β} {b : β} :
    f <$> s = .ok b ↔ ∃ a, s = .ok a ∧ f a = b := by
  cases s with
  | error e =>
      constructor
      · exact fun h => nomatch h
      · exact fun ⟨_, h, _⟩ => nomatch h
  | ok a =>
      constructor
      · exact fun h => ⟨a, rfl, Except.ok.inj h⟩
      · rintro ⟨a', ha, h⟩
        injection ha with ha
        subst ha
        exact congrArg Except.ok h

theorem mismatch_ne_ok (n : Node) (wanted : String) (a : α) : n.mismatch wanted ≠ .ok a := by
  intro h
  obtain ⟨_, _, h⟩ := bind_eq_ok_iff.mp h
  exact nomatch h

/-! ## Booleans and texts -/

/-- The node is the boolean. -/
inductive IsBool : Node → Bool → Prop
  | mk (b : Bool) : IsBool (.bool b) b

/-- The node is the string, and holds no half of a surrogate pair. -/
inductive IsText : Node → String → Prop
  | mk (s : String) : IsText (.string (some s)) s

theorem bool_decodes : Decodes bool? IsBool := by
  intro n b
  constructor
  · intro h
    cases n with
    | bool b' =>
        injection h with h
        subst h
        exact .mk b'
    | _ => exact absurd h (mismatch_ne_ok _ _ _)
  · rintro ⟨⟩
    rfl

theorem string_decodes : Decodes string? IsText := by
  intro n s
  constructor
  · intro h
    cases n with
    | string text =>
        cases text with
        | none => exact absurd h (mismatch_ne_ok _ _ _)
        | some s' =>
            injection h with h
            subst h
            exact .mk s'
    | _ => exact absurd h (mismatch_ne_ok _ _ _)
  · rintro ⟨⟩
    rfl

/-! ## Integers -/

/-- The literal has neither point nor exponent. -/
def Literal.IsWhole (l : Literal) : Prop := l.fraction = [] ∧ l.exponent = none

/-- The number that the digits before the point make. -/
def Literal.magnitude (l : Literal) : Nat := Nat.ofDigitChars 10 l.whole 0

/-- The same with the sign. -/
def Literal.signed (l : Literal) : Int := if l.negative then -l.magnitude else l.magnitude

/-- **The node is an integer literal in the range of 64 bits**, and not `-0`. -/
inductive IsInt64 : Node → Int64 → Prop
  | mk {l : Literal} {a : Int64} (hwhole : l.IsWhole) (hvalue : l.signed = a.toInt)
      (hzero : ¬ (l.negative = true ∧ a = 0)) : IsInt64 (.number l) a

/-- Further digits never make a number smaller. -/
theorem le_ofDigitChars (ds : List Char) (n : Nat) : n ≤ Nat.ofDigitChars 10 ds n := by
  induction ds generalizing n with
  | nil => exact Nat.le_refl n
  | cons d ds ih =>
      rw [Nat.ofDigitChars_cons]
      have hmore := ih (10 * n + (d.toNat - '0'.toNat))
      omega

theorem absorb_cons (n : Nat) (d : Char) (ds : List Char) :
    absorb n (d :: ds) =
      if 10 * n + (d.toNat - '0'.toNat) < 2 ^ 64 then absorb (10 * n + (d.toNat - '0'.toNat)) ds
      else (n, d :: ds) := rfl

/-- **All digits are taken if the number fits 64 bits**, because then it fits after each of them. -/
theorem absorb_of_fits {ds : List Char} {n : Nat} (h : Nat.ofDigitChars 10 ds n < 2 ^ 64) :
    absorb n ds = (Nat.ofDigitChars 10 ds n, []) := by
  induction ds generalizing n with
  | nil => rfl
  | cons d ds ih =>
      rw [Nat.ofDigitChars_cons] at h ⊢
      have hfirst := le_ofDigitChars ds (10 * n + (d.toNat - '0'.toNat))
      rw [absorb_cons, if_pos (Nat.lt_of_le_of_lt hfirst h)]
      exact ih h

/-- Digits that are all taken make a number that fits, as the check comes before each of them. -/
theorem fits_of_absorb {ds : List Char} {n : Nat} (hn : n < 2 ^ 64) (h : (absorb n ds).2 = []) :
    Nat.ofDigitChars 10 ds n < 2 ^ 64 := by
  induction ds generalizing n with
  | nil => exact hn
  | cons d ds ih =>
      rw [Nat.ofDigitChars_cons]
      rw [absorb_cons] at h
      split at h
      · exact ih ‹_› h
      · exact nomatch h

/-- The literal is read as an integer: it fits 64 bits, signed when it has a minus, and is not `-0`. -/
structure Literal.IsInteger (l : Literal) : Prop where
  whole : l.IsWhole
  fits : l.magnitude < 2 ^ 64
  signed : l.negative = true → 0 < l.magnitude ∧ l.magnitude ≤ 2 ^ 63

theorem number_of_isInteger {l : Literal} (h : l.IsInteger) : l.number = some (.int l.signed) := by
  have hsign : (!l.negative || (0 < l.magnitude && l.magnitude ≤ Nat.pow 2 63)) = true := by
    cases hneg : l.negative with
    | false => rfl
    | true =>
        obtain ⟨hpos, hle⟩ := h.signed hneg
        simpa [hpos] using hle
  have habsorb : absorb 0 l.whole = (l.magnitude, []) := absorb_of_fits h.fits
  rw [Literal.number, habsorb]
  simp only [h.whole.1, h.whole.2, hsign, decide_true, Bool.and_self, if_true]
  rfl

theorem isInteger_of_number {l : Literal} {m : Int} (h : l.number = some (.int m)) :
    l.IsInteger ∧ l.signed = m := by
  suffices hint : l.IsInteger by
    rw [number_of_isInteger hint] at h
    injection h with h
    injection h with h
    exact ⟨hint, h⟩
  rw [Literal.number] at h
  split at h
  rename_i n dropped habsorb
  split at h
  · rename_i hint
    simp only [Bool.and_eq_true, decide_eq_true_eq, Bool.or_eq_true, Bool.not_eq_true'] at hint
    obtain ⟨⟨⟨hfraction, hexponent⟩, rfl⟩, hsign⟩ := hint
    have hfits : l.magnitude < 2 ^ 64 :=
      fits_of_absorb (by decide) (congrArg Prod.snd habsorb)
    obtain ⟨rfl, -⟩ := Prod.mk.inj ((absorb_of_fits hfits).symm.trans habsorb)
    refine ⟨⟨hfraction, hexponent⟩, hfits, fun hneg => ?_⟩
    rcases hsign with hpos | hsign
    · exact absurd (hneg.symm.trans hpos) (by decide)
    · exact hsign
  · obtain ⟨x, _, hx⟩ := Option.map_eq_some_iff.mp h
    exact nomatch hx

theorem integer_eq_ok_iff {wanted : String} {least greatest : Int} {n : Node} {m : Int} :
    integer? wanted least greatest n = .ok m ↔
      ∃ l, n = .number l ∧ l.number = some (.int m) ∧ least ≤ m ∧ m ≤ greatest := by
  constructor
  · intro h
    cases n with
    | number l =>
        refine ⟨l, rfl, ?_⟩
        rw [integer?] at h
        split at h
        · rename_i m' hm'
          split at h
          · rename_i hrange
            injection h with h
            subst h
            rw [Bool.and_eq_true, decide_eq_true_eq, decide_eq_true_eq] at hrange
            exact ⟨hm', hrange⟩
          · exact nomatch h
        · exact absurd h (mismatch_ne_ok _ _ _)
    | _ => exact absurd h (mismatch_ne_ok _ _ _)
  · rintro ⟨l, rfl, hm, hleast, hgreatest⟩
    simp only [integer?, hm, hleast, hgreatest, decide_true, Bool.and_self, if_true]

theorem int64_decodes : Decodes int64? IsInt64 := by
  intro n a
  constructor
  · intro h
    obtain ⟨m, hm, ha⟩ := bind_eq_ok_iff.mp h
    injection ha with ha
    obtain ⟨l, rfl, hnumber, hleast, hgreatest⟩ := integer_eq_ok_iff.mp hm
    obtain ⟨hint, hsigned⟩ := isInteger_of_number hnumber
    have hvalue : a.toInt = m := by
      rw [← ha]
      exact Int64.toInt_ofInt_of_le hleast (Int.lt_of_le_sub_one hgreatest)
    refine .mk hint.whole (hsigned.trans hvalue.symm) ?_
    -- `-0` is a double, so that an integer with a minus has a digit other than zero
    rintro ⟨hneg, rfl⟩
    have hpos := (hint.signed hneg).1
    rw [Literal.signed, if_pos hneg, ← hvalue] at hsigned
    change -(l.magnitude : Int) = 0 at hsigned
    omega
  · rintro @⟨l, _, hwhole, hvalue, hzero⟩
    have hleast := a.le_toInt
    have hgreatest := a.toInt_lt
    -- whatever is in the range of signed integers fits 64 bits
    have hint : l.IsInteger := by
      refine ⟨hwhole, ?_, fun hneg => ?_⟩
      · rw [Literal.signed] at hvalue
        split at hvalue <;> omega
      · have hne : a.toInt ≠ 0 := fun h => hzero ⟨hneg, Int64.toInt_inj.mp h⟩
        rw [Literal.signed, if_pos hneg] at hvalue
        omega
    refine bind_eq_ok_iff.mpr ⟨a.toInt, integer_eq_ok_iff.mpr ⟨l, rfl, ?_, hleast, ?_⟩, ?_⟩
    · rw [← hvalue]
      exact number_of_isInteger hint
    · exact Int.le_sub_one_of_lt hgreatest
    · exact congrArg Except.ok (Int64.ofInt_toInt a)

/-- A literal is an integer of 64 bits exactly if that is its number; the sign of `-0` makes it a double. -/
theorem isInt64_iff {l : Literal} {a : Int64} : IsInt64 (.number l) a ↔ l.number = some (.int a.toInt) := by
  rw [← int64_decodes, int64?, bind_eq_ok_iff]
  constructor
  · rintro ⟨m, hm, ha⟩
    obtain ⟨l', hl, hnumber, hleast, hgreatest⟩ := integer_eq_ok_iff.mp hm
    have hvalue : (Int64.ofInt m).toInt = m := Int64.toInt_ofInt_of_le hleast (Int.lt_of_le_sub_one hgreatest)
    rw [Node.number.inj hl, hnumber, ← Except.ok.inj ha, hvalue]
  · intro h
    have hgreatest : a.toInt ≤ Int.pow 2 63 - 1 := Int.le_sub_one_of_lt a.toInt_lt
    refine ⟨a.toInt, integer_eq_ok_iff.mpr ⟨l, rfl, h, a.le_toInt, hgreatest⟩, ?_⟩
    exact congrArg Except.ok (Int64.ofInt_toInt a)

/-! ## Doubles -/

/-- **The node is a number**, an integer being taken to the nearest double. A literal beyond the range of doubles is
    no number here, and the text that has one is not JSON. -/
inductive IsDouble : Node → Float → Prop
  | int {l : Literal} {m : Int} (h : l.number = some (.int m)) : IsDouble (.number l) (Float.ofInt m)
  | float {l : Literal} {x : Float} (h : l.number = some (.float x)) : IsDouble (.number l) x

theorem float_decodes : Decodes float? IsDouble := by
  intro n x
  constructor
  · intro h
    cases n with
    | number l =>
        rw [float?] at h
        split at h
        · injection h with h
          subst h
          exact .int ‹_›
        · injection h with h
          subst h
          exact .float ‹_›
        · exact nomatch h
    | _ => exact absurd h (mismatch_ne_ok _ _ _)
  · rintro (h | h)
    · simp only [float?, h]
    · simp only [float?, h]

/-! ## Options and lists -/

/-- The node is `null`, or a value and not `null`. -/
inductive IsOption (R : Node → α → Prop) : Node → Option α → Prop
  | null : IsOption R .null none
  | given {n : Node} {a : α} (hn : n ≠ .null) (h : R n a) : IsOption R n (some a)

/-- The node is an array of values. -/
inductive IsList (R : Node → α → Prop) : Node → List α → Prop
  | mk {items : List Node} {as : List α} (h : List.Forall₂ R items as) : IsList R (.array items true) as

theorem option_decodes {d : Decoder α} {R : Node → α → Prop} (h : Decodes d R) :
    Decodes (option? d) (IsOption R) := by
  have hgiven {n : Node} (hn : n ≠ .null) (a : Option α) : some <$> d n = .ok a ↔ IsOption R n a := by
    rw [map_eq_ok_iff]
    constructor
    · rintro ⟨a, ha, rfl⟩
      exact .given hn ((h n a).mp ha)
    · rintro (_ | ⟨_, ha⟩)
      · exact absurd rfl hn
      · exact ⟨_, (h n _).mpr ha, rfl⟩
  intro n a
  cases n with
  | null =>
      constructor
      · intro ha
        injection ha with ha
        subst ha
        exact .null
      · rintro (_ | ⟨hn, _⟩)
        · rfl
        · exact absurd rfl hn
  | _ => exact hgiven Node.noConfusion a

theorem listItems_eq_ok_iff {d : Decoder α} {R : Node → α → Prop} (h : Decodes d R) (closed : Bool)
    (items : List Node) (as : List α) :
    items? d closed items = .ok as ↔ closed = true ∧ List.Forall₂ R items as := by
  induction items generalizing as with
  | nil =>
      rw [items?, List.forall₂_nil_left_iff]
      cases closed <;> simp [eq_comm]
  | cons v vs ih =>
      rw [items?, bind_eq_ok_iff]
      constructor
      · rintro ⟨a, ha, has⟩
        obtain ⟨as', has', heq⟩ := bind_eq_ok_iff.mp has
        injection heq with heq
        subst heq
        obtain ⟨hclosed, hrest⟩ := (ih as').mp has'
        exact ⟨hclosed, .cons ((h v a).mp ha) hrest⟩
      · rintro ⟨hclosed, hitems⟩
        cases hitems with
        | @cons _ a _ as' ha has =>
            exact ⟨a, (h v a).mpr ha, bind_eq_ok_iff.mpr ⟨as', (ih as').mpr ⟨hclosed, has⟩, rfl⟩⟩

theorem list_decodes {d : Decoder α} {R : Node → α → Prop} (h : Decodes d R) :
    Decodes (list? d) (IsList R) := by
  intro n as
  constructor
  · intro has
    cases n with
    | array items closed =>
        obtain ⟨rfl, hitems⟩ := (listItems_eq_ok_iff h closed items as).mp has
        exact .mk hitems
    | _ => exact absurd has (mismatch_ne_ok _ _ _)
  · rintro ⟨hitems⟩
    exact (listItems_eq_ok_iff h true _ as).mpr ⟨rfl, hitems⟩

/-! ## Whole texts -/

/-- A text is read if its first value is, and nothing but blanks follows. -/
theorem decodeText_eq_ok_iff (d : Decoder α) (text : String) (a : α) :
    decodeText d text = .ok a ↔
      d (Source.ofString text).node = .ok a ∧ (Source.ofString text).ended = true := by
  refine bind_eq_ok_iff.trans ⟨?_, ?_⟩
  · rintro ⟨a', ha, h⟩
    split at h
    · injection h with h
      subst h
      exact ⟨ha, ‹_›⟩
    · exact nomatch h
  · rintro ⟨ha, hended⟩
    refine ⟨a, ha, ?_⟩
    rw [if_pos hended]
    rfl

end ItemQuery.Json
