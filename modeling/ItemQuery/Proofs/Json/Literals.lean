import ItemQuery.Json.Basic
import ItemQuery.Proofs.Json.Values
import Mathlib.Data.List.TakeDrop

/-!
# `Proofs.Json.Literals` — the numbers that are written are read as they are written

A number literal is kept as it stands in a text. Every literal of the right form is read whole from its own text,
if what comes after it is something that may follow a value (`lex_text`). So what remains for a number that is
written is to name its literal, and to see that it has the right form.

Nothing here is about what a literal means, save for integers. Whether the double that a decimal was made of is
the one that is read from it depends on the rounding of the reader, which is not exact.

## Contents
- `Literal.text`, `Literal.Proper`, `Follows`: texts of literals, and what may follow a value.
- `lex_text`, `Literal.Proper.eq_of_text`: a literal is read from its text, which therefore shows it.
- `Literal.ofInt`, `text_ofInt`, `ofInt_injective`, `isInt64_ofInt`: the literals of integers.
- `Literal.ofNumeral`, `text_ofNumeral`, `proper_ofNumeral`: the literals of decimals, in any layout.
-/

namespace ItemQuery.Json

open Decimal

/-! ## Literals as texts -/

/-- At least one digit, and nothing else. -/
def IsDigits (ds : List Char) : Prop := ds ≠ [] ∧ ∀ c ∈ ds, c.isDigit = true

/-- **What may follow a value** in a text without blanks: nothing, a comma, or a closing bracket. -/
def Follows (rest : List Char) : Prop := ∀ c, rest.head? = some c → c ∈ [',', ']', '\x7d']

/-- The text of an exponent. -/
def Exponent.text (e : Exponent) : List Char := 'e' :: (if e.negative then '-' else '+') :: e.digits

/-- The text of a literal. -/
def Literal.text (l : Literal) : List Char :=
  (if l.negative then ['-'] else []) ++ l.whole ++ (if l.fraction = [] then [] else '.' :: l.fraction) ++
    ((l.exponent.map Exponent.text).getD [])

/-- **The literal can stand in a text**: there are digits where digits have to be, and no zero stands before others. -/
structure Literal.Proper (l : Literal) : Prop where
  whole : IsDigits l.whole
  zero : l.whole.head? = some '0' → l.whole = ['0']
  fraction : l.fraction ≠ [] → IsDigits l.fraction
  exponent : ∀ e, l.exponent = some e → IsDigits e.digits

/-- Nothing that may follow a value could belong to a literal. -/
theorem Follows.head {rest : List Char} (h : Follows rest) {c : Char} (hc : rest.head? = some c) :
    c.isDigit = false ∧ c ≠ '.' ∧ c ≠ 'e' ∧ c ≠ 'E' := by
  have hall : ∀ c ∈ [',', ']', '\x7d'], c.isDigit = false ∧ c ≠ '.' ∧ c ≠ 'e' ∧ c ≠ 'E' := by simp
  exact hall c (h c hc)

theorem lexDigits_append {ds rest : List Char} (hds : IsDigits ds)
    (hrest : ∀ c, rest.head? = some c → c.isDigit = false) : lexDigits (ds ++ rest) = some (ds, rest) := by
  have htake : rest.takeWhile Char.isDigit = [] ∧ rest.dropWhile Char.isDigit = rest := by
    cases rest with
    | nil => exact ⟨rfl, rfl⟩
    | cons c rest => simp [hrest c rfl]
  have hspan : (ds ++ rest).span Char.isDigit = (ds, rest) := by
    rw [List.span_eq_takeWhile_dropWhile, List.takeWhile_append_of_pos hds.2, List.dropWhile_append_of_pos hds.2,
      htake.1, htake.2, List.append_nil]
  rw [lexDigits, hspan]
  cases ds with
  | nil => exact absurd rfl hds.1
  | cons d ds => rfl

theorem lexWhole_append {ds rest : List Char} (hds : IsDigits ds) (hzero : ds.head? = some '0' → ds = ['0'])
    (hrest : ∀ c, rest.head? = some c → c.isDigit = false) : lexWhole (ds ++ rest) = some (ds, rest) := by
  rw [lexWhole, lexDigits_append hds hrest]
  split
  · rename_i h
    obtain ⟨rfl, _⟩ := Prod.mk.inj (Option.some.inj h)
    exact absurd (hzero rfl) (by simp)
  · rfl

theorem lexExponent_none {rest : List Char} (h : Follows rest) : lexExponent rest = some (none, rest) := by
  cases rest with
  | nil => rfl
  | cons c rest =>
      obtain ⟨_, _, hlower, hupper⟩ := h.head rfl
      have hne : ¬ (c = 'e' || c = 'E') = true := by simp [hlower, hupper]
      show (if (c = 'e' || c = 'E') = true then _ else _) = _
      rw [if_neg hne]

theorem lexExponent_some {e : Exponent} {rest : List Char} (he : IsDigits e.digits) (h : Follows rest) :
    lexExponent (e.text ++ rest) = some (some e, rest) := by
  obtain ⟨negative, ds⟩ := e
  have hdigits := lexDigits_append he fun _ hc => (h.head hc).1
  cases negative <;> simp [Exponent.text, lexExponent, hdigits]

theorem lexExponent_append {e : Option Exponent} {rest : List Char} (he : ∀ e', e = some e' → IsDigits e'.digits)
    (h : Follows rest) : lexExponent ((e.map Exponent.text).getD [] ++ rest) = some (e, rest) := by
  cases e with
  | none => exact lexExponent_none h
  | some e => exact lexExponent_some (he e rfl) h

/-- A minus, if there is one. -/
def lexSign : List Char → Bool × List Char
  | '-' :: rest => (true, rest)
  | s => (false, s)

/-- The digits after a point, if there is one. -/
def lexFraction : List Char → Option (List Char × List Char)
  | '.' :: rest => lexDigits rest
  | s => some ([], s)

/-- A literal is read in four parts. -/
theorem lex_eq (s : List Char) :
    Literal.lex s = (lexWhole (lexSign s).2).bind fun w => (lexFraction w.2).bind fun f =>
      (lexExponent f.2).bind fun e => some (⟨(lexSign s).1, w.1, f.1, e.1⟩, e.2) := by
  unfold Literal.lex lexSign lexFraction
  simp only [Option.bind_eq_bind]
  -- both sides begin with the same digits, and differ in how they look for a point after them
  congr 1
  funext w
  obtain ⟨whole, s'⟩ := w
  cases s' with
  | nil => rfl
  | cons c s' =>
      by_cases hc : c = '.'
      · subst hc
        rfl
      · simp only [hc, imp_false, List.cons.injEq, false_and, not_false_eq_true, implies_true, Option.bind_some]
        rfl

theorem lexSign_append {negative : Bool} {ds rest : List Char} (hds : IsDigits ds) :
    lexSign ((if negative = true then ['-'] else []) ++ (ds ++ rest)) = (negative, ds ++ rest) := by
  cases negative with
  | true => rfl
  | false =>
      cases ds with
      | nil => exact absurd rfl hds.1
      | cons d ds =>
          show lexSign (d :: (ds ++ rest)) = _
          unfold lexSign
          split
          · rename_i h
            injection h with hd _
            exact absurd (hds.2 d List.mem_cons_self) (by rw [hd]; decide)
          · rfl

theorem lexFraction_append {ds rest : List Char} (hds : ds ≠ [] → IsDigits ds)
    (hrest : ∀ c, rest.head? = some c → c.isDigit = false ∧ c ≠ '.') :
    lexFraction ((if ds = [] then [] else '.' :: ds) ++ rest) = some (ds, rest) := by
  by_cases hnil : ds = []
  · subst hnil
    show lexFraction rest = _
    unfold lexFraction
    split
    · exact absurd rfl (hrest _ rfl).2
    · rfl
  · rw [if_neg hnil]
    exact lexDigits_append (hds hnil) fun c hc => (hrest c hc).1

/-- **A literal is read from its text**, whatever may follow a value. -/
theorem lex_text {l : Literal} (hl : l.Proper) {rest : List Char} (h : Follows rest) :
    Literal.lex (l.text ++ rest) = some (l, rest) := by
  obtain ⟨negative, whole, fraction, exponent⟩ := l
  obtain ⟨hwhole, hzero, hfraction, hexponent⟩ := hl
  simp only at hwhole hzero hfraction hexponent
  have hexp := lexExponent_append hexponent h
  -- what comes next after the digits of a fraction is no digit and no point
  have hnext : ∀ c, ((exponent.map Exponent.text).getD [] ++ rest).head? = some c →
      c.isDigit = false ∧ c ≠ '.' := by
    intro c hc
    cases exponent with
    | none =>
        obtain ⟨hdigit, hpoint, _⟩ := h.head hc
        exact ⟨hdigit, hpoint⟩
    | some e =>
        obtain rfl : 'e' = c := Option.some.inj hc
        decide
  have hfrac := lexFraction_append hfraction hnext
  have hpoint : ∀ c, ((if fraction = [] then [] else '.' :: fraction) ++
      ((exponent.map Exponent.text).getD [] ++ rest)).head? = some c → c.isDigit = false := by
    intro c hc
    by_cases hnil : fraction = []
    · rw [if_pos hnil] at hc
      exact (hnext c hc).1
    · rw [if_neg hnil] at hc
      obtain rfl : '.' = c := Option.some.inj hc
      decide
  have hint := lexWhole_append hwhole hzero hpoint
  rw [lex_eq]
  simp only [Literal.text, List.append_assoc, lexSign_append hwhole, hint, hfrac, hexp, Option.bind_some]

theorem follows_nil : Follows [] := fun _ hc => nomatch hc

/-- **The text of a literal shows the literal.** -/
theorem Literal.Proper.eq_of_text {l l' : Literal} (hl : l.Proper) (hl' : l'.Proper) (h : l.text = l'.text) :
    l = l' := by
  have hlex := lex_text hl follows_nil
  rw [h, lex_text hl' follows_nil] at hlex
  exact (Prod.mk.inj (Option.some.inj hlex)).1.symm

/-! ## Integers -/

/-- The literal that an integer is written as. -/
def Literal.ofInt (n : Int) : Literal := ⟨n < 0, Nat.toDigits 10 n.natAbs, [], none⟩

theorem isDigits_toDigits (n : Nat) : IsDigits (Nat.toDigits 10 n) :=
  ⟨Nat.toDigits_ne_nil, fun _ hc => Nat.isDigit_of_mem_toDigits (by decide) (by decide) hc⟩

/-- A number other than zero does not begin with a zero. -/
theorem head_toDigits {n : Nat} (hn : 0 < n) : (Nat.toDigits 10 n).head? ≠ some '0' := by
  -- the first digit of a number is that of its tenth part, down to a single digit
  induction n using Nat.strongRecOn with
  | ind n ih =>
      by_cases hlt : n < 10
      · have hdigit : ∀ m < 10, 0 < m → Nat.digitChar m ≠ '0' := by decide
        rw [Nat.toDigits_of_lt_base hlt]
        exact fun h => hdigit n hlt hn (Option.some.inj h)
      · rw [Nat.toDigits_of_base_le (by decide) (by omega)]
        have hhead := ih (n / 10) (by omega) (by omega)
        rwa [List.head?_append_of_ne_nil _ Nat.toDigits_ne_nil]

theorem toDigits_of_head {n : Nat} (h : (Nat.toDigits 10 n).head? = some '0') : Nat.toDigits 10 n = ['0'] := by
  cases n with
  | zero => rfl
  | succ n => exact absurd h (head_toDigits n.succ_pos)

theorem proper_ofInt (n : Int) : (Literal.ofInt n).Proper where
  whole := isDigits_toDigits _
  zero := toDigits_of_head
  fraction h := absurd rfl h
  exponent := nofun

theorem text_ofInt (n : Int) : (Literal.ofInt n).text = n.repr.toList := by
  cases n with
  | ofNat m =>
      simp [Literal.text, Literal.ofInt, Int.repr, Nat.repr]
  | negSucc m =>
      have hsign : Int.negSucc m < 0 := Int.negSucc_lt_zero m
      simp [Literal.text, Literal.ofInt, Int.repr, Nat.repr, hsign]

theorem magnitude_ofInt (n : Int) : (Literal.ofInt n).magnitude = n.natAbs := Nat.ofDigitChars_ten_toDigits

/-- The literal of an integer shows the integer. -/
theorem ofInt_injective : Function.Injective Literal.ofInt := by
  intro a b h
  have hsign : decide (a < 0) = decide (b < 0) := congrArg Literal.negative h
  have hmagnitude := congrArg Literal.magnitude h
  rw [magnitude_ofInt, magnitude_ofInt] at hmagnitude
  rw [decide_eq_decide] at hsign
  omega

/-- **An integer of 64 bits is read from the literal that it is written as.** -/
theorem isInt64_ofInt (a : Int64) : IsInt64 (.number (.ofInt a.toInt)) a := by
  have hmagnitude := magnitude_ofInt a.toInt
  refine .mk ⟨rfl, rfl⟩ ?_ ?_
  · rw [Literal.signed, hmagnitude]
    by_cases hneg : a.toInt < 0
    · rw [if_pos (by simpa [Literal.ofInt] using hneg)]
      omega
    · rw [if_neg (by simpa [Literal.ofInt] using hneg)]
      omega
  · rintro ⟨hneg, rfl⟩
    exact absurd hneg (by decide)

/-! ## Decimals -/

/-- The literal that a decimal is written as in a layout: with a point, with an exponent, with both, or with neither. -/
def Literal.ofNumeral (l : Layout) (negative : Bool) (d : Numeral) : Literal :=
  if l.positional d.place then
    let places := (-d.exponent).toNat
    if 0 ≤ d.exponent then
      ⟨negative, d.digits ++ List.replicate d.exponent.toNat '0', if l.keepsPoint then ['0'] else [], none⟩
    else if places < d.digits.length then
      ⟨negative, d.digits.take (d.digits.length - places), d.digits.drop (d.digits.length - places), none⟩
    else ⟨negative, ['0'], List.replicate (places - d.digits.length) '0' ++ d.digits, none⟩
  else ⟨negative, d.digits.take 1, d.digits.drop 1, some ⟨d.place < 0, Nat.toDigits 10 d.place.natAbs⟩⟩

theorem text_ofNumeral (l : Layout) (negative : Bool) (d : Numeral) :
    (Literal.ofNumeral l negative d).text = (if negative = true then ['-'] else []) ++ l.write d := by
  have hne : d.digits ≠ [] := Nat.toDigits_ne_nil
  unfold Literal.ofNumeral Layout.write
  by_cases hplace : l.positional d.place = true
  · rw [if_pos hplace, if_pos hplace]
    unfold Layout.writePositional
    dsimp only
    -- zeros behind the digits, a point among them, or zeros before them
    by_cases hexponent : 0 ≤ d.exponent
    · cases l.keepsPoint <;> simp [hexponent, Literal.text]
    · by_cases hplaces : (-d.exponent).toNat < d.digits.length
      · have hdrop : d.digits.drop (d.digits.length - (-d.exponent).toNat) ≠ [] := by
          rw [Ne, List.drop_eq_nil_iff]
          omega
        simp [hexponent, hplaces, Literal.text, hdrop]
      · simp [hexponent, hplaces, Literal.text, hne]
  · rw [if_neg hplace, if_neg hplace]
    unfold writeScientific
    cases hdigits : d.digits with
    | nil => exact absurd hdigits hne
    | cons c cs =>
        cases cs with
        | nil => simp [Literal.text, Exponent.text]
        | cons c' cs => simp [Literal.text, Exponent.text]

theorem IsDigits.subset {ds ds' : List Char} (h : IsDigits ds) (hne : ds' ≠ []) (hsub : ds' ⊆ ds) :
    IsDigits ds' := ⟨hne, fun c hc => h.2 c (hsub hc)⟩

theorem isDigit_of_mem_zeros {n : Nat} {c : Char} (h : c ∈ List.replicate n '0') : c.isDigit = true := by
  rw [List.eq_of_mem_replicate h]
  rfl

/-- Zeros before or after digits are digits. -/
theorem IsDigits.append_zeros {ds : List Char} (h : IsDigits ds) (n : Nat) :
    IsDigits (ds ++ List.replicate n '0') ∧ IsDigits (List.replicate n '0' ++ ds) := by
  refine ⟨⟨by simp [h.1], fun c hc => ?_⟩, by simp [h.1], fun c hc => ?_⟩
  · exact (List.mem_append.mp hc).elim (h.2 c) isDigit_of_mem_zeros
  · exact (List.mem_append.mp hc).elim isDigit_of_mem_zeros (h.2 c)

/-- **The literal of a decimal can stand in a text.** Zero has to have no exponent, as it would be filled with zeros
    behind its own. -/
theorem proper_ofNumeral (l : Layout) (negative : Bool) {d : Numeral} (hd : d = ⟨0, 0⟩ ∨ 0 < d.coefficient) :
    (Literal.ofNumeral l negative d).Proper := by
  have hdigits : IsDigits d.digits := isDigits_toDigits _
  have hone : IsDigits ['0'] := isDigits_toDigits 0
  have hpoint : (if l.keepsPoint = true then ['0'] else []) ≠ [] →
      IsDigits (if l.keepsPoint = true then ['0'] else []) := by
    split
    · exact fun _ => hone
    · exact fun h => absurd rfl h
  rcases hd with rfl | hpos
  · unfold Literal.ofNumeral
    split
    · exact ⟨hone, fun _ => rfl, hpoint, nofun⟩
    · refine ⟨hone, fun _ => rfl, fun h => absurd rfl h, fun e he => ?_⟩
      obtain rfl := Option.some.inj he
      exact hone
  have hhead : d.digits.head? ≠ some '0' := head_toDigits hpos
  have htake {n : Nat} (hn : 0 < n) : IsDigits (d.digits.take n) ∧ (d.digits.take n).head? ≠ some '0' := by
    have hne : d.digits.take n ≠ [] := by simp [hdigits.1, Nat.ne_of_gt hn]
    refine ⟨hdigits.subset hne (List.take_subset n _), ?_⟩
    rwa [List.head?_take, if_neg (Nat.ne_of_gt hn)]
  unfold Literal.ofNumeral
  -- a part of the digits that stands before the point begins like the digits, other than with a zero
  split
  · dsimp only
    split
    · have hwhole := (hdigits.append_zeros d.exponent.toNat).1
      refine ⟨hwhole, fun h => ?_, hpoint, nofun⟩
      rw [List.head?_append_of_ne_nil _ hdigits.1] at h
      exact absurd h hhead
    split
    · obtain ⟨hwhole, hzero⟩ := htake (n := d.digits.length - (-d.exponent).toNat) (by omega)
      exact ⟨hwhole, fun h => absurd h hzero, fun h => hdigits.subset h (List.drop_subset _ _), nofun⟩
    · exact ⟨hone, fun _ => rfl, fun _ => (hdigits.append_zeros _).2, nofun⟩
  · obtain ⟨hwhole, hzero⟩ := htake Nat.one_pos
    refine ⟨hwhole, fun h => absurd h hzero, fun h => hdigits.subset h (List.drop_subset _ _), fun e he => ?_⟩
    obtain rfl := Option.some.inj he
    exact isDigits_toDigits _

end ItemQuery.Json
