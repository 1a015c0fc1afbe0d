import ItemQuery.Proofs.Path.Names
import ItemQuery.Text.Quoted
import ItemQuery.Text.Split

/-!
# `Proofs.Text.Quoted` — a quoted text shows the text, wherever it stands

A quoted text is followed by more of a line. So the main fact is about two lines that begin with quoted texts: if the
lines are the same, so are the texts, and what follows them (`quote_append_inj`). The closing quote is found because
no escape begins with a quote, and every escape shows its character and where it ends: a letter by itself, a code
point by its closing brace, which is no hexadecimal digit.

A quoted text holds printable characters only, whatever the text.

## Contents
- `hexDigits_injective`, `isHex_of_mem_hexDigits`: code points.
- `Escaped`, `escaped`: the three ways in which a character is written.
- `escapeChar_append_inj`, `quote_append_inj`: what follows does not matter.
- `quoteChar_injective`: a character by itself, between quotes of the other kind.
- `isPrintable_of_mem_quote`, `not_isControl_of_isPrintable`: only printable characters are written.
-/

namespace ItemQuery.Text

/-! ## Code points -/

/-- A hexadecimal digit in lower case. -/
def IsHex (c : Char) : Prop := ∃ n < 16, c = Nat.digitChar n

theorem digitChar_inj {n m : Nat} (hn : n < 16) (hm : m < 16) (h : Nat.digitChar n = Nat.digitChar m) : n = m := by
  have hall : ∀ a < 16, ∀ b < 16, Nat.digitChar a = Nat.digitChar b → a = b := by decide
  exact hall n hn m hm h

/-- A number from the base on has a last digit and others before it. -/
theorem toDigits_of_not_lt {n : Nat} (hn : ¬ n < 16) :
    Nat.toDigits 16 n = Nat.toDigits 16 (n / 16) ++ [Nat.digitChar (n % 16)] :=
  Nat.toDigits_of_base_le (by decide) (by omega)

theorem toDigits_ne_singleton {n : Nat} (hn : ¬ n < 16) (c : Char) : Nat.toDigits 16 n ≠ [c] := by
  intro h
  have hlength := congrArg List.length h
  have hpos := List.length_pos_iff.mpr (Nat.toDigits_ne_nil (b := 16) (n := n / 16))
  rw [toDigits_of_not_lt hn, List.length_append, List.length_singleton, List.length_singleton] at hlength
  omega

theorem toDigits_injective : Function.Injective (Nat.toDigits 16) := by
  intro n
  induction n using Nat.strongRecOn with
  | ind n ih =>
      intro m h
      by_cases hn : n < 16
      · rw [Nat.toDigits_of_lt_base hn] at h
        by_cases hm : m < 16
        · rw [Nat.toDigits_of_lt_base hm] at h
          exact digitChar_inj hn hm (List.singleton_inj.mp h)
        · exact absurd h.symm (toDigits_ne_singleton hm _)
      · by_cases hm : m < 16
        · rw [Nat.toDigits_of_lt_base hm] at h
          exact absurd h (toDigits_ne_singleton hn _)
        · rw [toDigits_of_not_lt hn, toDigits_of_not_lt hm] at h
          obtain ⟨hrest, hlast⟩ := List.append_inj' h rfl
          have hdiv := ih (n / 16) (by omega) hrest
          have hmod := digitChar_inj (Nat.mod_lt n (by decide)) (Nat.mod_lt m (by decide)) (List.singleton_inj.mp hlast)
          omega

theorem hexDigits_injective : Function.Injective hexDigits :=
  fun _ _ h => Char.toNat_inj.mp (toDigits_injective h)

theorem isHex_of_mem_hexDigits {c d : Char} (h : d ∈ hexDigits c) : IsHex d := by
  unfold hexDigits at h
  generalize c.toNat = n at h
  induction n using Nat.strongRecOn with
  | ind n ih =>
      by_cases hn : n < 16
      · rw [Nat.toDigits_of_lt_base hn] at h
        exact ⟨n, hn, List.mem_singleton.mp h⟩
      · rw [toDigits_of_not_lt hn, List.mem_append] at h
        rcases h with h | h
        · exact ih (n / 16) (by omega) h
        · exact ⟨n % 16, Nat.mod_lt n (by decide), List.mem_singleton.mp h⟩

theorem IsHex.ne_brace {c : Char} (h : IsHex c) : c ≠ '\x7d' := by
  have hall : ∀ n < 16, Nat.digitChar n ≠ '\x7d' := by decide
  obtain ⟨n, hn, rfl⟩ := h
  exact hall n hn

/-- The closing brace shows where a code point ends. -/
theorem hexDigits_append_inj {c d : Char} {s t : List Char}
    (h : hexDigits c ++ '\x7d' :: s = hexDigits d ++ '\x7d' :: t) : c = d ∧ s = t := by
  have hc : '\x7d' ∉ hexDigits c := fun hmem => (isHex_of_mem_hexDigits hmem).ne_brace rfl
  have hd : '\x7d' ∉ hexDigits d := fun hmem => (isHex_of_mem_hexDigits hmem).ne_brace rfl
  have hsplit := splitAtFirst_append hc s
  rw [h, splitAtFirst_append hd t] at hsplit
  obtain ⟨hdigits, hrest⟩ := Prod.mk.inj hsplit
  exact ⟨hexDigits_injective hdigits.symm, (Option.some.inj hrest).symm⟩

/-! ## One character -/

/-- The character that a letter after a backslash stands for. -/
def unescape : Char → Option Char
  | '0' => some '\x00'
  | 't' => some '\t'
  | 'n' => some '\n'
  | 'r' => some '\r'
  | '\\' => some '\\'
  | '"' => some '"'
  | _ => none

/-- **The three ways in which a character is written** in a text: by a letter, by its code point, or as it is. -/
inductive Escaped (c : Char) : Prop
  | letter (e : Char) (hword : escapeChar '"' c = ['\\', e]) (hunescape : unescape e = some c)
  | point (hword : escapeChar '"' c = ['\\', 'u', '\x7b'] ++ hexDigits c ++ ['\x7d'])
  | plain (hword : escapeChar '"' c = [c]) (hquote : c ≠ '"') (hbackslash : c ≠ '\\')
    (hprintable : isPrintable c = true)

theorem escaped (c : Char) : Escaped c := by
  by_cases hnul : c = '\x00'
  · subst hnul
    exact .letter '0' rfl rfl
  by_cases ht : c = '\t'
  · subst ht
    exact .letter 't' rfl rfl
  by_cases hn : c = '\n'
  · subst hn
    exact .letter 'n' rfl rfl
  by_cases hr : c = '\r'
  · subst hr
    exact .letter 'r' rfl rfl
  by_cases hbackslash : c = '\\'
  · subst hbackslash
    exact .letter '\\' rfl rfl
  by_cases hquote : c = '"'
  · subst hquote
    exact .letter '"' rfl rfl
  have hword : escapeChar '"' c = if isPrintable c && !isExtending c then [c]
      else ['\\', 'u', '\x7b'] ++ hexDigits c ++ ['\x7d'] := by
    simp [escapeChar, hnul, ht, hn, hr, hbackslash, hquote]
  by_cases hprintable : (isPrintable c && !isExtending c) = true
  · rw [if_pos hprintable] at hword
    exact .plain hword hquote hbackslash (Bool.and_eq_true _ _ ▸ hprintable).1
  · rw [if_neg hprintable] at hword
    exact .point hword

/-- **An escape shows its character, and where it ends.** -/
theorem escapeChar_append_inj {c d : Char} {s t : List Char}
    (h : escapeChar '"' c ++ s = escapeChar '"' d ++ t) : c = d ∧ s = t := by
  -- the letter of an escape is not the one that a code point follows
  have hu {e a : Char} (he : unescape e = some a) : e ≠ 'u' := by
    rintro rfl
    exact nomatch he
  cases escaped c with
  | letter e hword hunescape =>
      cases escaped d with
      | letter e' hword' hunescape' =>
          rw [hword, hword'] at h
          simp only [List.cons_append, List.nil_append, List.cons.injEq, true_and] at h
          obtain ⟨rfl, hrest⟩ := h
          exact ⟨Option.some.inj (hunescape.symm.trans hunescape'), hrest⟩
      | point hword' =>
          rw [hword, hword'] at h
          exact absurd (List.cons.inj (List.cons.inj h).2).1 (hu hunescape)
      | plain hword' _ hbackslash' _ =>
          rw [hword, hword'] at h
          exact absurd (List.cons.inj h).1.symm hbackslash'
  | point hword =>
      cases escaped d with
      | letter e' hword' hunescape' =>
          rw [hword, hword'] at h
          exact absurd (List.cons.inj (List.cons.inj h).2).1.symm (hu hunescape')
      | point hword' =>
          rw [hword, hword'] at h
          simp only [List.append_assoc, List.cons_append, List.nil_append, List.cons.injEq, true_and] at h
          exact hexDigits_append_inj h
      | plain hword' _ hbackslash' _ =>
          rw [hword, hword'] at h
          exact absurd (List.cons.inj h).1.symm hbackslash'
  | plain hword _ hbackslash _ =>
      cases escaped d with
      | letter e' hword' _ =>
          rw [hword, hword'] at h
          exact absurd (List.cons.inj h).1 hbackslash
      | point hword' =>
          rw [hword, hword'] at h
          exact absurd (List.cons.inj h).1 hbackslash
      | plain hword' _ _ _ =>
          rw [hword, hword'] at h
          exact List.cons.inj h

/-- No escape begins like the end of a text. -/
theorem escapeChar_append_ne_quote (c : Char) (s t : List Char) : escapeChar '"' c ++ s ≠ '"' :: t := by
  intro h
  cases escaped c with
  | letter e hword _ =>
      rw [hword] at h
      exact absurd (List.cons.inj h).1 (by decide)
  | point hword =>
      rw [hword] at h
      exact absurd (List.cons.inj h).1 (by decide)
  | plain hword hquote _ _ =>
      rw [hword] at h
      exact absurd (List.cons.inj h).1 hquote

/-! ## Whole texts -/

theorem toList_quote (s : String) : (quote s).toList = '"' :: s.toList.flatMap (escapeChar '"') ++ ['"'] :=
  String.toList_ofList

theorem flatMap_escapeChar_append_inj {a b s t : List Char}
    (h : a.flatMap (escapeChar '"') ++ '"' :: s = b.flatMap (escapeChar '"') ++ '"' :: t) : a = b ∧ s = t := by
  induction a generalizing b with
  | nil =>
      cases b with
      | nil => exact ⟨rfl, (List.cons.inj h).2⟩
      | cons d b =>
          rw [List.flatMap_cons, List.append_assoc] at h
          exact absurd h.symm (escapeChar_append_ne_quote d _ _)
  | cons c a ih =>
      cases b with
      | nil =>
          rw [List.flatMap_cons, List.append_assoc] at h
          exact absurd h (escapeChar_append_ne_quote c _ _)
      | cons d b =>
          rw [List.flatMap_cons, List.flatMap_cons, List.append_assoc, List.append_assoc] at h
          obtain ⟨rfl, hrest⟩ := escapeChar_append_inj h
          obtain ⟨rfl, hst⟩ := ih hrest
          exact ⟨rfl, hst⟩

/-- **A quoted text shows the text, and where it ends.** -/
theorem quote_append_inj {a b : String} {s t : List Char} (h : (quote a).toList ++ s = (quote b).toList ++ t) :
    a = b ∧ s = t := by
  simp only [toList_quote, List.cons_append, List.append_assoc, List.nil_append, List.cons.injEq, true_and] at h
  obtain ⟨hab, hst⟩ := flatMap_escapeChar_append_inj h
  exact ⟨String.toList_inj.mp hab, hst⟩

/-! ## A quoted character -/

/-- Between single quotes the two kinds of quotes change places; other characters are written as in a text. -/
theorem escapeChar_single {c : Char} (hsingle : c ≠ '\'') (hdouble : c ≠ '"') :
    escapeChar '\'' c = escapeChar '"' c := by
  simp [escapeChar, hsingle, hdouble]

/-- No other character is written like a quote between single quotes. -/
theorem escapeChar_ne_quotes {c : Char} (hdouble : c ≠ '"') :
    escapeChar '"' c ≠ ['\\', '\''] ∧ escapeChar '"' c ≠ ['"'] := by
  cases escaped c with
  | letter e hword hunescape =>
      rw [hword]
      refine ⟨?_, by simp⟩
      intro h
      have he : e = '\'' := by simpa using h
      rw [he] at hunescape
      exact nomatch hunescape
  | point hword =>
      rw [hword]
      exact ⟨by simp, by simp⟩
  | plain hword _ _ _ =>
      rw [hword]
      exact ⟨by simp, by simpa using hdouble⟩

theorem escapeChar_single_injective : Function.Injective (escapeChar '\'') := by
  have hsingle : escapeChar '\'' '\'' = ['\\', '\''] := by decide
  have hdouble : escapeChar '\'' '"' = ['"'] := by decide
  have hother {c d : Char} (hc : c = '\'' ∨ c = '"') (h : escapeChar '\'' c = escapeChar '\'' d) : c = d := by
    by_cases hd : d = '\'' ∨ d = '"'
    · rcases hc with rfl | rfl <;> rcases hd with rfl | rfl <;> simp_all
    · rw [not_or] at hd
      rw [escapeChar_single hd.1 hd.2] at h
      rcases hc with rfl | rfl
      · exact absurd (h.symm.trans hsingle) (escapeChar_ne_quotes hd.2).1
      · exact absurd (h.symm.trans hdouble) (escapeChar_ne_quotes hd.2).2
  intro c d h
  by_cases hc : c = '\'' ∨ c = '"'
  · exact hother hc h
  by_cases hd : d = '\'' ∨ d = '"'
  · exact (hother hd h.symm).symm
  rw [not_or] at hc hd
  rw [escapeChar_single hc.1 hc.2, escapeChar_single hd.1 hd.2] at h
  have happend : escapeChar '"' c ++ [] = escapeChar '"' d ++ [] := by rw [h]
  exact (escapeChar_append_inj happend).1

/-- **A quoted character shows the character.** -/
theorem quoteChar_injective : Function.Injective quoteChar := by
  intro c d h
  have hlist : '\'' :: escapeChar '\'' c ++ ['\''] = '\'' :: escapeChar '\'' d ++ ['\''] := String.ofList_injective h
  have hword := List.append_cancel_right hlist
  exact escapeChar_single_injective (List.cons.inj hword).2

/-! ## Characters that are written -/

theorem isPrintable_of_unescape {e c : Char} (h : unescape e = some c) : isPrintable e = true := by
  unfold unescape at h
  split at h <;> first | rfl | exact nomatch h

theorem IsHex.isPrintable {c : Char} (h : IsHex c) : isPrintable c = true := by
  have hall : ∀ n < 16, Text.isPrintable (Nat.digitChar n) = true := by decide
  obtain ⟨n, hn, rfl⟩ := h
  exact hall n hn

theorem isPrintable_of_mem_escapeChar {c d : Char} (h : d ∈ escapeChar '"' c) : isPrintable d = true := by
  have hfixed : ['\\', 'u', '\x7b', '\x7d'].all isPrintable = true := by decide
  rw [List.all_eq_true] at hfixed
  cases escaped c with
  | letter e hword hunescape =>
      rw [hword, List.mem_cons, List.mem_singleton] at h
      rcases h with rfl | rfl
      · exact hfixed _ (.head _)
      · exact isPrintable_of_unescape hunescape
  | point hword =>
      rw [hword, List.mem_append, List.mem_append, List.mem_singleton] at h
      rcases h with (h | h) | rfl
      · exact hfixed d (List.mem_append_left ['\x7d'] h)
      · exact (isHex_of_mem_hexDigits h).isPrintable
      · exact hfixed _ (by decide)
  | plain hword _ _ hprintable =>
      rw [hword, List.mem_singleton] at h
      exact h ▸ hprintable

/-- **Only printable characters are written**, whatever the text. -/
theorem isPrintable_of_mem_quote {s : String} {c : Char} (h : c ∈ (quote s).toList) : isPrintable c = true := by
  rw [toList_quote, List.mem_append, List.mem_cons, List.mem_singleton, List.mem_flatMap] at h
  rcases h with (rfl | ⟨a, -, h⟩) | rfl
  · rfl
  · exact isPrintable_of_mem_escapeChar h
  · rfl

theorem isPrintable_below : ∀ n, n < 0xa0 → isPrintable (Char.ofNat n) = true → 0x20 ≤ n ∧ n < 0x7f := by
  decide +kernel

/-- A printable character is no control character. -/
theorem not_isControl_of_isPrintable {c : Char} (h : isPrintable c = true) : ¬ IsControl c := by
  unfold IsControl
  by_cases hlow : c.toNat < 0xa0
  · have hc := isPrintable_below c.toNat hlow
    rw [Char.ofNat_toNat] at hc
    have hbounds := hc h
    omega
  · omega

end ItemQuery.Text
