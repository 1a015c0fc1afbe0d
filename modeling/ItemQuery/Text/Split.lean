/-!
# `Text.Split` — texts cut at a character

## Contents
- `splitAtFirst`: the parts before and after the first occurrence of a character.
- `splitAll`: the parts between all occurrences.
- `splitAtFirst_append`: the first occurrence is the one that ends a part without the character.
- `splitAll_intercalate`: parts that were joined are found again.
- `intercalate_inj`: so are parts joined by a longer text that begins with the character.
-/

namespace ItemQuery.Text

/-- The parts of a text before and after the first occurrence of a character; there is no second part if it
    does not occur. -/
def splitAtFirst (c : Char) (s : List Char) : List Char × Option (List Char) :=
  match s.dropWhile (· != c) with
  | [] => (s, none)
  | _ :: rest => (s.takeWhile (· != c), some rest)

/-- The parts of a text between occurrences of a character. -/
def splitAll (c : Char) : List Char → List (List Char)
  | [] => [[]]
  | x :: s =>
    if x = c then [] :: splitAll c s
    else match splitAll c s with
      | [] => [[x]]
      | part :: parts => (x :: part) :: parts

theorem splitAtFirst_append {c : Char} {before : List Char} (h : c ∉ before) (after : List Char) :
    splitAtFirst c (before ++ c :: after) = (before, some after) := by
  have hne : ∀ x ∈ before, (x != c) = true := fun x hx => bne_iff_ne.mpr fun he => h (he ▸ hx)
  rw [splitAtFirst, List.dropWhile_append_of_pos hne, List.takeWhile_append_of_pos hne]
  simp

theorem splitAll_of_not_mem {c : Char} {s : List Char} (h : c ∉ s) : splitAll c s = [s] := by
  induction s with
  | nil => rfl
  | cons x s ih =>
      rw [List.mem_cons, not_or] at h
      rw [splitAll, if_neg (Ne.symm h.1), ih h.2]

theorem splitAll_append {c : Char} {part : List Char} (h : c ∉ part) (s : List Char) :
    splitAll c (part ++ c :: s) = part :: splitAll c s := by
  induction part with
  | nil => rw [List.nil_append, splitAll, if_pos rfl]
  | cons x part ih =>
      rw [List.mem_cons, not_or] at h
      rw [List.cons_append, splitAll, if_neg (Ne.symm h.1), ih h.2]

/-- **Parts that were joined at a character are found again**, if none of them holds it. -/
theorem splitAll_intercalate {c : Char} {parts : List (List Char)} (hne : parts ≠ []) (h : ∀ p ∈ parts, c ∉ p) :
    splitAll c ([c].intercalate parts) = parts := by
  induction parts with
  | nil => exact absurd rfl hne
  | cons p parts ih =>
      rw [List.forall_mem_cons] at h
      cases parts with
      | nil => rw [List.intercalate_singleton, splitAll_of_not_mem h.1]
      | cons q parts =>
          rw [List.intercalate_cons_cons, List.append_assoc, List.singleton_append, splitAll_append h.1,
            ih (List.cons_ne_nil q parts) h.2]

/-- What holds of the characters of the parts and of the separator holds of those of the joined text. -/
theorem forall_mem_intercalate {p : Char → Prop} {separator : List Char} {parts : List (List Char)}
    (hseparator : ∀ c ∈ separator, p c) (hparts : ∀ part ∈ parts, ∀ c ∈ part, p c) :
    ∀ c ∈ separator.intercalate parts, p c := by
  induction parts with
  | nil => exact List.forall_mem_nil _
  | cons part parts ih =>
      rw [List.forall_mem_cons] at hparts
      cases parts with
      | nil => rw [List.intercalate_singleton]; exact hparts.1
      | cons next parts =>
          rw [List.intercalate_cons_cons, List.forall_mem_append, List.forall_mem_append]
          exact ⟨⟨hparts.1, hseparator⟩, ih hparts.2⟩

theorem intercalate_cons_ne_nil {separator p : List Char} (hp : p ≠ []) (ps : List (List Char)) :
    separator.intercalate (p :: ps) ≠ [] := by
  cases ps with
  | nil => rwa [List.intercalate_singleton]
  | cons q ps =>
      rw [List.intercalate_cons_cons, List.append_assoc]
      exact List.append_ne_nil_of_left_ne_nil hp _

theorem intercalate_cons_ne_part {c : Char} {separator p : List Char} (hp : c ∉ p) (q r : List Char)
    (parts : List (List Char)) : (c :: separator).intercalate (q :: r :: parts) ≠ p := by
  rintro rfl
  rw [List.intercalate_cons_cons] at hp
  exact hp (by simp)

/-- **Lists of parts that are the same when joined are the same**, if no part is empty or holds the character that
    the separator begins with. -/
theorem intercalate_inj {c : Char} {separator : List Char} {ps qs : List (List Char)}
    (hps : ∀ p ∈ ps, p ≠ [] ∧ c ∉ p) (hqs : ∀ q ∈ qs, q ≠ [] ∧ c ∉ q)
    (h : (c :: separator).intercalate ps = (c :: separator).intercalate qs) : ps = qs := by
  induction ps generalizing qs with
  | nil =>
      cases qs with
      | nil => rfl
      | cons q qs => exact absurd h.symm (intercalate_cons_ne_nil (hqs q (.head _)).1 qs)
  | cons p ps ih =>
      rw [List.forall_mem_cons] at hps
      cases qs with
      | nil => exact absurd h (intercalate_cons_ne_nil hps.1.1 ps)
      | cons q qs =>
          rw [List.forall_mem_cons] at hqs
          cases ps with
          | nil =>
              rw [List.intercalate_singleton] at h
              cases qs with
              | nil => rw [h, List.intercalate_singleton]
              | cons q' qs => exact absurd h.symm (intercalate_cons_ne_part hps.1.2 q q' qs)
          | cons p' ps =>
              cases qs with
              | nil =>
                  rw [List.intercalate_singleton] at h
                  exact absurd h (intercalate_cons_ne_part hqs.1.2 p p' ps)
              | cons q' qs =>
                  -- the first separator shows where the first part ends
                  rw [List.intercalate_cons_cons, List.intercalate_cons_cons, List.append_assoc, List.append_assoc] at h
                  have hsplit := splitAtFirst_append hps.1.2 (separator ++ (c :: separator).intercalate (p' :: ps))
                  rw [← List.cons_append, h, List.cons_append, splitAtFirst_append hqs.1.2] at hsplit
                  obtain ⟨hfirst, hrest⟩ := Prod.mk.inj hsplit
                  have htail := List.append_cancel_left (Option.some.inj hrest)
                  rw [hfirst, ih hps.2 hqs.2 htail.symm]

end ItemQuery.Text
