/-!
# `Proofs.Checks` — the first fault of checks made in order

Names, and whole criteria, are refused by one check after another, and what is reported is what the first check
that fails has to say. A check is stated here as the faults that it finds, `ε → Prop`: of what is in order it
finds none. Which fault is reported is then a matter of the list of checks alone, so that this list can be read
as documentation and the order of the code can be compared with it.

## Contents
- `FirstFault`: the fault that is reported.
- `exists_firstFault_iff`: there is one exactly if some check fails.
- `firstFault_guard_iff`, `firstFault_append_iff`: one check with a fixed fault, and checks after checks.
-/

namespace ItemQuery

variable {ε : Type} {check : ε → Prop} {checks : List (ε → Prop)} {e : ε}

/-- **The first fault of checks**: one check finds it, and those before find nothing. -/
inductive FirstFault : List (ε → Prop) → ε → Prop
  | here {check : ε → Prop} {checks : List (ε → Prop)} {e : ε} (h : check e) :
      FirstFault (check :: checks) e
  | later {check : ε → Prop} {checks : List (ε → Prop)} {e : ε} (hpass : ∀ e', ¬ check e')
      (h : FirstFault checks e) : FirstFault (check :: checks) e

theorem not_firstFault_nil : ¬ FirstFault [] e := by
  intro h
  cases h

theorem firstFault_cons_iff :
    FirstFault (check :: checks) e ↔ check e ∨ (∀ e', ¬ check e') ∧ FirstFault checks e := by
  constructor
  · intro h
    cases h with
    | here h => exact Or.inl h
    | later hpass h => exact Or.inr ⟨hpass, h⟩
  · rintro (h | ⟨hpass, h⟩)
    · exact .here h
    · exact .later hpass h

theorem firstFault_singleton_iff : FirstFault [check] e ↔ check e := by
  rw [firstFault_cons_iff]
  exact or_iff_left fun h => not_firstFault_nil h.2

/-- The fault that is reported is one that some check finds. -/
theorem FirstFault.exists_check (h : FirstFault checks e) : ∃ check ∈ checks, check e := by
  induction h with
  | here h => exact ⟨_, List.mem_cons_self, h⟩
  | later _ _ ih =>
      obtain ⟨check, hmem, hfound⟩ := ih
      exact ⟨check, List.mem_cons_of_mem _ hmem, hfound⟩

/-- A fault is reported exactly if some check finds one. -/
theorem exists_firstFault_iff :
    (∃ e, FirstFault checks e) ↔ ∃ check ∈ checks, ∃ e, check e := by
  constructor
  · rintro ⟨e, h⟩
    obtain ⟨check, hmem, hfound⟩ := h.exists_check
    exact ⟨check, hmem, e, hfound⟩
  · rintro ⟨check, hmem, e, h⟩
    induction checks with
    | nil => exact absurd hmem List.not_mem_nil
    | cons first checks ih =>
        -- whatever the first check finds comes before the fault that is known
        by_cases hfirst : ∃ e', first e'
        · obtain ⟨e', he'⟩ := hfirst
          exact ⟨e', .here he'⟩
        · rcases List.mem_cons.mp hmem with rfl | hmem
          · exact absurd ⟨e, h⟩ hfirst
          · obtain ⟨e', he'⟩ := ih hmem
            exact ⟨e', .later (not_exists.mp hfirst) he'⟩

/-- A check that finds one fault under a condition. -/
theorem firstFault_guard_iff {P : Prop} [Decidable P] {a : ε} :
    FirstFault ((fun e => P ∧ e = a) :: checks) e ↔ if P then e = a else FirstFault checks e := by
  rw [firstFault_cons_iff]
  split
  · rename_i hP
    constructor
    · rintro (⟨_, h⟩ | ⟨hpass, _⟩)
      · exact h
      · exact absurd ⟨hP, rfl⟩ (hpass a)
    · exact fun h => Or.inl ⟨hP, h⟩
  · rename_i hP
    constructor
    · rintro (⟨h, _⟩ | ⟨_, h⟩)
      · exact absurd h hP
      · exact h
    · exact fun h => Or.inr ⟨fun e' he' => hP he'.1, h⟩

/-- Further checks come to speak only if those before find nothing. -/
theorem firstFault_append_iff {more : List (ε → Prop)} :
    FirstFault (checks ++ more) e ↔
      FirstFault checks e ∨ (∀ e', ¬ FirstFault checks e') ∧ FirstFault more e := by
  induction checks with
  | nil =>
      rw [List.nil_append]
      exact ⟨fun h => Or.inr ⟨fun _ => not_firstFault_nil, h⟩,
        fun h => h.elim (fun h => absurd h not_firstFault_nil) And.right⟩
  | cons check checks ih =>
      rw [List.cons_append, firstFault_cons_iff, ih, firstFault_cons_iff]
      constructor
      · rintro (h | ⟨hpass, h | ⟨hnone, h⟩⟩)
        · exact Or.inl (Or.inl h)
        · exact Or.inl (Or.inr ⟨hpass, h⟩)
        · refine Or.inr ⟨fun e' he' => ?_, h⟩
          rcases firstFault_cons_iff.mp he' with he' | ⟨_, he'⟩
          · exact hpass e' he'
          · exact hnone e' he'
      · rintro ((h | ⟨hpass, h⟩) | ⟨hnone, h⟩)
        · exact Or.inl h
        · exact Or.inr ⟨hpass, Or.inl h⟩
        · have hpass (e' : ε) : ¬ check e' := fun he' => hnone e' (.here he')
          exact Or.inr ⟨hpass, Or.inr ⟨fun e' he' => hnone e' (.later hpass he'), h⟩⟩

end ItemQuery
