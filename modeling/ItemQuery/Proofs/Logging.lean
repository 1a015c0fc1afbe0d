import ItemQuery.Logging
import Mathlib

/-!
# `Proofs.Logging` — what the words of the environment mean

The variables of the environment come from outside and may hold anything. A word that names a value means that value,
however its letters are written, and every other word means what no word means, so that there is always a level and
a format. This is proved of `named`, which reads both.

## Contents
- `named_of_name`, `named_of_no_name`: what a word means.
- `level_spec`, `format_spec`, `debugs_iff`: what the variables mean.
- `lower_lower`, `readings_lower`: the case of letters does not count.
-/

namespace ItemQuery.Logging

/-! ## Words -/

section

variable {α : Type} {name : α → String} {all : List α} {fallback : α}

/-- **A word that names a value** means it. -/
theorem named_of_name (hname : Function.Injective name) {a : α} (ha : a ∈ all) {word : Option String}
    (h : word.map lower = some (name a)) : named name all fallback word = a := by
  obtain ⟨w, rfl, hw⟩ := Option.map_eq_some_iff.mp h
  rw [named, Option.bind_some]
  cases hfind : all.find? fun b => name b == lower w with
  | none => exact absurd (beq_iff_eq.mpr hw.symm) (List.find?_eq_none.mp hfind a ha)
  | some b =>
      -- no other value has this name
      have hb : (name b == lower w) = true := List.find?_some (p := fun b => name b == lower w) hfind
      rw [Option.getD_some]
      exact hname ((eq_of_beq hb).trans hw)

/-- **A word that names none** means what no word means. -/
theorem named_of_no_name {word : Option String} (h : ∀ a ∈ all, word.map lower ≠ some (name a)) :
    named name all fallback word = fallback := by
  cases word with
  | none => rfl
  | some w =>
      have hfind : all.find? (fun a => name a == lower w) = none := by
        rw [List.find?_eq_none]
        intro a ha heq
        exact h a ha (congrArg some (eq_of_beq heq).symm)
      rw [named, Option.bind_some, hfind, Option.getD_none]

end

theorem Level.mem_all (l : Level) : l ∈ Level.all := by
  cases l <;> decide

theorem Level.name_injective : Function.Injective Level.name := by
  have hnames : (Level.all.map Level.name).Nodup := by decide
  intro l l' h
  exact List.inj_on_of_nodup_map hnames l.mem_all l'.mem_all h

theorem Format.mem_all (f : Format) : f ∈ Format.all := by
  cases f <;> decide

theorem Format.name_injective : Function.Injective Format.name := by
  have hnames : (Format.all.map Format.name).Nodup := by decide
  intro f f' h
  exact List.inj_on_of_nodup_map hnames f.mem_all f'.mem_all h

/-! ## Variables -/

/-- **The level**: the one that is named, else it depends on debugging. -/
theorem level_spec (v : Variables) :
    (∀ l : Level, v.level.map lower = some l.name → level v = l) ∧
    ((∀ l : Level, v.level.map lower ≠ some l.name) → level v = if debugs v then .debug else .warn) := by
  constructor
  · intro l h
    exact named_of_name Level.name_injective l.mem_all h
  · intro h
    exact named_of_no_name fun l _ => h l

/-- **The format**: the one that is named, else JSON. -/
theorem format_spec (v : Variables) :
    (∀ f : Format, v.format.map lower = some f.name → format v = f) ∧
    ((∀ f : Format, v.format.map lower ≠ some f.name) → format v = .json) := by
  constructor
  · intro f h
    exact named_of_name Format.name_injective f.mem_all h
  · intro h
    exact named_of_no_name fun f _ => h f

/-- **Debugging** is on for three words only. -/
theorem debugs_iff (v : Variables) : debugs v = true ↔ ∃ word, v.debug = some word ∧ lower word ∈ yes := by
  rw [debugs, Option.any_eq_true]
  simp only [List.contains_iff_mem]

/-! ## Letters -/

theorem lower_lower (word : String) : lower (lower word) = lower word := by
  have hchar : Char.toLower ∘ Char.toLower = Char.toLower := funext Char.toLower_toLower_eq_toLower
  rw [lower, lower, String.map_map, hchar]

theorem named_map_lower {α : Type} (name : α → String) (all : List α) (fallback : α) (word : Option String) :
    named name all fallback (word.map lower) = named name all fallback word := by
  cases word with
  | none => rfl
  | some w => simp only [named, Option.map_some, Option.bind_some, lower_lower]

/-- **The case of letters does not count** in any of the variables. -/
theorem readings_lower (v : Variables) :
    let small : Variables := ⟨v.debug.map lower, v.level.map lower, v.format.map lower⟩
    debugs small = debugs v ∧ level small = level v ∧ format small = format v := by
  intro small
  have hdebugs : debugs small = debugs v := by
    show (v.debug.map lower).any _ = v.debug.any _
    simp only [Option.any_map, lower_lower]
  refine ⟨hdebugs, ?_, named_map_lower _ _ _ _⟩
  rw [level, level, hdebugs]
  exact named_map_lower _ _ _ _

end ItemQuery.Logging
