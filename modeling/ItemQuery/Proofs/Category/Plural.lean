import ItemQuery.Category
import ItemQuery.Proofs.Text.Trimmed

/-!
# `Proofs.Category.Plural` — which labels name the same category

A category may be given in the singular or in the plural, with or without white space around it, and records hold the
plural. So different labels come to mean the same category, and the question is which ones. It depends on what is taken
for a singular: a label that ends in `s` already is none, and neither is `Flask`, the one label that records hold as it
is. So `Flasks` is not the plural of `Flask` here, and `Boots` has no plural.

Labels that are no singulars are called stored (`IsStored`). Every label leads to a stored one, and a stored one leads
to itself. Two labels can only meet if they are the same after trimming, or if one of them is not stored and the other
one is its plural.

## Contents
- `IsStored`, `IsPluralOf`: labels that are stored as they are, and plurals of the others.
- `pluralize_of_isStored`, `pluralize_of_not_isStored`: the two cases of a label.
- `isStored_pluralize`, `trimmed_pluralize`, `pluralize_of_trimmed`: every label leads to a stored one, for good.
- `pluralize_eq_iff`: labels that lead to the same one.
- `pluralize_identifies`: the whole.
-/

namespace ItemQuery

open Text (Trimmed Trims trim trimmed_trim trims_trim trim_eq_self_iff)

/-- **A label that is stored as it is**: it ends in `s`, or it is the exception. -/
def IsStored (label : String) : Prop := label.toList.getLast? = some 's' ∨ label = "Flask"

/-- **One label is the plural of another**, which must be one that is not stored itself. -/
structure IsPluralOf (plural singular : String) : Prop where
  eq : plural = singular ++ "s"
  not_s : singular.toList.getLast? ≠ some 's'
  not_exception : singular ≠ "Flask"

variable {a b : String}

theorem isPluralOf_iff : IsPluralOf a b ↔ a = b ++ "s" ∧ ¬ IsStored b := by
  constructor
  · intro h
    refine ⟨h.eq, ?_⟩
    rintro (hs | hflask)
    · exact h.not_s hs
    · exact h.not_exception hflask
  · rintro ⟨heq, hstored⟩
    exact ⟨heq, fun hs => hstored (Or.inl hs), fun hflask => hstored (Or.inr hflask)⟩

/-! ## The two cases -/

theorem pluralize_of_isStored (h : IsStored (trim a)) : pluralize a = trim a := by
  have hkeep : (decide ((trim a).toList.getLast? = some 's') || decide (trim a = singularCategory)) = true := by
    rw [Bool.or_eq_true, decide_eq_true_iff, decide_eq_true_iff]
    exact h
  exact if_pos hkeep

theorem pluralize_of_not_isStored (h : ¬ IsStored (trim a)) : pluralize a = trim a ++ "s" := by
  have hchange : ¬ (decide ((trim a).toList.getLast? = some 's') || decide (trim a = singularCategory)) = true := by
    rw [Bool.or_eq_true, decide_eq_true_iff, decide_eq_true_iff]
    exact h
  exact if_neg hchange

/-! ## Labels that are reached -/

theorem getLast?_append_s (label : String) : (label ++ "s").toList.getLast? = some 's' := by
  rw [String.toList_append]
  exact List.getLast?_concat

theorem isStored_append_s (label : String) : IsStored (label ++ "s") := Or.inl (getLast?_append_s label)

/-- An `s` at the end brings no white space to the ends of a label. -/
theorem trimmed_append_s {label : String} (h : Trimmed label) : Trimmed (label ++ "s") := by
  constructor
  · intro c hc
    rw [String.toList_append, List.head?_append, Option.or_eq_some_iff] at hc
    rcases hc with hc | ⟨-, hc⟩
    · exact h.head c hc
    · rw [← Option.some.inj hc]
      rfl
  · intro c hc
    rw [getLast?_append_s] at hc
    rw [← Option.some.inj hc]
    rfl

/-- Every label leads to one without white space at its ends. -/
theorem trimmed_pluralize (a : String) : Trimmed (pluralize a) := by
  by_cases hstored : IsStored (trim a)
  · rw [pluralize_of_isStored hstored]
    exact trimmed_trim a
  · rw [pluralize_of_not_isStored hstored]
    exact trimmed_append_s (trimmed_trim a)

/-- Every label leads to a stored one. -/
theorem isStored_pluralize (a : String) : IsStored (pluralize a) := by
  by_cases hstored : IsStored (trim a)
  · rwa [pluralize_of_isStored hstored]
  · rw [pluralize_of_not_isStored hstored]
    exact isStored_append_s (trim a)

/-- **A stored label leads to itself.** -/
theorem pluralize_of_trimmed (htrimmed : Trimmed a) (hstored : IsStored a) : pluralize a = a := by
  have htrim : trim a = a := (trim_eq_self_iff a).mpr htrimmed
  have hkeep : IsStored (trim a) := by rwa [htrim]
  rw [pluralize_of_isStored hkeep, htrim]

theorem prefix_pluralize (a : String) : (trim a).toList <+: (pluralize a).toList := by
  by_cases hstored : IsStored (trim a)
  · have hsame : (pluralize a).toList = (trim a).toList := congrArg String.toList (pluralize_of_isStored hstored)
    exact ⟨[], (List.append_nil _).trans hsame.symm⟩
  · rw [pluralize_of_not_isStored hstored, String.toList_append]
    exact List.prefix_append _ _

/-- Only the exception does not lead to a label that ends in `s`. -/
theorem getLast?_pluralize_iff (a : String) : (pluralize a).toList.getLast? = some 's' ↔ trim a ≠ "Flask" := by
  by_cases hstored : IsStored (trim a)
  · rw [pluralize_of_isStored hstored]
    constructor
    · intro hs hflask
      rw [hflask] at hs
      exact absurd hs (by decide)
    · intro hne
      exact hstored.resolve_right hne
  · rw [pluralize_of_not_isStored hstored]
    constructor
    · intro _ hflask
      exact hstored (Or.inr hflask)
    · intro _
      exact getLast?_append_s (trim a)

/-! ## Labels that meet -/

/-- A stored label and one that is not stored meet exactly if the one is the plural of the other. -/
theorem pluralize_eq_iff_of_isStored (ha : IsStored (trim a)) (hb : ¬ IsStored (trim b)) :
    pluralize a = pluralize b ↔ IsPluralOf (trim a) (trim b) := by
  rw [pluralize_of_isStored ha, pluralize_of_not_isStored hb, isPluralOf_iff, and_iff_left hb]

/-- A label that is not stored is no plural, and a plural is not that of a stored one. -/
theorem not_isPluralOf_of_isStored_iff (h : IsStored a ↔ IsStored b) : ¬ IsPluralOf a b := by
  rw [isPluralOf_iff]
  rintro ⟨rfl, hb⟩
  exact hb (h.mp (isStored_append_s b))

/-- **Labels lead to the same one** exactly if they are the same after trimming or one is the plural of the other. -/
theorem pluralize_eq_iff (a b : String) :
    pluralize a = pluralize b ↔ trim a = trim b ∨ IsPluralOf (trim a) (trim b) ∨ IsPluralOf (trim b) (trim a) := by
  -- labels of the same kind are no plurals of each other, and labels of different kinds are not the same
  by_cases ha : IsStored (trim a)
  · by_cases hb : IsStored (trim b)
    · have hab := not_isPluralOf_of_isStored_iff (iff_of_true ha hb)
      have hba := not_isPluralOf_of_isStored_iff (iff_of_true hb ha)
      rw [pluralize_of_isStored ha, pluralize_of_isStored hb]
      simp only [hab, hba, or_false]
    · have hne : trim a ≠ trim b := fun heq => hb (heq ▸ ha)
      have hba : ¬ IsPluralOf (trim b) (trim a) := fun h => (isPluralOf_iff.mp h).2 ha
      rw [pluralize_eq_iff_of_isStored ha hb]
      simp only [hne, hba, or_false, false_or]
  · by_cases hb : IsStored (trim b)
    · have hne : trim a ≠ trim b := fun heq => ha (heq ▸ hb)
      have hab : ¬ IsPluralOf (trim a) (trim b) := fun h => (isPluralOf_iff.mp h).2 hb
      rw [eq_comm, pluralize_eq_iff_of_isStored hb ha]
      simp only [hne, hab, false_or]
    · have hab := not_isPluralOf_of_isStored_iff (iff_of_false ha hb)
      have hba := not_isPluralOf_of_isStored_iff (iff_of_false hb ha)
      rw [pluralize_of_not_isStored ha, pluralize_of_not_isStored hb, String.append_left_inj]
      simp only [hab, hba, or_false]

/-! ## The whole -/

/-- **Singular and plural are identified, and nothing else.** Two labels lead to the same category exactly if, without
    the white space around them, they are the same or one is the other followed by an `s`, where the other neither ends
    in `s` nor is `Flask`. A category leads to itself. It has no white space at its ends, begins with the trimmed label
    and ends in `s`, unless that label is `Flask`. What trimming leaves is the label between its white space. -/
theorem pluralize_identifies (a b : String) :
    (pluralize a = pluralize b ↔
      trim a = trim b ∨ IsPluralOf (trim a) (trim b) ∨ IsPluralOf (trim b) (trim a)) ∧
    pluralize (pluralize a) = pluralize a ∧
    Trimmed (pluralize a) ∧
    (trim a).toList <+: (pluralize a).toList ∧
    ((pluralize a).toList.getLast? = some 's' ↔ trim a ≠ "Flask") ∧
    Trims a (trim a) := by
  have hidempotent : pluralize (pluralize a) = pluralize a :=
    pluralize_of_trimmed (trimmed_pluralize a) (isStored_pluralize a)
  exact ⟨pluralize_eq_iff a b, hidempotent, trimmed_pluralize a, prefix_pluralize a, getLast?_pluralize_iff a,
    trims_trim a⟩

/-- The empty label and a single `s` are one category; `Flask` and `Flasks` are two. -/
example : pluralize " " = pluralize "s" ∧ pluralize "Flask" ≠ pluralize "Flasks" := by decide

end ItemQuery
