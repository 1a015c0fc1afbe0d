import ItemQuery.Text.Blank
import Mathlib.Data.List.DropRight
import Mathlib.Data.List.TakeWhile

/-!
# `Proofs.Text.Trimmed` — what trimming leaves of a text

Trimming is computed by dropping characters, first at the front and then, on the reversed rest, at the back. Whoever
uses the result wants to know two things of it: it has no white space at its ends (`Trimmed`), and what is missing is
white space that stood at the ends of the text. The two together say what the result is (`trim_eq_iff`), so that
nothing else has to be known of how it is computed. In particular a text without white space at its ends is left alone.

## Contents
- `Trimmed`, `Trims`: a text without white space at its ends, and a text that is left of another one.
- `trims_trim`, `trim_eq_iff`: trimming leaves the one text that is left.
- `trim_eq_self_iff`, `trim_eq_empty_iff`: when nothing is missing, and when nothing is left.
-/

namespace ItemQuery.Text

/-- **No white space at the ends** of a text. The empty text has no ends. -/
structure Trimmed (s : String) : Prop where
  head : ∀ c, s.toList.head? = some c → isSpace c = false
  last : ∀ c, s.toList.getLast? = some c → isSpace c = false

/-- **What is left of a text**: it has no white space at its ends, and there was nothing else around it. -/
def Trims (s t : String) : Prop :=
  Trimmed t ∧ ∃ before after : List Char, s.toList = before ++ t.toList ++ after ∧
    (∀ c ∈ before, isSpace c = true) ∧ ∀ c ∈ after, isSpace c = true

/-! ## Characters -/

variable {p : Char → Bool} {l before middle after : List Char}

/-- The first character that is left does not satisfy `p`. -/
theorem head?_dropWhile_neg {c : Char} (h : (l.dropWhile p).head? = some c) : p c = false := by
  have hfirst := List.head?_dropWhile_not p l
  rwa [h] at hfirst

/-- Nothing is dropped of a list that does not begin with `p`. -/
theorem dropWhile_of_head? (h : ∀ c, l.head? = some c → p c = false) : l.dropWhile p = l := by
  cases l with
  | nil => rfl
  | cons c l =>
      have hc : ¬ p c = true := Bool.eq_false_iff.mp (h c rfl)
      rw [List.dropWhile_cons, if_neg hc]

/-- Trimming drops from the right what is left after dropping from the left. -/
theorem trimList_eq (p : Char → Bool) (l : List Char) : trimList p l = (l.dropWhile p).rdropWhile p := rfl

theorem last_trimList {c : Char} (h : (trimList p l).getLast? = some c) : p c = false := by
  rw [trimList, List.getLast?_reverse] at h
  exact head?_dropWhile_neg h

/-- What is dropped from the right does not touch the first character, unless everything is dropped. -/
theorem head_trimList {c : Char} (h : (trimList p l).head? = some c) : p c = false := by
  obtain ⟨after, hafter⟩ : trimList p l <+: l.dropWhile p := List.rdropWhile_prefix p _
  have hhead : (l.dropWhile p).head? = some c := by
    rw [← hafter, List.head?_append, h]
    rfl
  exact head?_dropWhile_neg hhead

/-- What trimming leaves stands between characters that satisfy `p`. -/
theorem trimList_split (p : Char → Bool) (l : List Char) :
    ∃ before after, l = before ++ trimList p l ++ after ∧ (∀ c ∈ before, p c = true) ∧ ∀ c ∈ after, p c = true := by
  refine ⟨l.takeWhile p, (l.dropWhile p).rtakeWhile p, ?_, ?_, ?_⟩
  · rw [trimList_eq, List.append_assoc, List.rdropWhile_append_rtakeWhile, List.takeWhile_append_dropWhile]
  · intro c hc
    exact List.mem_takeWhile_imp hc
  · intro c hc
    exact List.mem_rtakeWhile_imp hc

/-- **Nothing is dropped in the middle**: of a list whose ends satisfy `p` the part between them is left, if `p` does
    not go on there. -/
theorem trimList_of_split (hbefore : ∀ c ∈ before, p c = true) (hafter : ∀ c ∈ after, p c = true)
    (hhead : ∀ c, middle.head? = some c → p c = false) (hlast : ∀ c, middle.getLast? = some c → p c = false) :
    trimList p (before ++ middle ++ after) = middle := by
  have hreverse : ∀ c ∈ after.reverse, p c = true := by
    intro c hc
    exact hafter c (List.mem_reverse.mp hc)
  have hmiddle : middle.reverse.dropWhile p = middle.reverse := by
    apply dropWhile_of_head?
    intro c hc
    rw [List.head?_reverse] at hc
    exact hlast c hc
  cases middle with
  | nil =>
      rw [trimList, List.append_nil, List.dropWhile_append_of_pos hbefore, List.dropWhile_eq_nil_iff.mpr hafter]
      rfl
  | cons c middle =>
      have hfront : (c :: middle ++ after).dropWhile p = c :: middle ++ after := by
        apply dropWhile_of_head?
        intro d hd
        exact hhead d hd
      rw [trimList, List.append_assoc, List.dropWhile_append_of_pos hbefore, hfront, List.reverse_append,
        List.dropWhile_append_of_pos hreverse, hmiddle, List.reverse_reverse]

/-! ## Texts -/

theorem trims_trim (s : String) : Trims s (trim s) := by
  have hlist : (trim s).toList = trimList isSpace s.toList := String.toList_ofList
  constructor
  · constructor
    · intro c hc
      rw [hlist] at hc
      exact head_trimList hc
    · intro c hc
      rw [hlist] at hc
      exact last_trimList hc
  · rw [hlist]
    exact trimList_split isSpace s.toList

/-- A text that is trimmed has no white space at its ends. -/
theorem trimmed_trim (s : String) : Trimmed (trim s) := (trims_trim s).1

/-- **Trimming leaves the one text that is left** of a text. -/
theorem trim_eq_iff (s t : String) : trim s = t ↔ Trims s t := by
  constructor
  · rintro rfl
    exact trims_trim s
  · rintro ⟨htrimmed, before, after, hs, hbefore, hafter⟩
    rw [trim, hs, trimList_of_split hbefore hafter htrimmed.head htrimmed.last, String.ofList_toList]

/-- **Nothing is missing** exactly if there is no white space at the ends. -/
theorem trim_eq_self_iff (s : String) : trim s = s ↔ Trimmed s := by
  constructor
  · intro h
    rw [← h]
    exact trimmed_trim s
  · intro h
    have hself : s.toList = [] ++ s.toList ++ [] := by rw [List.nil_append, List.append_nil]
    exact (trim_eq_iff s s).mpr ⟨h, [], [], hself, List.forall_mem_nil _, List.forall_mem_nil _⟩

/-- **Nothing is left** of blank texts, and of no others. -/
theorem trim_eq_empty_iff (s : String) : trim s = "" ↔ isBlank s = true := by
  rw [trim_eq_iff, isBlank, List.all_eq_true]
  constructor
  · rintro ⟨-, before, after, hs, hbefore, hafter⟩
    rw [String.toList_empty, List.append_nil] at hs
    rw [hs, List.forall_mem_append]
    exact ⟨hbefore, hafter⟩
  · intro h
    have hself : s.toList = s.toList ++ "".toList ++ [] := by simp
    have hempty : Trimmed "" := ⟨fun c hc => (nomatch hc), fun c hc => (nomatch hc)⟩
    exact ⟨hempty, s.toList, [], hself, h, List.forall_mem_nil _⟩

end ItemQuery.Text
