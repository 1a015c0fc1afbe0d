import ItemQuery.Proofs.Path.Names
import ItemQuery.Proofs.Text.Quoted
import ItemQuery.Proofs.Text.Trimmed

/-!
# `Proofs.Path.Acceptance` — which names are accepted, and what becomes of them

A name that is accepted becomes the rest of a path, behind its namespace and a dot. The path is cut at its first dot when
it is taken apart, and the namespace has none; so namespace and name are both found again, and no two of them share a
path. The check of the name is not needed for this, and that is why the two halves of this file have little to do with
each other: what a path shows of a name, and which names get a path at all.

A name that is not accepted is given back with a reason. The reason is a text, but it is as good as the fault itself
(`NameFault.reason_injective`): it tells the check that failed, and the length, the limit or the character that this
check has found.

## Contents
- `AllowedName`, `checkName_eq_ok_iff_allowedName`: the names that are accepted.
- `NameFault.reason_injective`: a reason tells its fault.
- `Path.within_eq_ok_iff`, `Path.within_eq_error_iff`: what becomes of a name.
- `Path.within_inj`: no two names share a path.
- `Path.within_allowed`: the whole.
-/

namespace ItemQuery

/-! ## Names that are accepted -/

/-- **A name that is allowed**: it is not empty, has at most `limit` characters and no white space at its ends, and
    consists of letters, numbers, spaces and some punctuation. -/
structure AllowedName (name : String) (limit : Nat) : Prop where
  nonempty : name ≠ ""
  short : name.length ≤ limit
  trimmed : Text.Trimmed name
  characters : ∀ c ∈ name.toList, Text.isAlphanumeric c = true ∨
    c ∈ [' ', '%', '+', '-', '#', '\'', ',', ':', '(', ')', '/', '&']

theorem isNameChar_iff (c : Char) :
    isNameChar c = true ↔ Text.isAlphanumeric c = true ∨
      c ∈ [' ', '%', '+', '-', '#', '\'', ',', ':', '(', ')', '/', '&'] := by
  rw [isNameChar, Bool.or_eq_true, Bool.or_eq_true, beq_iff_eq, List.contains_iff_mem, or_assoc, List.mem_cons,
    namePunctuation]

/-- An end of a text that may be missing is no white space. -/
theorem any_isSpace_eq_false_iff (edge : Option Char) :
    edge.any Text.isSpace = false ↔ ∀ c, edge = some c → Text.isSpace c = false := by
  cases edge with
  | none => simp
  | some c => simp

theorem checkName_eq_ok_iff_allowedName {name : String} {limit : Nat} :
    checkName name limit = .ok () ↔ AllowedName name limit := by
  rw [checkName_eq_ok_iff, any_isSpace_eq_false_iff, any_isSpace_eq_false_iff, String.length_toList]
  simp only [isNameChar_iff, ne_eq, String.toList_eq_nil_iff]
  constructor
  · rintro ⟨hnonempty, hshort, hhead, hlast, hcharacters⟩
    exact ⟨hnonempty, hshort, ⟨hhead, hlast⟩, hcharacters⟩
  · intro h
    exact ⟨h.nonempty, h.short, h.trimmed.head, h.trimmed.last, h.characters⟩

/-! ## Reasons -/

/-- A number is read back from its digits. -/
theorem eq_of_toList_repr {n m : Nat} (h : n.repr.toList = m.repr.toList) : n = m := by
  have hread (k : Nat) : Nat.ofDigitChars 10 k.repr.toList 0 = k := by
    rw [Nat.toList_repr]
    exact Nat.ofDigitChars_ten_toDigits
  rw [← hread n, h, hread m]

/-- The blank behind a number shows where its digits end. -/
theorem repr_blank_inj {n m : Nat} {s t : List Char} (h : n.repr.toList ++ ' ' :: s = m.repr.toList ++ ' ' :: t) :
    n = m ∧ s = t := by
  have hblank (k : Nat) : ' ' ∉ k.repr.toList := by
    intro hmem
    rw [Nat.toList_repr] at hmem
    have hdigit : ' '.isDigit = true := Nat.isDigit_of_mem_toDigits (by decide) (by decide) hmem
    exact absurd hdigit (by decide)
  have hsplit := Text.splitAtFirst_append (hblank n) s
  rw [h, Text.splitAtFirst_append (hblank m) t] at hsplit
  obtain ⟨hdigits, hrest⟩ := Prod.mk.inj hsplit
  exact ⟨(eq_of_toList_repr hdigits).symm, (Option.some.inj hrest).symm⟩

namespace NameFault

theorem tooLong_reason_inj {length limit length' limit' : Nat}
    (h : (tooLong length limit).reason = (tooLong length' limit').reason) : length = length' ∧ limit = limit' := by
  have hlist := congrArg String.toList h
  simp only [reason, String.toList_append, List.append_assoc, List.append_cancel_left_eq] at hlist
  obtain ⟨hlength, hrest⟩ := repr_blank_inj hlist
  have hlimit : limit.repr.toList = limit'.repr.toList := List.append_cancel_left hrest
  exact ⟨hlength, eq_of_toList_repr hlimit⟩

theorem forbidden_reason_inj {c d : Char} (h : (forbidden c).reason = (forbidden d).reason) : c = d := by
  rw [reason, reason, String.append_left_inj, String.append_right_inj] at h
  exact Text.quoteChar_injective h

/-- **A reason tells its fault**, with all that the fault says. -/
theorem reason_injective : Function.Injective reason := by
  intro a b h
  -- apart from the reason of the empty name, different kinds of reasons differ within their first six letters
  have hlist := congrArg String.toList h
  cases a with
  | empty => exact (reason_eq_empty_iff.mp h.symm).symm
  | tooLong length limit =>
      cases b with
      | empty => exact reason_eq_empty_iff.mp h
      | tooLong length' limit' =>
          obtain ⟨rfl, rfl⟩ := tooLong_reason_inj h
          rfl
      | _ => simp [reason, String.toList_append] at hlist
  | spaceAtEnd =>
      cases b with
      | empty => exact reason_eq_empty_iff.mp h
      | spaceAtEnd => rfl
      | _ => simp [reason, String.toList_append] at hlist
  | forbidden c =>
      cases b with
      | empty => exact reason_eq_empty_iff.mp h
      | forbidden d => rw [forbidden_reason_inj h]
      | _ => simp [reason, String.toList_append] at hlist

end NameFault

/-! ## Paths -/

namespace Path

variable {space name : String} {limit : Nat} {p : Path} {fault : Fault}

theorem within_eq_ok_iff :
    within space name limit = .ok p ↔ AllowedName name limit ∧ p = ⟨space ++ "." ++ name⟩ := by
  rw [← checkName_eq_ok_iff_allowedName, within]
  cases hcheck : checkName name limit with
  | ok _ => simp [eq_comm]
  | error _ => simp

theorem within_eq_error_iff :
    within space name limit = .error fault ↔
      ∃ found, FirstFault (nameChecks name limit) found ∧ fault = .invalidName name found.reason := by
  simp only [← checkName_eq_error_iff]
  rw [within]
  cases hcheck : checkName name limit with
  | ok _ => simp
  | error _ => simp [eq_comm]

/-- **A path shows its namespace and its name.** -/
theorem root_leaf_of_within (hspace : '.' ∉ space.toList) (h : within space name limit = .ok p) :
    p.root = space ∧ p.leaf = some name := by
  obtain ⟨_, rfl⟩ := within_eq_ok_iff.mp h
  exact ⟨root_within name hspace, leaf_within name hspace⟩

/-- **No two names share a path**, neither in one namespace nor in two. -/
theorem within_inj {space' name' : String} {limit' : Nat} {p' : Path} (hspace : '.' ∉ space.toList)
    (hspace' : '.' ∉ space'.toList) (h : within space name limit = .ok p)
    (h' : within space' name' limit' = .ok p') : p = p' ↔ space = space' ∧ name = name' := by
  constructor
  · rintro rfl
    obtain ⟨hroot, hleaf⟩ := root_leaf_of_within hspace h
    obtain ⟨hroot', hleaf'⟩ := root_leaf_of_within hspace' h'
    exact ⟨hroot.symm.trans hroot', Option.some.inj (hleaf.symm.trans hleaf')⟩
  · rintro ⟨rfl, rfl⟩
    rw [(within_eq_ok_iff.mp h).2, (within_eq_ok_iff.mp h').2]

theorem within_of_le {limit' : Nat} (hle : limit ≤ limit') (h : within space name limit = .ok p) :
    within space name limit' = .ok p := by
  obtain ⟨hallowed, hp⟩ := within_eq_ok_iff.mp h
  have hcheck := checkName_of_le hle (checkName_eq_ok_iff_allowedName.mpr hallowed)
  exact within_eq_ok_iff.mpr ⟨checkName_eq_ok_iff_allowedName.mp hcheck, hp⟩

/-! ## The whole -/

/-- **Exactly the allowed names get a path, and the path determines them.** In a namespace without a dot a name gets a
    path if and only if it is allowed. The root of the path is the namespace and the rest is the name, so that no other
    name has this path, in this namespace or another one and under whatever limit. A name that is not allowed is given
    back as it is, with the reason of the first of its checks that fails; the reason tells which check it was and what
    it found. A greater limit takes no path away. -/
theorem within_allowed (hspace : '.' ∉ space.toList) :
    ((∃ p, within space name limit = .ok p) ↔ AllowedName name limit) ∧
    (∀ p, within space name limit = .ok p →
      p.text = space ++ "." ++ name ∧ p.root = space ∧ p.leaf = some name) ∧
    (∀ p, within space name limit = .ok p → ∀ space' name' limit' p', '.' ∉ space'.toList →
      within space' name' limit' = .ok p' → (p = p' ↔ space = space' ∧ name = name')) ∧
    (∀ fault, within space name limit = .error fault ↔
      ∃ found, FirstFault (nameChecks name limit) found ∧ fault = .invalidName name found.reason) ∧
    Function.Injective NameFault.reason ∧
    ∀ limit', limit ≤ limit' → ∀ p, within space name limit = .ok p → within space name limit' = .ok p := by
  refine ⟨?_, ?_, ?_, fun fault => within_eq_error_iff, NameFault.reason_injective, ?_⟩
  · constructor
    · rintro ⟨p, hp⟩
      exact (within_eq_ok_iff.mp hp).1
    · intro h
      exact ⟨_, within_eq_ok_iff.mpr ⟨h, rfl⟩⟩
  · intro p hp
    have htext : p.text = space ++ "." ++ name := congrArg text (within_eq_ok_iff.mp hp).2
    exact ⟨htext, root_leaf_of_within hspace hp⟩
  · intro p hp space' name' limit' p' hspace' hp'
    exact within_inj hspace hspace' hp hp'
  · intro limit' hle p hp
    exact within_of_le hle hp

/-- A name of five characters and seven bytes, under a limit of five and under one of four. -/
theorem within_allowed_umlaut :
    '.' ∉ "Mods".toList ∧ within "Mods" "Größe" 5 = .ok ⟨"Mods.Größe"⟩ ∧
      (Path.mk "Mods.Größe").root = "Mods" ∧ (Path.mk "Mods.Größe").leaf = some "Größe" ∧
      within "Mods" "Größe" 128 = .ok ⟨"Mods.Größe"⟩ ∧
      within "Mods" "Größe" 4 = .error (.invalidName "Größe" "name is 5 characters long, the limit is 4") := by
  have hspace : '.' ∉ "Mods".toList := by decide
  have hpath : within "Mods" "Größe" 5 = .ok ⟨"Mods.Größe"⟩ := by decide +kernel
  have hshort := @within_allowed "Mods" "Größe" 5 hspace
  have hlong := @within_allowed "Mods" "Größe" 4 hspace
  obtain ⟨_, hroot, hleaf⟩ := hshort.2.1 _ hpath
  have hfound : FirstFault (nameChecks "Größe" 4) (.tooLong 5 4) :=
    .later (fun _ h => absurd h.1 (by decide)) (.here ⟨by decide, rfl⟩)
  refine ⟨hspace, hpath, hroot, hleaf, hshort.2.2.2.2.2 128 (by decide) _ hpath, ?_⟩
  exact (hlong.2.2.2.1 _).mpr ⟨_, hfound, rfl⟩

end Path

end ItemQuery
