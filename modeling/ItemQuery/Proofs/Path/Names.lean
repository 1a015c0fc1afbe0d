import ItemQuery.Path
import ItemQuery.Proofs.Checks

/-!
# `Proofs.Path.Names` — what a checked name cannot hold

A name that a caller gives ends up in key position, behind its namespace and a dot. The check lists what is
allowed; what matters for keys is what is left out by that list: the dot, which would go on to another field,
the dollar sign, which would make an operator, and control characters, NUL among them, which end a key or break
a line.

## Contents
- `checkName_eq_ok_iff`, `checkName_of_le`: the check as one condition, and under a greater limit.
- `nameChecks`, `checkName_eq_error_iff`: the fault of a name is the first one of four checks.
- `reason_eq_empty_iff`: only the empty name is told to be empty.
- `Text.IsControl`, `PlainName`, `plainName_of_checkName`: a name that passes means nothing as a key.
- `count_dot_within`, `root_within`, `leaf_within`: the path of a plain name in a namespace has one dot, behind the
  namespace.
-/

namespace ItemQuery

/-! ## The check -/

/-- **A name passes the check** exactly if none of the faults applies. -/
theorem checkName_eq_ok_iff {name : String} {limit : Nat} :
    checkName name limit = .ok () ↔
      name.toList ≠ [] ∧ name.toList.length ≤ limit ∧
        name.toList.head?.any Text.isSpace = false ∧
        name.toList.getLast?.any Text.isSpace = false ∧
        ∀ c ∈ name.toList, isNameChar c = true := by
  unfold checkName
  dsimp only
  by_cases hempty : name.toList = []
  · rw [if_pos hempty]
    constructor
    · exact fun h => nomatch h
    · exact fun h => absurd hempty h.1
  rw [if_neg hempty]
  by_cases hlong : limit < name.toList.length
  · rw [if_pos hlong]
    constructor
    · exact fun h => nomatch h
    · exact fun h => absurd h.2.1 (Nat.not_le.mpr hlong)
  rw [if_neg hlong]
  by_cases hspace : (name.toList.head?.any Text.isSpace || name.toList.getLast?.any Text.isSpace) = true
  · rw [if_pos hspace]
    constructor
    · exact fun h => nomatch h
    · intro h
      rw [h.2.2.1, h.2.2.2.1] at hspace
      exact nomatch hspace
  rw [if_neg hspace]
  rw [Bool.not_eq_true, Bool.or_eq_false_iff] at hspace
  cases hfind : name.toList.find? fun c => !isNameChar c with
  | some c =>
      constructor
      · exact fun h => nomatch h
      · intro h
        have hforbidden := List.find?_some hfind
        rw [h.2.2.2.2 c (List.mem_of_find?_eq_some hfind)] at hforbidden
        exact nomatch hforbidden
  | none =>
      refine ⟨fun _ => ⟨hempty, Nat.le_of_not_lt hlong, hspace.1, hspace.2, fun c hc => ?_⟩, fun _ => rfl⟩
      have hallowed := List.find?_eq_none.mp hfind c hc
      rwa [Bool.not_eq_true, Bool.not_eq_false'] at hallowed

/-- The limit bounds names from above only. -/
theorem checkName_of_le {name : String} {limit limit' : Nat} (hle : limit ≤ limit')
    (h : checkName name limit = .ok ()) : checkName name limit' = .ok () := by
  rw [checkName_eq_ok_iff] at h ⊢
  obtain ⟨hne, hlength, hrest⟩ := h
  exact ⟨hne, Nat.le_trans hlength hle, hrest⟩

/-- **The checks of a name**, in the order in which they are made. -/
def nameChecks (name : String) (limit : Nat) : List (NameFault → Prop) :=
  [fun fault => name = "" ∧ fault = .empty,
   fun fault => limit < name.length ∧ fault = .tooLong name.length limit,
   fun fault => (∃ c, (name.toList.head? = some c ∨ name.toList.getLast? = some c) ∧
     Text.isSpace c = true) ∧ fault = .spaceAtEnd,
   fun fault => ∃ before c after, name.toList = before ++ c :: after ∧
     (∀ d ∈ before, isNameChar d = true) ∧ isNameChar c = false ∧ fault = .forbidden c]

/-- **The fault of a name is the first one that the checks find.** -/
theorem checkName_eq_error_iff {name : String} {limit : Nat} {fault : NameFault} :
    checkName name limit = .error fault ↔ FirstFault (nameChecks name limit) fault := by
  have hspace : (∃ c, (name.toList.head? = some c ∨ name.toList.getLast? = some c) ∧
      Text.isSpace c = true) ↔
      (name.toList.head?.any Text.isSpace || name.toList.getLast?.any Text.isSpace) = true := by
    simp only [Bool.or_eq_true, Option.any_eq_true, or_and_right, exists_or]
  unfold nameChecks checkName
  simp only [hspace, firstFault_guard_iff, String.toList_eq_nil_iff, String.length_toList]
  split
  · exact ⟨fun h => (Except.error.inj h).symm, fun h => h ▸ rfl⟩
  split
  · exact ⟨fun h => (Except.error.inj h).symm, fun h => h ▸ rfl⟩
  split
  · exact ⟨fun h => (Except.error.inj h).symm, fun h => h ▸ rfl⟩
  rw [firstFault_singleton_iff]
  constructor
  · intro h
    cases hfind : name.toList.find? fun c => !isNameChar c with
    | none =>
        rw [hfind] at h
        exact nomatch h
    | some c =>
        rw [hfind] at h
        obtain ⟨hc, before, after, hsplit, hbefore⟩ := List.find?_eq_some_iff_append.mp hfind
        refine ⟨before, c, after, hsplit, fun d hd => ?_, ?_, (Except.error.inj h).symm⟩
        · simpa using hbefore d hd
        · simpa using hc
  · rintro ⟨before, c, after, hsplit, hbefore, hc, rfl⟩
    have hfind : name.toList.find? (fun c => !isNameChar c) = some c := by
      rw [List.find?_eq_some_iff_append]
      exact ⟨by simpa using hc, before, after, hsplit, fun d hd => by simpa using hbefore d hd⟩
    rw [hfind]

/-- The fault of an empty name is found in the empty name only. -/
theorem name_eq_empty_of_firstFault {name : String} {limit : Nat}
    (h : FirstFault (nameChecks name limit) .empty) : name = "" := by
  obtain ⟨check, hmem, hcheck⟩ := h.exists_check
  simp only [nameChecks, List.mem_cons, List.not_mem_nil, or_false] at hmem
  rcases hmem with rfl | rfl | rfl | rfl
  · exact hcheck.1
  · exact nomatch hcheck.2
  · exact nomatch hcheck.2
  · obtain ⟨_, _, _, _, _, _, h⟩ := hcheck
    exact nomatch h

/-- **Only the empty name is told to be empty**: every other reason is a longer text. -/
theorem NameFault.reason_eq_empty_iff {fault : NameFault} :
    fault.reason = NameFault.empty.reason ↔ fault = .empty := by
  refine ⟨fun h => ?_, fun h => h ▸ rfl⟩
  have hempty : NameFault.empty.reason.length = 13 := by decide
  cases fault with
  | empty => rfl
  | tooLong length limit =>
      have hword : " characters long, the limit is ".length = 31 := by decide
      rw [← h, NameFault.reason, String.length_append, String.length_append, hword] at hempty
      omega
  | spaceAtEnd => exact absurd h (by decide)
  | forbidden c =>
      have hword : " is not allowed".length = 15 := by decide
      rw [← h, NameFault.reason, String.length_append, hword] at hempty
      omega

/-! ## Characters that mean something in a key -/

/-- The general category Cc. -/
def Text.IsControl (c : Char) : Prop := c.toNat < 0x20 ∨ 0x7f ≤ c.toNat ∧ c.toNat < 0xa0

/-- A name **without meaning as a key**: it is not empty and holds no dot, no dollar sign, no NUL and no
    control character. -/
def PlainName (name : String) : Prop :=
  name ≠ "" ∧ ∀ c ∈ name.toList, c ≠ '.' ∧ c ≠ '$' ∧ c ≠ '\x00' ∧ ¬ Text.IsControl c

/-- Below U+00A0, where the control characters are, the allowed characters are found by looking at each. -/
theorem isNameChar_below : ∀ n, n < 0xa0 → isNameChar (Char.ofNat n) = true →
    Char.ofNat n ≠ '.' ∧ Char.ofNat n ≠ '$' ∧ Char.ofNat n ≠ '\x00' ∧ 0x20 ≤ n ∧ n < 0x7f := by
  decide +kernel

/-- An allowed character means nothing in a key. -/
theorem plain_of_isNameChar {c : Char} (h : isNameChar c = true) :
    c ≠ '.' ∧ c ≠ '$' ∧ c ≠ '\x00' ∧ ¬ Text.IsControl c := by
  unfold Text.IsControl
  by_cases hlow : c.toNat < 0xa0
  · have hc := isNameChar_below c.toNat hlow
    rw [Char.ofNat_toNat] at hc
    obtain ⟨hdot, hdollar, hnul, hlo, hhi⟩ := hc h
    exact ⟨hdot, hdollar, hnul, by omega⟩
  · refine ⟨?_, ?_, ?_, by omega⟩
    · rintro rfl
      exact hlow (by decide)
    · rintro rfl
      exact hlow (by decide)
    · rintro rfl
      exact hlow (by decide)

/-- **A name that passes the check means nothing as a key**, whatever the limit on its length. -/
theorem plainName_of_checkName {name : String} {limit : Nat} (h : checkName name limit = .ok ()) :
    PlainName name := by
  obtain ⟨hne, _, _, _, hchars⟩ := checkName_eq_ok_iff.mp h
  refine ⟨?_, fun c hc => plain_of_isNameChar (hchars c hc)⟩
  rintro rfl
  exact hne rfl

/-! ## Names behind a namespace -/

/-- The path of a plain name has no dot but the one behind its namespace. -/
theorem PlainName.count_dot_within {name space : String} (h : PlainName name)
    (hspace : '.' ∉ space.toList) : (space ++ "." ++ name).toList.count '.' = 1 := by
  have hname : '.' ∉ name.toList := fun hdot => (h.2 '.' hdot).1 rfl
  rw [String.toList_append, String.toList_append, List.count_append, List.count_append,
    List.count_eq_zero_of_not_mem hspace, List.count_eq_zero_of_not_mem hname]
  rfl

/-- The first dot of a path is not in its namespace. -/
theorem ne_dot_of_mem {space : String} (hspace : '.' ∉ space.toList) : ∀ c ∈ space.toList, (c != '.') = true := by
  intro c hc
  rw [bne_iff_ne]
  rintro rfl
  exact hspace hc

/-- A path inside a namespace has the namespace as its root, whatever the name. -/
theorem Path.root_within {space : String} (name : String) (hspace : '.' ∉ space.toList) :
    (Path.mk (space ++ "." ++ name)).root = space := by
  have hnamespace := ne_dot_of_mem hspace
  unfold Path.root
  rw [String.toList_append, String.toList_append, List.append_assoc,
    List.takeWhile_append_of_pos hnamespace]
  show String.ofList (space.toList ++ []) = space
  rw [List.append_nil, String.ofList_toList]

/-- What is behind the namespace is the name. -/
theorem Path.leaf_within {space : String} (name : String) (hspace : '.' ∉ space.toList) :
    (Path.mk (space ++ "." ++ name)).leaf = some name := by
  have hrest : (space ++ "." ++ name).toList.dropWhile (· != '.') = '.' :: name.toList := by
    rw [String.toList_append, String.toList_append, List.append_assoc,
      List.dropWhile_append_of_pos (ne_dot_of_mem hspace)]
    rfl
  unfold Path.leaf
  rw [hrest]
  show some (String.ofList name.toList) = some name
  rw [String.ofList_toList]

end ItemQuery
