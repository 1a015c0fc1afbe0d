import ItemQuery.Proofs.Compiler.Layout
import ItemQuery.Proofs.Path.Names
import Mathlib.Data.Bool.AllAny

/-!
# `Proofs.Predicate.Legible` — what compiled clauses have in common

A line shows a path without quotes beside an operand that is not told from others by its text alone: `5` may be an
integer or a double. Two properties of compiled clauses make lines clear nevertheless. Their paths hold none of the
characters that operators, quotes and lists begin with. And the path fixes of what kind the operands are, whatever the
criteria: that is a table, which is read off the schema.

Both are stated for a clause by itself, without the criteria that it comes from, so that lines of different criteria
can be compared.

## Contents
- `Kind`, `Operand.OfKind`, `Condition.Fits`: conditions whose operands are of one kind.
- `pathKinds`, `kindAt`: the kind of the operands at a path.
- `marks`, `IsQuiet`: the characters that begin what is no path, and those that neither do that nor disturb a line.
- `Clause.Legible`, `Predicate.Legible`, `legible_of_compile`: compiled predicates have both properties.
-/

namespace ItemQuery

/-! ## Kinds of operands -/

/-- The kinds of operands. -/
inductive Kind where
  | truth
  | whole
  | real
  | label
  deriving DecidableEq

/-- The operand is of this kind. No compiled criterion holds the other NaN. -/
inductive Operand.OfKind : Kind → Operand → Prop
  | truth (b : Bool) : OfKind .truth (.bool b)
  | whole (n : Int64) : OfKind .whole (.int n)
  | real (x : Float) : OfKind .real (.ofFloat x)
  | label (s : String) : OfKind .label (.text s)

/-- A kind that has an order. -/
def Kind.IsNumeric (k : Kind) : Prop := k = .whole ∨ k = .real

/-- **The operands of the condition are of this kind**, and only numbers have bounds. -/
inductive Condition.Fits (k : Kind) : Condition → Prop
  | equals {v : Operand} (h : v.OfKind k) : Fits k (.equals v)
  | contains (s : String) : Fits k (.contains s)
  | atLeast {v : Operand} (hk : k.IsNumeric) (h : v.OfKind k) : Fits k (.atLeast v)
  | atMost {v : Operand} (hk : k.IsNumeric) (h : v.OfKind k) : Fits k (.atMost v)
  | between {lo hi : Operand} (hk : k.IsNumeric) (hlo : lo.OfKind k) (hhi : hi.OfKind k) : Fits k (.between lo hi)
  | oneOf (ns : List Int64) : Fits k (.oneOf ns)
  | present : Fits k .present

/-- The kind of the operands that a criterion asks for. -/
def Criterion.kind : Criterion → Kind
  | substring _ => .label
  | category _ => .label
  | label _ => .label
  | flag _ => .truth
  | whole _ => .whole
  | real _ => .real
  | derived _ => .real
  | least _ => .whole
  | links _ => .whole

theorem Bounds.Asks.fits {α : Type} {f : α → Operand} {k : Kind} (hk : k.IsNumeric) (hf : ∀ a, (f a).OfKind k)
    {b : Bounds α} {cond : Condition} (h : (b.map f).Asks cond) : cond.Fits k := by
  rcases b with ⟨_ | lo, _ | hi⟩
  · exact nomatch h
  · cases h
    exact .atMost hk (hf hi)
  · cases h
    exact .atLeast hk (hf lo)
  · cases h
    exact .between hk (hf lo) (hf hi)

/-- **What a criterion asks for fits its kind.** -/
theorem Criterion.Asks.fits {a : Criterion} {cond : Condition} (h : a.Asks cond) : cond.Fits a.kind := by
  have hwhole : (Kind.whole).IsNumeric := .inl rfl
  have hreal : (Kind.real).IsNumeric := .inr rfl
  cases h with
  | substring s => exact .contains s
  | category s => exact .equals (.label _)
  | label s => exact .equals (.label s)
  | flag => exact .equals (.truth true)
  | whole h => exact h.fits hwhole .whole
  | real h => exact h.fits hreal .real
  | mean lo hi => exact .atLeast hreal (.real _)
  | derivedLower lo => exact .atLeast hreal (.real lo)
  | derivedUpper hi => exact .atMost hreal (.real hi)
  | least n => exact .atLeast hwhole (.whole n)
  | linksEqual lo hi => exact .oneOf _
  | linksFrom lo => exact .oneOf _
  | linksBelow hi => exact .oneOf _

/-! ## The kind at a path -/

/-- **The kinds at the paths of the layout**, which no criteria change. -/
def pathKinds : List (String × Kind) :=
  [("Price.Currency", .label), ("Price.Number", .real)] ++
    ({} : Criteria).schema.map fun row => (row.1, row.2.kind)

/-- The kind of the operands at a path; all paths that are not in the layout are those of modifiers. -/
def kindAt (path : String) : Kind := (pathKinds.lookup path).getD .real

theorem kindAt_of_mem : ∀ row ∈ pathKinds, kindAt row.1 = row.2 := by decide +kernel

theorem kindAt_schema {x : Criteria} {path : String} {a : Criterion} (h : (path, a) ∈ x.schema) :
    kindAt path = a.kind := by
  have hkinds : x.schema.map (fun row => (row.1, row.2.kind)) =
      ({} : Criteria).schema.map fun row => (row.1, row.2.kind) := rfl
  have hmem : (path, a.kind) ∈ x.schema.map fun row => (row.1, row.2.kind) :=
    List.mem_map_of_mem (f := fun row : String × Criterion => (row.1, row.2.kind)) h
  rw [hkinds] at hmem
  exact kindAt_of_mem _ (List.mem_append_right _ hmem)

/-- No path of the layout is in the namespace of modifiers. -/
theorem kindAt_modifier (name : String) : kindAt ("Mods." ++ name) = .real := by
  have hspace : ∀ row ∈ pathKinds, row.1.toList.take 5 ≠ "Mods.".toList := by decide +kernel
  have hnone : pathKinds.lookup ("Mods." ++ name) = none := by
    rw [List.lookup_eq_none_iff]
    intro row hrow
    rw [bne_iff_ne]
    intro heq
    refine hspace row hrow ?_
    rw [← heq, String.toList_append]
    rfl
  rw [kindAt, hnone, Option.getD_none]

/-! ## Quiet characters -/

/-- **The marks**: characters that operators, quoted texts and lists begin with. -/
def marks : List Char := ['=', '<', '>', '"', '[']

/-- Whether a character is a mark. -/
def isMark (c : Char) : Bool := marks.contains c

/-- A character that is no mark and does not disturb a line. -/
def IsQuiet (c : Char) : Prop := isMark c = false ∧ ¬ Text.IsControl c

theorem isMark_eq_false {p : Char → Bool} (hp : marks.all (fun m => !p m) = true) {c : Char} (hc : p c = true) :
    isMark c = false := by
  rw [isMark, List.contains_eq_mem, decide_eq_false_iff_not]
  intro hmem
  have hnot := List.all_eq_true.mp hp c hmem
  rw [hc] at hnot
  exact nomatch hnot

theorem isQuiet_of_isNameChar {c : Char} (h : isNameChar c = true) : IsQuiet c :=
  ⟨isMark_eq_false (by decide) h, (plain_of_isNameChar h).2.2.2⟩

theorem isQuiet_of_isDigit {c : Char} (h : c.isDigit = true) : IsQuiet c := by
  refine ⟨isMark_eq_false (by decide) h, ?_⟩
  have hrange : 48 ≤ c.toNat ∧ c.toNat ≤ 57 := by
    simpa [Char.isDigit, UInt32.le_iff_toNat_le] using h
  unfold Text.IsControl
  omega

instance (c : Char) : Decidable (Text.IsControl c) := inferInstanceAs (Decidable (_ ∨ _ ∧ _))

instance (c : Char) : Decidable (IsQuiet c) := inferInstanceAs (Decidable (_ ∧ _))

theorem isQuiet_schemaPaths : ∀ path ∈ schemaPaths, ∀ c ∈ path.toList, IsQuiet c := by
  have hall : ∀ path ∈ schemaPaths, path.toList.all (fun c => decide (IsQuiet c)) = true := by decide +kernel
  exact fun path hpath => List.all_iff_forall_prop.mp (hall path hpath)

/-! ## Legible clauses -/

/-- **A legible clause**: its path is quiet, and its operands are of the kind at its path. -/
structure Clause.Legible (c : Clause) : Prop where
  quiet : ∀ ch ∈ c.path.text.toList, IsQuiet ch
  fits : c.condition.Fits (kindAt c.path.text)

/-- A currency as an anchor. -/
def currencyClause (code : String) : Clause := ⟨⟨"Price.Currency"⟩, .equals (.text code)⟩

/-- **A legible predicate**: its clause is legible, and an anchor is a currency. -/
structure Predicate.Legible (p : Predicate) : Prop where
  anchor : ∀ a, p.anchor = some a → ∃ code, a = currencyClause code
  clause : p.clause.Legible

/-- Without an anchor, the clause decides. -/
theorem Predicate.legible_on {path : String} {cond : Condition} (h : (⟨⟨path⟩, cond⟩ : Clause).Legible) :
    (Predicate.on path cond).Legible where
  anchor _ ha := by cases ha
  clause := h

theorem legible_of_mem_schemaPaths {path : String} {cond : Condition} (hpath : path ∈ schemaPaths)
    (hfits : cond.Fits (kindAt path)) : (⟨⟨path⟩, cond⟩ : Clause).Legible :=
  ⟨isQuiet_schemaPaths path hpath, hfits⟩

theorem legible_currencyClause (code : String) : (currencyClause code).Legible :=
  legible_of_mem_schemaPaths (by decide) (.equals (.label code))

theorem PriceAsks.legible {code : String} {b : Bounds Float} {p : Predicate} (h : PriceAsks code b p) : p.Legible := by
  cases h with
  | currency _ => exact Predicate.legible_on (legible_currencyClause code)
  | number h =>
      refine ⟨fun a ha => ⟨code, (Option.some.inj ha).symm⟩, ?_⟩
      exact legible_of_mem_schemaPaths (by decide) (h.fits (.inr rfl) .real)

theorem ModifierAsks.legible {m : ModifierCriterion} {p : Predicate} {limit : Nat}
    (hname : checkName m.name limit = .ok ()) (h : ModifierAsks m p) : p.Legible := by
  have hquiet : ∀ c ∈ ("Mods." ++ m.name).toList, IsQuiet c := by
    have hspace : ∀ c ∈ "Mods.".toList, IsQuiet c := List.all_iff_forall_prop.mp (by decide)
    obtain ⟨_, _, _, _, hchars⟩ := checkName_eq_ok_iff.mp hname
    intro c hc
    rw [String.toList_append] at hc
    exact (List.mem_append.mp hc).elim (hspace c) fun hc => isQuiet_of_isNameChar (hchars c hc)
  cases h with
  | present _ => exact Predicate.legible_on ⟨hquiet, .present⟩
  | bounded h =>
      refine Predicate.legible_on ⟨hquiet, ?_⟩
      rw [kindAt_modifier]
      exact h.fits (.inr rfl) .real

/-- **Compiled predicates are legible.** -/
theorem Compiler.legible_of_compile {c : Compiler} {x : Criteria} {ps : List Predicate} (h : c.compile x = .ok ps) :
    ∀ p ∈ ps, p.Legible := by
  obtain ⟨hadmits, rfl⟩ := (compile_eq_ok_iff c x ps).mp h
  intro p hp
  rw [emitted, List.mem_append, List.mem_append] at hp
  rcases hp with (hp | hp) | hp
  · obtain ⟨name, code, _, _, rfl⟩ := mem_priceEmitted.mp hp
    exact (pricePredicate_asks code x.price).legible
  · obtain ⟨path, a, cond, ha, hasks, rfl⟩ := mem_contributions_schema.mp hp
    have hpath : path ∈ schemaPaths := by
      rw [schemaPaths_eq x]
      exact List.mem_append_right _ (List.mem_map_of_mem (f := Prod.fst) ha)
    refine Predicate.legible_on (legible_of_mem_schemaPaths hpath ?_)
    rw [kindAt_schema ha]
    exact hasks.fits
  · obtain ⟨m, hm, rfl⟩ := List.mem_map.mp hp
    exact (modifierPredicate_asks m).legible (hadmits.names m hm)

end ItemQuery
