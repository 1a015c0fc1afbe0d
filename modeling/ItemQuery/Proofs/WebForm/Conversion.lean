import ItemQuery.Proofs.Compiler.Refusal
import ItemQuery.WebForm.Basic
import Mathlib.Data.List.Basic

/-!
# `Proofs.WebForm.Conversion` — a form and its criteria say the same

The form is flat and its criteria are nested, and some fifty keys are wired from the one to the other. To say that
no wire is crossed there is a conversion back (`Criteria.form`), written from the criteria's side: each criterion
under its own key and all modifiers as rows. It is a right inverse on criteria without blank texts
(`criteria_form`). From the other side it takes the criteria of a form to the form itself, with blank texts cleared
and with only the rows that name a modifier (`form_criteria`). So this is all that converting loses, and two forms
have the same criteria exactly if they agree in the rest.

## Contents
- `WebForm.cleared`, `WebForm.named`, `WebForm.withoutRows`: the parts of a form.
- `Criteria.form`: the form of criteria. `Criteria.NoBlank`: criteria without blank texts.
- `modifiers_criteria`: the modifiers are the rows that are named.
- `form_criteria`, `criteria_form`: the two conversions one after the other, both ways round.
- `criteria_eq_iff`: when two forms have the same criteria.
- `form_conversion`: all of it.
-/

namespace ItemQuery

/-! ## Parts of a form -/

/-- The row with a blank name taken away. -/
def ModifierRow.cleared (r : ModifierRow) : ModifierRow := { r with name := nonBlank r.name }

/-- The row names a modifier: its name is given and not blank. -/
def ModifierRow.isNamed (r : ModifierRow) : Bool := r.name.any fun s => !Text.isBlank s

namespace WebForm

/-- **The form with its blank texts taken away**, those of its rows included. -/
def cleared (f : WebForm) : WebForm :=
  { f with
    name := nonBlank f.name
    category := nonBlank f.category
    typeLine := nonBlank f.typeLine
    league := nonBlank f.league
    currencyName := nonBlank f.currencyName
    modifier := f.modifier.cleared
    rows := f.rows.map ModifierRow.cleared }

/-- The rows that name a modifier, the widget first, as they stand in the form. -/
def named (f : WebForm) : List ModifierRow := (f.modifier :: f.rows).filter ModifierRow.isNamed

/-- The form with other rows, and nothing in its widget. -/
def withRows (f : WebForm) (rows : List ModifierRow) : WebForm := { f with modifier := {}, rows := rows }

/-- All of a form but its widget and rows. -/
def withoutRows (f : WebForm) : WebForm := f.withRows []

theorem withRows_eq_iff {f g : WebForm} {rs ss : List ModifierRow} :
    f.withRows rs = g.withRows ss ↔ f.withoutRows = g.withoutRows ∧ rs = ss := by
  constructor
  · intro h
    have hfields : (f.withRows rs).withoutRows = (g.withRows ss).withoutRows := congrArg withoutRows h
    exact ⟨hfields, congrArg rows h⟩
  · rintro ⟨h, rfl⟩
    have hrows : f.withoutRows.withRows rs = g.withoutRows.withRows rs := congrArg (withRows · rs) h
    exact hrows

end WebForm

/-! ## Back from criteria -/

/-- The row of a modifier. -/
def ModifierCriterion.row (m : ModifierCriterion) : ModifierRow := ⟨some m.name, m.lower, m.upper⟩

/-- **The form of criteria**: each criterion under its own key, and all modifiers as rows below an empty widget. -/
def Criteria.form (x : Criteria) : WebForm where
  name := x.name
  category := x.category
  typeLine := x.typeLine
  league := x.league
  currencyName := x.currencyName
  minPrice := x.price.min
  maxPrice := x.price.max
  corrupted := x.corrupted
  verified := x.verified
  identified := x.identified
  supported := x.supported
  minItemLevel := x.itemLevel.min
  maxItemLevel := x.itemLevel.max
  minSocketCount := x.socketCount.min
  maxSocketCount := x.socketCount.max
  minLinkCount := x.linkCount.min
  maxLinkCount := x.linkCount.max
  strSockets := x.strSockets
  dexSockets := x.dexSockets
  intSockets := x.intSockets
  otherSockets := x.otherSockets
  minIntelligence := x.requirements.intelligence.min
  maxIntelligence := x.requirements.intelligence.max
  minDexterity := x.requirements.dexterity.min
  maxDexterity := x.requirements.dexterity.max
  minStrength := x.requirements.strength.min
  maxStrength := x.requirements.strength.max
  minLevel := x.requirements.level.min
  maxLevel := x.requirements.level.max
  minPhysicalDamage := x.physicalDamage.min
  maxPhysicalDamage := x.physicalDamage.max
  minElementalDamage := x.elementalDamage.min
  maxElementalDamage := x.elementalDamage.max
  minCriticalStrikeChance := x.criticalStrikeChance.min
  maxCriticalStrikeChance := x.criticalStrikeChance.max
  minAttacksPerSecond := x.attacksPerSecond.min
  maxAttacksPerSecond := x.attacksPerSecond.max
  minArmour := x.armour.min
  maxArmour := x.armour.max
  minEvasion := x.evasion.min
  maxEvasion := x.evasion.max
  minEnergyShield := x.energyShield.min
  maxEnergyShield := x.energyShield.max
  minBlock := x.block.min
  maxBlock := x.block.max
  minQuality := x.quality.min
  maxQuality := x.quality.max
  modifier := {}
  rows := x.modifiers.map ModifierCriterion.row

/-- A text, if it is given, is not blank. -/
def NotBlank (s : Option String) : Prop := ∀ t ∈ s, Text.isBlank t = false

/-- **Criteria without blank texts.** -/
structure Criteria.NoBlank (x : Criteria) : Prop where
  currencyName : NotBlank x.currencyName
  name : NotBlank x.name
  category : NotBlank x.category
  typeLine : NotBlank x.typeLine
  league : NotBlank x.league
  modifiers : ∀ m ∈ x.modifiers, Text.isBlank m.name = false

/-! ## Blank texts -/

theorem notBlank_nonBlank (s : Option String) : NotBlank (nonBlank s) := by
  intro t ht
  have hkept := (Option.filter_eq_some_iff.mp ht).2
  simpa using hkept

theorem nonBlank_of_notBlank {s : Option String} (h : NotBlank s) : nonBlank s = s := by
  cases s with
  | none => rfl
  | some t =>
      refine Option.filter_eq_some_iff.mpr ⟨rfl, ?_⟩
      rw [h t rfl]
      rfl

theorem nonBlank_nonBlank (s : Option String) : nonBlank (nonBlank s) = nonBlank s :=
  nonBlank_of_notBlank (notBlank_nonBlank s)

/-! ## Modifier rows -/

theorem ModifierRow.criterion_cleared (r : ModifierRow) : r.cleared.criterion = r.criterion := by
  simp only [ModifierRow.criterion, ModifierRow.cleared, nonBlank_nonBlank]

/-- A row that is named is the row of its modifier, and any other row has none. -/
theorem ModifierRow.map_row_criterion (r : ModifierRow) :
    r.criterion.map ModifierCriterion.row = if r.isNamed then some r else none := by
  obtain ⟨name, lower, upper⟩ := r
  cases name with
  | none => rfl
  | some s =>
      cases hblank : Text.isBlank s with
      | false => simp [criterion, isNamed, nonBlank, hblank, ModifierCriterion.row]
      | true => simp [criterion, isNamed, nonBlank, hblank]

theorem ModifierCriterion.criterion_row {m : ModifierCriterion} (h : Text.isBlank m.name = false) :
    m.row.criterion = some m := by
  have hname : nonBlank (some m.name) = some m.name := by
    refine nonBlank_of_notBlank fun t ht => ?_
    rw [← Option.some.inj ht]
    exact h
  rw [ModifierRow.criterion, ModifierCriterion.row, hname]
  rfl

namespace WebForm

/-- **The modifiers are the rows that name one**, in order and as they stand in the form. -/
theorem modifiers_criteria (f : WebForm) :
    f.criteria.modifiers.map ModifierCriterion.row = f.named := by
  show ((f.modifier :: f.rows).filterMap ModifierRow.criterion).map ModifierCriterion.row = f.named
  rw [List.map_filterMap, named, ← List.filterMap_eq_filter]
  refine List.filterMap_congr fun r _ => ?_
  rw [ModifierRow.map_row_criterion]
  rfl

theorem noBlank_criteria (f : WebForm) : f.criteria.NoBlank := by
  refine ⟨notBlank_nonBlank _, notBlank_nonBlank _, notBlank_nonBlank _, notBlank_nonBlank _,
    notBlank_nonBlank _, fun m hm => ?_⟩
  obtain ⟨r, _, hr⟩ := List.mem_filterMap.mp hm
  obtain ⟨name, hname, rfl⟩ := Option.map_eq_some_iff.mp hr
  exact notBlank_nonBlank r.name name hname

/-- Blank texts might as well not be given. -/
theorem criteria_cleared (f : WebForm) : f.cleared.criteria = f.criteria := by
  have hmodifiers : (f.cleared.modifier :: f.cleared.rows).filterMap ModifierRow.criterion =
      (f.modifier :: f.rows).filterMap ModifierRow.criterion := by
    show ((f.modifier :: f.rows).map ModifierRow.cleared).filterMap ModifierRow.criterion = _
    rw [List.filterMap_map]
    exact List.filterMap_congr fun r _ => r.criterion_cleared
  simp only [criteria, hmodifiers]
  simp only [cleared, nonBlank_nonBlank]

/-! ## Both conversions -/

/-- **The form of a form's criteria** is the form, cleared of blank texts, with the rows that are named. -/
theorem form_criteria (f : WebForm) :
    f.criteria.form = f.cleared.withRows f.named := by
  rw [← modifiers_criteria]
  rfl

/-- **The criteria of the form of criteria** are these criteria, unless some text is blank. -/
theorem criteria_form {x : Criteria} (h : x.NoBlank) : x.form.criteria = x := by
  have hmodifiers : (x.form.modifier :: x.form.rows).filterMap ModifierRow.criterion =
      x.modifiers := by
    show (x.modifiers.map ModifierCriterion.row).filterMap ModifierRow.criterion = x.modifiers
    rw [List.filterMap_map]
    refine (List.filterMap_congr fun m hm => ?_).trans List.filterMap_some
    exact ModifierCriterion.criterion_row (h.modifiers m hm)
  simp only [criteria, hmodifiers]
  simp only [Criteria.form, nonBlank_of_notBlank h.currencyName, nonBlank_of_notBlank h.name,
    nonBlank_of_notBlank h.category, nonBlank_of_notBlank h.typeLine, nonBlank_of_notBlank h.league]

/-- **Converting loses nothing else.** -/
theorem criteria_eq_iff (f g : WebForm) :
    f.criteria = g.criteria ↔
      f.cleared.withoutRows = g.cleared.withoutRows ∧ f.named = g.named := by
  constructor
  · intro h
    have hform := congrArg Criteria.form h
    rw [form_criteria, form_criteria] at hform
    exact withRows_eq_iff.mp hform
  · intro h
    have hform : f.criteria.form = g.criteria.form := by
      rw [form_criteria, form_criteria]
      exact withRows_eq_iff.mpr h
    rw [← criteria_form f.noBlank_criteria, hform, criteria_form g.noBlank_criteria]

/-! ## Compiling a form -/

/-- **A form has no modifier without a name**, so that no name is refused for being empty. -/
theorem name_ne_empty_of_compile {c : Compiler} {f : WebForm} {name reason : String}
    (h : c.compile f.criteria = .error (.invalidName name reason)) :
    name ≠ "" ∧ reason ≠ NameFault.empty.reason := by
  obtain ⟨m, hm, rfl, fault, hfault, rfl⟩ := Compiler.misnamed_of_compile h
  have hname : m.name ≠ "" := by
    intro hempty
    have hblank := f.noBlank_criteria.modifiers m hm
    rw [hempty] at hblank
    exact nomatch hblank
  refine ⟨hname, fun hreason => ?_⟩
  rw [NameFault.reason_eq_empty_iff.mp hreason] at hfault
  exact hname (name_eq_empty_of_firstFault hfault)

/-- **A form converts to its criteria without losing, crossing or inventing any.** Blank texts count as not given,
    and none is among the criteria. The modifiers are the rows that name one. Two forms have the same criteria exactly
    if, cleared of blank texts, they agree outside the rows and name the same modifiers. Criteria without blank texts
    are those of the form that has each of them under its own key. And no compiler refuses the criteria of a form for
    an empty name. -/
theorem form_conversion :
    (∀ f : WebForm, f.cleared.criteria = f.criteria ∧ f.criteria.NoBlank ∧
      f.criteria.modifiers.map ModifierCriterion.row = f.named) ∧
    (∀ f g : WebForm, f.criteria = g.criteria ↔
      f.cleared.withoutRows = g.cleared.withoutRows ∧ f.named = g.named) ∧
    (∀ x : Criteria, x.NoBlank → x.form.criteria = x) ∧
    (∀ (c : Compiler) (f : WebForm) (name reason : String),
      c.compile f.criteria = .error (.invalidName name reason) →
        name ≠ "" ∧ reason ≠ NameFault.empty.reason) :=
  ⟨fun f => ⟨f.criteria_cleared, f.noBlank_criteria, f.modifiers_criteria⟩, criteria_eq_iff,
    fun _ h => criteria_form h, fun _ _ _ _ h => name_ne_empty_of_compile h⟩

/-- Criteria with a modifier whose name has blanks around it come back from their form, and a form with a row that
    is not named is refused for another row. -/
theorem conversion_of_padded_modifier :
    (({ name := some "Tabula", itemLevel := ⟨some 60, none⟩, requirements := { level := ⟨none, some 30⟩ },
        modifiers := [{ name := " Life " }] } : Criteria).form.criteria =
      { name := some "Tabula", itemLevel := ⟨some 60, none⟩, requirements := { level := ⟨none, some 30⟩ },
        modifiers := [{ name := " Life " }] }) ∧
    ({} : Compiler).compile
        ({ modifier := { name := some " " }, rows := [{ name := some "a.b" }] } : WebForm).criteria =
      .error (.invalidName "a.b" "character '.' is not allowed") ∧
    "a.b" ≠ "" := by
  have hrefused : ({} : Compiler).compile
      ({ modifier := { name := some " " }, rows := [{ name := some "a.b" }] } : WebForm).criteria =
        .error (.invalidName "a.b" "character '.' is not allowed") := rfl
  refine ⟨form_conversion.2.2.1 _ ⟨?_, ?_, ?_, ?_, ?_, by decide⟩, hrefused,
    (form_conversion.2.2.2 _ _ _ _ hrefused).1⟩
  all_goals simp [NotBlank, Text.isBlank, Text.isSpace]

end WebForm

end ItemQuery
