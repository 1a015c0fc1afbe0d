import ItemQuery.Proofs.Criteria.RoundTrip
import ItemQuery.WebForm.Json

/-!
# `Proofs.WebForm.Reading` — the web form is read by two grammars at once

The form is read in two passes over one object. The first reads the form's own fields and keeps every other member,
the second reads the widget for a single modifier and skips what is not its own. Each pass has a grammar, and an object
is read as a form exactly if it is read by both (`WebForm.read_iff`). To either grammar the fields of the other are
members that name no field, and so is every member that neither pass wants.

Such members do not change what is read, but they are not without limits. The first pass keeps them in a buffer, for
which their values have to be sound: no number beyond the range of doubles, no half of a surrogate pair, and no deeper
nesting than the reader allows. A member that is merely skipped, as in bounds or in a row, need not be.

## Contents
- `ModifierRow.grammar`, `WebForm.grammar`: the tables. `ModifierRow.describes`, `WebForm.matches_rule`: the rules.
- `WebForm.read_iff`: a form is read by both grammars.
- `WebForm.isKnown`, `WebForm.read_known_iff`: members that neither pass wants.
- `WebForm.read_ne_ok_of_twice`: keys that are given twice.
- `WebForm.ofText_toJson_iff`: a form is read from what it is written as.
- `WebForm.form_reading`: these together.
-/

namespace ItemQuery

open Json

/-! ## Modifier rows -/

namespace ModifierRow

/-- **The grammar of a modifier row**, and of the widget among other members: other keys are skipped. -/
def grammar : Grammar ModifierRow where
  slots := [
    .text ["mods_name"] ModifierRow.name,
    .double ["mods_lower_bound"] ModifierRow.lower,
    .double ["mods_upper_bound"] ModifierRow.upper]
  Ignores v := v.isWhole = true
  Length n := n ≤ 3

def components : List (Component ModifierRow) :=
  let double := option_decodes float_decodes
  [⟨nameField, _, ModifierRow.name, option_decodes string_decodes, by decide⟩,
    ⟨lowerField, _, ModifierRow.lower, double, by decide⟩,
    ⟨upperField, _, ModifierRow.upper, double, by decide⟩]

theorem describes : grammar.Describes read rule components where
  fields := rfl
  slots := rfl
  names := by decide
  ignores k v := by
    show (if v.isWhole then .ok () else .error ReadError.notJson) = Except.ok () ↔ v.isWhole = true
    cases v.isWhole <;> simp
  length n := by
    show n ≤ 3 ↔ true = true ∧ n ≤ 3 ∧ (false = true → n = 3)
    simp
  entries _ _ hx := (bind_eq_ok_iff.mp hx).imp fun _ h => h.1
  reads n es x hes hstores := by
    simp only [components, List.forall_mem_cons, Component.Stores] at hstores
    simp only [read, hes, ok_bind, hstores]
    rfl
  total es hes := by
    simp only [components, List.forall_mem_cons] at hes ⊢
    obtain ⟨⟨n, hn⟩, ⟨l, hl⟩, ⟨u, hu⟩, _⟩ := hes
    exact ⟨⟨n, l, u⟩, hn, hl, hu, List.forall_mem_nil _⟩

/-- The bounds of a row. -/
def bounds (r : ModifierRow) : Bounds Float := ⟨r.lower, r.upper⟩

theorem named_members (r : ModifierRow) : List.Forall₂ Slot.Named grammar.slots (memberNodes r.members) := by
  simp [memberNodes, members, grammar, Slot.Named, Slot.text, Slot.double, Slot.of]

theorem reads_members_iff (r : ModifierRow) :
    grammar.Reads (.object (memberNodes r.members) true) r ↔ ∀ y ∈ r.bounds.toList, Rereads y := by
  refine (Grammar.reads_iff_of_full describes.disjoint_names r.named_members r).trans ?_
  rw [Bounds.forall_toList_iff]
  simp [memberNodes, members, grammar, Slot.text, Slot.double, Slot.reads_of_iff, isOption_string, isOption_float_iff,
    bounds]

theorem reads_toJson_iff (r : ModifierRow) : grammar.Reads r.toJson.node r ↔ ∀ y ∈ r.bounds.toList, Rereads y :=
  r.reads_members_iff

end ModifierRow

/-! ## The form -/

namespace WebForm

/-- **The grammar of the form's own fields**: other keys are kept, which not every value can be. -/
def grammar : Grammar WebForm where
  slots := [
    .text ["name"] WebForm.name,
    .text ["type"] WebForm.category,
    .text ["typeLine"] WebForm.typeLine,
    .text ["league"] WebForm.league,
    .text ["currency_name"] WebForm.currencyName,
    .double ["min_price"] WebForm.minPrice,
    .double ["max_price"] WebForm.maxPrice,
    .flag ["corrupted"] WebForm.corrupted,
    .flag ["verified"] WebForm.verified,
    .flag ["identified"] WebForm.identified,
    .flag ["supported"] WebForm.supported,
    .integer ["min_ilvl"] WebForm.minItemLevel,
    .integer ["max_ilvl"] WebForm.maxItemLevel,
    .integer ["min_socket_number"] WebForm.minSocketCount,
    .integer ["max_socket_number"] WebForm.maxSocketCount,
    .integer ["min_link_number"] WebForm.minLinkCount,
    .integer ["max_link_number"] WebForm.maxLinkCount,
    .integer ["str_socket"] WebForm.strSockets,
    .integer ["dex_socket"] WebForm.dexSockets,
    .integer ["int_socket"] WebForm.intSockets,
    .integer ["other_socket"] WebForm.otherSockets,
    .integer ["min_requirements_int"] WebForm.minIntelligence,
    .integer ["max_requirements_int"] WebForm.maxIntelligence,
    .integer ["min_requirements_dex"] WebForm.minDexterity,
    .integer ["max_requirements_dex"] WebForm.maxDexterity,
    .integer ["min_requirements_str"] WebForm.minStrength,
    .integer ["max_requirements_str"] WebForm.maxStrength,
    .integer ["min_requirements_lvl"] WebForm.minLevel,
    .integer ["max_requirements_lvl"] WebForm.maxLevel,
    .double ["min_physical_damage"] WebForm.minPhysicalDamage,
    .double ["max_physical_damage"] WebForm.maxPhysicalDamage,
    .double ["min_elemental_damage"] WebForm.minElementalDamage,
    .double ["max_elemental_damage"] WebForm.maxElementalDamage,
    .double ["min_critical_strike_chance"] WebForm.minCriticalStrikeChance,
    .double ["max_critical_strike_chance"] WebForm.maxCriticalStrikeChance,
    .double ["min_attacks_per_second"] WebForm.minAttacksPerSecond,
    .double ["max_attacks_per_second"] WebForm.maxAttacksPerSecond,
    .double ["min_armour"] WebForm.minArmour,
    .double ["max_armour"] WebForm.maxArmour,
    .double ["min_evasion"] WebForm.minEvasion,
    .double ["max_evasion"] WebForm.maxEvasion,
    .double ["min_shield"] WebForm.minEnergyShield,
    .double ["max_shield"] WebForm.maxEnergyShield,
    .double ["min_block"] WebForm.minBlock,
    .double ["max_block"] WebForm.maxBlock,
    .double ["min_quality"] WebForm.minQuality,
    .double ["max_quality"] WebForm.maxQuality,
    .of ["Mods_content"] (IsList ModifierRow.grammar.Reads) WebForm.rows []]
  Ignores v := v.isSound 126 = true
  Length _ := False

def components : List (Component WebForm) :=
  let text := option_decodes string_decodes
  let flag := option_decodes bool_decodes
  let integer := option_decodes int64_decodes
  let double := option_decodes float_decodes
  let rows := list_decodes ModifierRow.describes.decodes
  [⟨Fields.name, _, WebForm.name, text, by decide⟩,
    ⟨Fields.category, _, WebForm.category, text, by decide⟩,
    ⟨Fields.typeLine, _, WebForm.typeLine, text, by decide⟩,
    ⟨Fields.league, _, WebForm.league, text, by decide⟩,
    ⟨Fields.currencyName, _, WebForm.currencyName, text, by decide⟩,
    ⟨Fields.minPrice, _, WebForm.minPrice, double, by decide⟩,
    ⟨Fields.maxPrice, _, WebForm.maxPrice, double, by decide⟩,
    ⟨Fields.corrupted, _, WebForm.corrupted, flag, by decide⟩,
    ⟨Fields.verified, _, WebForm.verified, flag, by decide⟩,
    ⟨Fields.identified, _, WebForm.identified, flag, by decide⟩,
    ⟨Fields.supported, _, WebForm.supported, flag, by decide⟩,
    ⟨Fields.minItemLevel, _, WebForm.minItemLevel, integer, by decide⟩,
    ⟨Fields.maxItemLevel, _, WebForm.maxItemLevel, integer, by decide⟩,
    ⟨Fields.minSocketCount, _, WebForm.minSocketCount, integer, by decide⟩,
    ⟨Fields.maxSocketCount, _, WebForm.maxSocketCount, integer, by decide⟩,
    ⟨Fields.minLinkCount, _, WebForm.minLinkCount, integer, by decide⟩,
    ⟨Fields.maxLinkCount, _, WebForm.maxLinkCount, integer, by decide⟩,
    ⟨Fields.strSockets, _, WebForm.strSockets, integer, by decide⟩,
    ⟨Fields.dexSockets, _, WebForm.dexSockets, integer, by decide⟩,
    ⟨Fields.intSockets, _, WebForm.intSockets, integer, by decide⟩,
    ⟨Fields.otherSockets, _, WebForm.otherSockets, integer, by decide⟩,
    ⟨Fields.minIntelligence, _, WebForm.minIntelligence, integer, by decide⟩,
    ⟨Fields.maxIntelligence, _, WebForm.maxIntelligence, integer, by decide⟩,
    ⟨Fields.minDexterity, _, WebForm.minDexterity, integer, by decide⟩,
    ⟨Fields.maxDexterity, _, WebForm.maxDexterity, integer, by decide⟩,
    ⟨Fields.minStrength, _, WebForm.minStrength, integer, by decide⟩,
    ⟨Fields.maxStrength, _, WebForm.maxStrength, integer, by decide⟩,
    ⟨Fields.minLevel, _, WebForm.minLevel, integer, by decide⟩,
    ⟨Fields.maxLevel, _, WebForm.maxLevel, integer, by decide⟩,
    ⟨Fields.minPhysicalDamage, _, WebForm.minPhysicalDamage, double, by decide⟩,
    ⟨Fields.maxPhysicalDamage, _, WebForm.maxPhysicalDamage, double, by decide⟩,
    ⟨Fields.minElementalDamage, _, WebForm.minElementalDamage, double, by decide⟩,
    ⟨Fields.maxElementalDamage, _, WebForm.maxElementalDamage, double, by decide⟩,
    ⟨Fields.minCriticalStrikeChance, _, WebForm.minCriticalStrikeChance, double, by decide⟩,
    ⟨Fields.maxCriticalStrikeChance, _, WebForm.maxCriticalStrikeChance, double, by decide⟩,
    ⟨Fields.minAttacksPerSecond, _, WebForm.minAttacksPerSecond, double, by decide⟩,
    ⟨Fields.maxAttacksPerSecond, _, WebForm.maxAttacksPerSecond, double, by decide⟩,
    ⟨Fields.minArmour, _, WebForm.minArmour, double, by decide⟩,
    ⟨Fields.maxArmour, _, WebForm.maxArmour, double, by decide⟩,
    ⟨Fields.minEvasion, _, WebForm.minEvasion, double, by decide⟩,
    ⟨Fields.maxEvasion, _, WebForm.maxEvasion, double, by decide⟩,
    ⟨Fields.minEnergyShield, _, WebForm.minEnergyShield, double, by decide⟩,
    ⟨Fields.maxEnergyShield, _, WebForm.maxEnergyShield, double, by decide⟩,
    ⟨Fields.minBlock, _, WebForm.minBlock, double, by decide⟩,
    ⟨Fields.maxBlock, _, WebForm.maxBlock, double, by decide⟩,
    ⟨Fields.minQuality, _, WebForm.minQuality, double, by decide⟩,
    ⟨Fields.maxQuality, _, WebForm.maxQuality, double, by decide⟩,
    ⟨Fields.rows, _, WebForm.rows, rows, by decide⟩]

theorem matches_rule : grammar.Matches rule components where
  fields := rfl
  slots := rfl
  names := by decide +kernel
  ignores k v := by
    show (if v.isSound 126 then .ok () else .error ReadError.notJson) = Except.ok () ↔ v.isSound 126 = true
    cases v.isSound 126 <;> simp
  length n := by
    show False ↔ false = true ∧ _
    simp

/-- Whatever the widget is read as, there is a form with it, if each of the form's own fields can be read. -/
theorem exists_stores {es : Entries} (w : ModifierRow) (hes : ∀ c ∈ components, c.Readable es) :
    ∃ f : WebForm, f.modifier = w ∧ ∀ c ∈ components, c.Stores es f := by
  simp only [components, List.forall_mem_cons] at hes ⊢
  -- one part for each field, in the order of the table
  obtain ⟨⟨a1, h1⟩, ⟨a2, h2⟩, ⟨a3, h3⟩, ⟨a4, h4⟩, ⟨a5, h5⟩, ⟨a6, h6⟩, ⟨a7, h7⟩, ⟨a8, h8⟩, ⟨a9, h9⟩,
      ⟨a10, h10⟩, ⟨a11, h11⟩, ⟨a12, h12⟩, ⟨a13, h13⟩, ⟨a14, h14⟩, ⟨a15, h15⟩, ⟨a16, h16⟩, ⟨a17, h17⟩,
      ⟨a18, h18⟩, ⟨a19, h19⟩, ⟨a20, h20⟩, ⟨a21, h21⟩, ⟨a22, h22⟩, ⟨a23, h23⟩, ⟨a24, h24⟩, ⟨a25, h25⟩,
      ⟨a26, h26⟩, ⟨a27, h27⟩, ⟨a28, h28⟩, ⟨a29, h29⟩, ⟨a30, h30⟩, ⟨a31, h31⟩, ⟨a32, h32⟩, ⟨a33, h33⟩,
      ⟨a34, h34⟩, ⟨a35, h35⟩, ⟨a36, h36⟩, ⟨a37, h37⟩, ⟨a38, h38⟩, ⟨a39, h39⟩, ⟨a40, h40⟩, ⟨a41, h41⟩,
      ⟨a42, h42⟩, ⟨a43, h43⟩, ⟨a44, h44⟩, ⟨a45, h45⟩, ⟨a46, h46⟩, ⟨a47, h47⟩, ⟨a48, h48⟩, _⟩ := hes
  refine ⟨⟨a1, a2, a3, a4, a5, a6, a7, a8, a9, a10, a11, a12, a13, a14, a15, a16, a17, a18, a19, a20, a21,
      a22, a23, a24, a25, a26, a27, a28, a29, a30, a31, a32, a33, a34, a35, a36, a37, a38, a39, a40, a41, a42,
      a43, a44, a45, a46, a47, w, a48⟩, rfl, ?_⟩
  exact ⟨h1, h2, h3, h4, h5, h6, h7, h8, h9, h10, h11, h12, h13, h14, h15, h16, h17, h18, h19, h20, h21, h22,
      h23, h24, h25, h26, h27, h28, h29, h30, h31, h32, h33, h34, h35, h36, h37, h38, h39, h40, h41, h42, h43,
      h44, h45, h46, h47, h48, List.forall_mem_nil _⟩

theorem read_of_stores {n : Node} {es : Entries} {f : WebForm} (hes : rule.entries n = .ok es)
    (hwidget : ModifierRow.read n = .ok f.modifier) (hstores : ∀ c ∈ components, c.Stores es f) :
    read n = .ok f := by
  simp only [components, List.forall_mem_cons, Component.Stores] at hstores
  simp only [read, hes, hwidget, ok_bind, hstores]
  rfl

/-- **A form is read by both grammars**, its own and that of the widget. -/
theorem read_iff (n : Node) (f : WebForm) :
    read n = .ok f ↔ grammar.Reads n f ∧ ModifierRow.grammar.Reads n f.modifier := by
  rw [← ModifierRow.describes.decodes n f.modifier]
  constructor
  · intro hf
    obtain ⟨es, hes, hrest⟩ := bind_eq_ok_iff.mp hf
    obtain ⟨w, hw, _⟩ := bind_eq_ok_iff.mp hrest
    obtain ⟨hreadable, hdenotes⟩ := matches_rule.stores_iff_denotes hes
    -- the form that can be made of the parts is read too, and it is the only one
    obtain ⟨f', rfl, hstores⟩ := exists_stores w hreadable
    obtain rfl := Except.ok.inj (hf.symm.trans (read_of_stores hes hw hstores))
    exact ⟨⟨(matches_rule.exists_entries_iff n).mp ⟨es, hes⟩, (hdenotes f).mp hstores⟩, hw⟩
  · rintro ⟨⟨haccepts, hdenotes⟩, hw⟩
    obtain ⟨es, hes⟩ := (matches_rule.exists_entries_iff n).mpr haccepts
    exact read_of_stores hes hw (((matches_rule.stores_iff_denotes hes).2 f).mpr hdenotes)

/-! ## Members that neither pass wants -/

/-- The keys of the form, its own and those of the widget. -/
def keys : List String :=
  grammar.slots.flatMap Slot.names ++ ModifierRow.grammar.slots.flatMap Slot.names

/-- The member has a key of the form. -/
def isKnown (m : Member) : Bool := m.1.any keys.contains

theorem isKnown_of_named {ρ : Type} {g : Grammar ρ} (hkeys : g.slots.flatMap Slot.names ⊆ keys) {s : Slot ρ}
    (hs : s ∈ g.slots) {m : Member} (h : s.Named m) : isKnown m = true := by
  obtain ⟨k, hk, hkey⟩ := h
  have hmem : k ∈ keys := hkeys (List.mem_flatMap.mpr ⟨s, hs, hk⟩)
  rw [isKnown, hkey, Option.any_some]
  exact List.contains_iff_mem.mpr hmem

/-- A grammar whose keys are all known looks at the known members, and passes over the others. -/
theorem reads_known_iff {ρ : Type} {g : Grammar ρ} (hkeys : g.slots.flatMap Slot.names ⊆ keys) (ms : List Member)
    (x : ρ) :
    g.Reads (.object ms true) x ↔ g.Reads (.object (ms.filter isKnown) true) x ∧
      ∀ m ∈ ms, isKnown m = false → m.1.isSome = true ∧ g.Ignores m.2 := by
  have hperm : (ms.filter isKnown ++ ms.filter fun m => !isKnown m).Perm ms := List.filter_append_perm isKnown ms
  have hother : ∀ m ∈ ms.filter (fun m => !isKnown m), ∀ s ∈ g.slots, ¬ s.Named m := by
    intro m hm s hs hnamed
    have hunknown := (List.mem_filter.mp hm).2
    rw [isKnown_of_named hkeys hs hnamed] at hunknown
    exact nomatch hunknown
  rw [← g.reads_perm_iff hperm, Grammar.reads_append_iff hother]
  simp only [List.mem_filter, Bool.not_eq_true', and_imp]

/-- **Members that neither pass wants** only have to be such as the first pass can keep. -/
theorem read_known_iff (ms : List Member) (f : WebForm) :
    read (.object ms true) = .ok f ↔ read (.object (ms.filter isKnown) true) = .ok f ∧
      ∀ m ∈ ms, isKnown m = false → m.1.isSome = true ∧ m.2.isSound 126 = true := by
  have hown := reads_known_iff (g := grammar) (List.subset_append_left _ _) ms f
  have hwidget := reads_known_iff (g := ModifierRow.grammar) (List.subset_append_right _ _) ms f.modifier
  rw [read_iff, read_iff, hown, hwidget]
  constructor
  · rintro ⟨⟨hf, hkept⟩, hw, _⟩
    exact ⟨⟨hf, hw⟩, hkept⟩
  · rintro ⟨⟨hf, hw⟩, hkept⟩
    refine ⟨⟨hf, hkept⟩, hw, fun m hm hunknown => ?_⟩
    obtain ⟨htext, hsound⟩ := hkept m hm hunknown
    exact ⟨htext, isWhole_of_isSound 126 m.2 hsound⟩

/-- **The order of the members does not matter** to either pass. -/
theorem read_perm {ms ms' : List Member} (h : ms.Perm ms') (f : WebForm) :
    read (.object ms true) = .ok f ↔ read (.object ms' true) = .ok f := by
  rw [read_iff, read_iff, grammar.reads_perm_iff h, ModifierRow.grammar.reads_perm_iff h]

/-- **A key of the form that is given twice** is never accepted, wherever it stands. -/
theorem read_ne_ok_of_twice {k : String} (hk : k ∈ keys) (a b c : List Member) (v w : Node) (closed : Bool)
    (f : WebForm) : read (.object (a ++ (some k, v) :: b ++ (some k, w) :: c) closed) ≠ .ok f := by
  intro hf
  obtain ⟨⟨hown, _⟩, hwidget, _⟩ := (read_iff _ f).mp hf
  rw [keys, List.mem_append, List.mem_flatMap, List.mem_flatMap] at hk
  rcases hk with ⟨s, hs, hk⟩ | ⟨s, hs, hk⟩
  · exact Grammar.not_accepts_of_twice hs ⟨k, hk, rfl⟩ ⟨k, hk, rfl⟩ a b c closed hown
  · exact Grammar.not_accepts_of_twice hs ⟨k, hk, rfl⟩ ⟨k, hk, rfl⟩ a b c closed hwidget

/-! ## What a form is written as -/

/-- All bounds on doubles, those of the widget and the rows included. -/
def floatBounds (f : WebForm) : List (Bounds Float) :=
  [⟨f.minPrice, f.maxPrice⟩, ⟨f.minPhysicalDamage, f.maxPhysicalDamage⟩,
    ⟨f.minElementalDamage, f.maxElementalDamage⟩, ⟨f.minCriticalStrikeChance, f.maxCriticalStrikeChance⟩,
    ⟨f.minAttacksPerSecond, f.maxAttacksPerSecond⟩, ⟨f.minArmour, f.maxArmour⟩, ⟨f.minEvasion, f.maxEvasion⟩,
    ⟨f.minEnergyShield, f.maxEnergyShield⟩, ⟨f.minBlock, f.maxBlock⟩, ⟨f.minQuality, f.maxQuality⟩] ++
    f.rows.map ModifierRow.bounds ++ [f.modifier.bounds]

/-- All doubles in a form. -/
def doubles (f : WebForm) : List Float := f.floatBounds.flatMap Bounds.toList

theorem forall_doubles_iff (f : WebForm) (P : Float → Prop) :
    (∀ y ∈ f.doubles, P y) ↔ ∀ b ∈ f.floatBounds, ∀ y ∈ b.toList, P y := List.forall_mem_flatMap

/-- **A form is written with its own fields around those of the widget**, each once. -/
theorem toJson_split (f : WebForm) :
    ∃ before after, f.toJson = .object (before ++ f.modifier.members ++ after) ∧
      List.Forall₂ Slot.Named grammar.slots (memberNodes (before ++ after)) ∧
      (List.Forall₂ (fun s m => s.Reads f m) grammar.slots (memberNodes (before ++ after)) ∧
        (∀ y ∈ f.modifier.bounds.toList, Rereads y) ↔ ∀ y ∈ f.doubles, Rereads y) := by
  refine ⟨_, _, rfl, ?_, ?_⟩
  · simp [memberNodes, grammar, Slot.Named, Slot.text, Slot.flag, Slot.integer, Slot.double, Slot.of]
  · rw [forall_doubles_iff, floatBounds, List.forall_mem_append, List.forall_mem_append, List.forall_mem_map]
    simp [memberNodes, grammar, Bounds.forall_toList_iff, Slot.reads_of_iff, Slot.text, Slot.flag,
      Slot.integer, Slot.double, isOption_string, isOption_bool, isOption_int, isOption_float_iff, isList_map_iff,
      ModifierRow.reads_toJson_iff, and_assoc]

/-- The widget's members can be kept by the first pass, if their doubles are read as themselves. -/
theorem isSound_members {r : ModifierRow} (h : ∀ y ∈ r.bounds.toList, Rereads y) :
    ∀ m ∈ memberNodes r.members, m.1.isSome = true ∧ m.2.isSound 126 = true := by
  have hdouble {o : Option Float} (ho : ∀ y ∈ o, Rereads y) : (optionFloat o).node.isSound 126 = true := by
    cases o with
    | none => rfl
    | some y => exact ((rereads_iff y).mp (ho y rfl)).isSound 126
  obtain ⟨hlower, hupper⟩ := (r.bounds.forall_toList_iff _).mp h
  have hname : (optionString r.name).node.isSound 126 = true := by
    cases r.name <;> rfl
  simp only [memberNodes, ModifierRow.members, List.forall_mem_cons]
  exact ⟨⟨rfl, hname⟩, ⟨rfl, hdouble hlower⟩, ⟨rfl, hdouble hupper⟩, nofun⟩

/-- What is read from the text of a form is the form, exactly if each of its doubles is read as itself. -/
theorem ofText_toJson_iff (f : WebForm) :
    ofText f.toJson.compact = .ok f ↔ ∀ y ∈ f.doubles, Rereads y := by
  obtain ⟨before, after, hjson, hfull, hdoubles⟩ := f.toJson_split
  have hapart : ∀ k ∈ grammar.slots.flatMap Slot.names, k ∉ ModifierRow.grammar.slots.flatMap Slot.names := by
    decide +kernel
  -- the first pass finds the form's own fields and keeps the widget's
  have hperm : (memberNodes (before ++ f.modifier.members ++ after)).Perm
      (memberNodes (before ++ after) ++ memberNodes f.modifier.members) := by
    simp only [memberNodes_eq_map, List.map_append, List.append_assoc]
    exact (List.perm_append_comm).append_left _
  have hown := (grammar.reads_perm_iff hperm true f).trans (Grammar.reads_append_iff
    (Grammar.not_named_of_disjoint (fun k hk hk' => hapart k hk' hk) f.modifier.named_members) true f)
  -- the second finds the widget's, and skips the others
  have hwidget := (ModifierRow.grammar.reads_perm_iff (hperm.trans List.perm_append_comm) true f.modifier).trans
    (Grammar.reads_append_iff (Grammar.not_named_of_disjoint hapart hfull) true f.modifier)
  rw [Grammar.reads_iff_of_full matches_rule.disjoint_names hfull] at hown
  rw [ModifierRow.reads_members_iff] at hwidget
  rw [ofText, decodeText_compact, hjson, node, read_iff, hown, hwidget, ← hdoubles]
  constructor
  · rintro ⟨⟨hfields, _⟩, hrow, _⟩
    exact ⟨hfields, hrow⟩
  · rintro ⟨hfields, hrow⟩
    exact ⟨⟨hfields, isSound_members hrow⟩, hrow, forall_mem_memberNodes _⟩

/-! ## Both together -/

/-- A form with doubles in its own fields and in the widget, and a row. -/
def sample : WebForm where
  name := some "Ring"
  minPrice := some 5.5
  modifier := ⟨some "Life", some (-0.0), none⟩
  rows := [{ name := some "Mana" }]

/-- The name of an item and that of a modifier, as members of an object. -/
def ringMembers : List Member :=
  [(some "mods_name", .string (some "Life")), (some "name", .string (some "Ring"))]

/-- The same in another order, with a member between them that neither pass wants. -/
def ringMembers' : List Member :=
  [(some "name", .string (some "Ring")), (some "zzz", .array [] true), (some "mods_name", .string (some "Life"))]

end WebForm

end ItemQuery
