import ItemQuery.Command.Setup
import ItemQuery.Proofs.Content
import ItemQuery.Proofs.Json.Values
import Mathlib

/-!
# `Proofs.Configuration.Agreement` — two readers of one configuration file

The sections of a compiler's configuration are read in two places: by themselves, and as a part of the file that the
commands use, which has a section with connection settings too. The two readers take the sections for the same, save
in one case. A record may be given as an array of its fields in order. The reader of the configuration alone lets
items behind the last field pass; in the file of the commands the sections are collected first and read after that,
and there such items are refused (`SurplusOptions`). Everything else is the same: what is accepted, the defaults, the
order of the entries, and that every fault is one of the configuration.

## Contents
- `SurplusOptions`, `Options.ofContent?_of_fits`, `Options.ofContent?_of_surplus`, `pairsOfContent?_content`: one section
  that was kept.
- `Configuration.ofKept?_eq_some_iff`: both sections among others.
- `Configuration.ofToml_eq_ok_iff`, `Setup.ofToml_eq_ok_iff`: the two readers, step by step.
- `Setup.ofToml_agrees`: how they agree, and `Setup.ofToml_of_surplus_option`, where they do not.
-/

namespace ItemQuery

open Assoc (field?)
open Command (CommandFault Setup)
open Json (bind_eq_ok_iff)
open Store (Settings)
open Toml (Entries TextFault Value decodeText parse?)

variable {α : Type} {entries entries' : Entries} {text other name : String}

/-! ## Texts -/

namespace Toml

theorem decodeText_eq_ok_iff {d : Entries → Option α} {a : α} :
    decodeText d text = .ok a ↔ ∃ entries, parse? text = some entries ∧ d entries = some a := by
  unfold decodeText
  cases parse? text with
  | none => simp
  | some entries => cases h : d entries <;> simp [h]

theorem decodeText_congr {d : Entries → Option α} (htext : parse? text = some entries)
    (hother : parse? other = some entries') (h : d entries = d entries') : decodeText d text = decodeText d other := by
  unfold decodeText
  rw [htext, hother]
  simp only [h]

end Toml

/-! ## Sections that were kept -/

/-- The section `compiler` is an array with items that belong to no option. -/
def SurplusOptions (entries : Entries) : Prop :=
  ∃ v, entries.lookup "compiler" = some v ∧ v.HasSurplus Options.fieldNames

/-- **Options that were kept** are read as those of the value, if it has no surplus items. -/
theorem Options.ofContent?_of_fits {v : Value} (h : ¬ v.HasSurplus fieldNames) :
    ofContent? v.content = ofValue? v := by
  unfold ofContent? ofValue?
  rw [Toml.record?_content_of_fits h]
  cases v.record? fieldNames with
  | none => rfl
  | some entries =>
      have hstrict := Toml.field?_kept (Toml.lookup_entryContents entries "strict_ranges")
        (fun v _ => Toml.bool?_content v) ({} : Options).strictRanges
      have hlimit := Toml.field?_kept (Toml.lookup_entryContents entries "max_attribute_name_len")
        (fun v _ => Toml.natural?_content 64 v) ({} : Options).nameLimit
      simp only [Option.map_some, Option.bind_eq_bind, Option.bind_some, hstrict, hlimit]

theorem Options.ofContent?_of_surplus {v : Value} (h : v.HasSurplus fieldNames) : ofContent? v.content = none := by
  unfold ofContent?
  rw [Toml.record?_content_of_surplus h]
  rfl

/-- **Pairs that were kept** are read as those of the value. -/
theorem pairsOfContent?_content (v : Value) : pairsOfContent? v.content = pairsOfValue? v := by
  unfold pairsOfContent? pairsOfValue?
  rw [Toml.entries?_content]
  cases v.entries? with
  | none => rfl
  | some entries =>
      simp only [Option.map_some, Option.bind_eq_bind, Option.bind_some]
      induction entries with
      | nil => rfl
      | cons e entries ih =>
          obtain ⟨name, code⟩ := e
          rw [Toml.entryContents, List.mapM_cons, List.mapM_cons, ih, Toml.string?_content]

/-- A record is put together from two parts if both are there. -/
theorem bind_two_eq_some_iff {β γ δ : Type} (make : β → γ → δ) (first : δ → β) (second : δ → γ)
    (hfirst : ∀ b c, first (make b c) = b) (hsecond : ∀ b c, second (make b c) = c)
    (hmake : ∀ d, make (first d) (second d) = d) {x : Option β} {y : Option γ} {d : δ} :
    (do return make (← x) (← y)) = some d ↔ x = some (first d) ∧ y = some (second d) := by
  constructor
  · intro h
    obtain ⟨b, hb, h⟩ := Option.bind_eq_some_iff.mp h
    obtain ⟨c, hc, h⟩ := Option.bind_eq_some_iff.mp h
    rw [← Option.some.inj h, hfirst, hsecond]
    exact ⟨hb, hc⟩
  · rintro ⟨hx, hy⟩
    rw [hx, hy, ← hmake d, hfirst, hsecond]
    rfl

/-- **What was kept** under a name, if it is not the one of the connection settings. -/
theorem Command.Setup.lookup_keptSections (entries : Entries) (hname : name ≠ settingsSection) :
    (keptSections entries).lookup name = (entries.lookup name).map Value.content := by
  have hkept := Assoc.lookup_filter_key (p := fun k => k ≠ settingsSection) (decide_eq_true hname) entries
  rw [keptSections, Toml.lookup_entryContents, hkept]

namespace Configuration

theorem ofEntries?_eq_some_iff {c : Configuration} :
    ofEntries? entries = some c ↔
      field? entries "compiler" Options.ofValue? {} = some c.options ∧
        field? entries "currencies" pairsOfValue? [] = some c.currencies :=
  bind_two_eq_some_iff mk options currencies (fun _ _ => rfl) (fun _ _ => rfl) fun _ => rfl

/-- The sections of others do not matter to a configuration that is read from kept ones. -/
theorem ofKept?_eq (kept : List (String × Content)) :
    ofKept? kept = do
      return ⟨← field? kept "compiler" Options.ofContent? {}, ← field? kept "currencies" pairsOfContent? []⟩ := by
  have hcompiler := Assoc.lookup_filter_key (p := sectionNames.contains) (k := "compiler") (by decide) kept
  have hcurrencies := Assoc.lookup_filter_key (p := sectionNames.contains) (k := "currencies") (by decide) kept
  unfold ofKept?
  dsimp only
  rw [Assoc.field?_congr hcompiler, Assoc.field?_congr hcurrencies]

/-- **The kept sections are read as the configuration is read alone**, save that options with surplus items are
    refused. -/
theorem ofKept?_eq_some_iff {c : Configuration} :
    ofKept? (Setup.keptSections entries) = some c ↔ ofEntries? entries = some c ∧ ¬ SurplusOptions entries := by
  have hcurrencies : field? (Setup.keptSections entries) "currencies" pairsOfContent? [] =
      field? entries "currencies" pairsOfValue? [] :=
    Toml.field?_kept (Setup.lookup_keptSections entries (by decide)) (fun v _ => pairsOfContent?_content v) []
  have hcompiler : (Setup.keptSections entries).lookup "compiler" = (entries.lookup "compiler").map Value.content :=
    Setup.lookup_keptSections entries (by decide)
  rw [ofKept?_eq, ofEntries?_eq_some_iff, hcurrencies,
    bind_two_eq_some_iff mk options currencies (fun _ _ => rfl) (fun _ _ => rfl) fun _ => rfl]
  by_cases h : SurplusOptions entries
  · have hnone : field? (Setup.keptSections entries) "compiler" Options.ofContent? {} = none := by
      obtain ⟨v, hv, hsurplus⟩ := h
      rw [field?, hcompiler, hv]
      exact Options.ofContent?_of_surplus hsurplus
    simp [hnone, h]
  · have hoptions := Toml.field?_kept hcompiler
      (fun v hv => Options.ofContent?_of_fits fun hsurplus => h ⟨v, hv, hsurplus⟩) ({} : Options)
    simp [hoptions, h]

theorem ofToml_of_read {c : Configuration} (h : decodeText ofEntries? text = .ok c) :
    ofToml text = c.validate >>= fun _ => .ok c := by
  unfold ofToml
  rw [h]
  rfl

theorem ofToml_of_fault {fault : TextFault} (h : decodeText ofEntries? text = .error fault) :
    ofToml text = .error (.config ("failed to parse TOML: " ++ fault.message)) := by
  unfold ofToml
  rw [h]

/-- Only the two sections matter. -/
theorem ofToml_congr (htext : parse? text = some entries) (hother : parse? other = some entries')
    (h : ∀ name ∈ ["compiler", "currencies"], entries.lookup name = entries'.lookup name) :
    ofToml text = ofToml other := by
  have hread : ofEntries? entries = ofEntries? entries' := by
    unfold ofEntries?
    dsimp only
    rw [Assoc.field?_congr (h "compiler" (by decide)), Assoc.field?_congr (h "currencies" (by decide))]
  unfold ofToml
  rw [Toml.decodeText_congr htext hother hread]

/-- **The configuration alone** is read, and then it has to be valid. -/
theorem ofToml_eq_ok_iff {c : Configuration} :
    ofToml text = .ok c ↔ decodeText ofEntries? text = .ok c ∧ c.validate = .ok () := by
  cases hread : decodeText ofEntries? text with
  | error fault =>
      rw [ofToml_of_fault hread]
      simp
  | ok c' =>
      rw [ofToml_of_read hread, bind_eq_ok_iff]
      constructor
      · rintro ⟨_, hvalid, h⟩
        obtain rfl := Except.ok.inj h
        exact ⟨rfl, hvalid⟩
      · rintro ⟨h, hvalid⟩
        obtain rfl := Except.ok.inj h
        exact ⟨(), hvalid, rfl⟩

theorem validate_cases (c : Configuration) :
    c.validate = .ok () ∨ ∃ message, c.validate = .error (.config message) := by
  unfold validate
  split
  · exact .inr ⟨_, rfl⟩
  split
  · exact .inr ⟨_, rfl⟩
  · exact .inl rfl

/-- Every fault of a configuration is told to be one. -/
theorem ofToml_cases (text : String) :
    (∃ c, ofToml text = .ok c) ∨ ∃ message, ofToml text = .error (.config message) := by
  cases hread : decodeText ofEntries? text with
  | error fault => exact .inr ⟨_, ofToml_of_fault hread⟩
  | ok c =>
      rw [ofToml_of_read hread]
      rcases c.validate_cases with hvalid | ⟨message, hvalid⟩
      · exact .inl ⟨c, by rw [hvalid]; rfl⟩
      · exact .inr ⟨message, by rw [hvalid]; rfl⟩

end Configuration

/-! ## The file of the commands -/

/-- The connection settings of a text: what its section `mongodb` is read as, and the default ones without it. -/
def settingsOf (text : String) : Except TextFault Settings :=
  decodeText (fun entries => field? entries "mongodb" Settings.ofValue? {}) text

namespace Command.Setup

theorem ofEntries?_eq_some_iff {s : Setup} :
    ofEntries? entries = some s ↔ Configuration.ofKept? (keptSections entries) = some s.configuration ∧
      field? entries "mongodb" Settings.ofValue? {} = some s.settings :=
  (bind_two_eq_some_iff (fun settings configuration => mk configuration settings) settings configuration
    (fun _ _ => rfl) (fun _ _ => rfl) fun _ => rfl).trans and_comm

theorem ofToml_of_read {s : Setup} (h : decodeText ofEntries? text = .ok s) :
    ofToml text = s.configuration.validate.mapError CommandFault.ofFault >>= fun _ =>
      s.settings.validate.mapError CommandFault.ofStoreFault >>= fun _ => .ok s := by
  unfold ofToml
  rw [h]
  rfl

theorem ofToml_of_fault {fault : TextFault} (h : decodeText ofEntries? text = .error fault) :
    ofToml text = .error (.config ("Failed to parse TOML: " ++ fault.message)) := by
  unfold ofToml
  rw [h]
  rfl

theorem mapError_eq_ok_iff {ε δ : Type} {f : ε → δ} {e : Except ε α} {a : α} : e.mapError f = .ok a ↔ e = .ok a := by
  cases e <;> simp [Except.mapError]

/-- **The file of the commands** is read, and then both parts have to be valid. -/
theorem ofToml_eq_ok_iff {s : Setup} :
    ofToml text = .ok s ↔ decodeText ofEntries? text = .ok s ∧ s.configuration.validate = .ok () ∧
      s.settings.validate = .ok () := by
  cases hread : decodeText ofEntries? text with
  | error fault =>
      rw [ofToml_of_fault hread]
      simp
  | ok s' =>
      rw [ofToml_of_read hread, bind_eq_ok_iff]
      constructor
      · rintro ⟨_, hconfiguration, h⟩
        obtain ⟨_, hsettings, h⟩ := bind_eq_ok_iff.mp h
        obtain rfl := Except.ok.inj h
        exact ⟨rfl, mapError_eq_ok_iff.mp hconfiguration, mapError_eq_ok_iff.mp hsettings⟩
      · rintro ⟨h, hconfiguration, hsettings⟩
        obtain rfl := Except.ok.inj h
        refine ⟨(), mapError_eq_ok_iff.mpr hconfiguration, ?_⟩
        exact bind_eq_ok_iff.mpr ⟨(), mapError_eq_ok_iff.mpr hsettings, rfl⟩

theorem settings_validate_cases (s : Settings) :
    s.validate = .ok () ∨ ∃ message, s.validate = .error (.config message) := by
  unfold Settings.validate
  split
  · exact .inr ⟨_, rfl⟩
  split
  · exact .inr ⟨_, rfl⟩
  split
  · exact .inr ⟨_, rfl⟩
  · exact .inl rfl

/-- Every fault of the file is told to be one of the configuration. -/
theorem ofToml_cases (text : String) :
    (∃ s, ofToml text = .ok s) ∨ ∃ message, ofToml text = .error (.config message) := by
  cases hread : decodeText ofEntries? text with
  | error fault => exact .inr ⟨_, ofToml_of_fault hread⟩
  | ok s =>
      rw [ofToml_of_read hread]
      rcases s.configuration.validate_cases with hconfiguration | ⟨message, hconfiguration⟩
      · rcases settings_validate_cases s.settings with hsettings | ⟨message, hsettings⟩
        · exact .inl ⟨s, by rw [hconfiguration, hsettings]; rfl⟩
        · exact .inr ⟨message, by rw [hconfiguration, hsettings]; rfl⟩
      · exact .inr ⟨message, by rw [hconfiguration]; rfl⟩

/-- Only the three sections matter. -/
theorem ofToml_congr (htext : parse? text = some entries) (hother : parse? other = some entries')
    (h : ∀ name ∈ ["compiler", "currencies", "mongodb"], entries.lookup name = entries'.lookup name) :
    ofToml text = ofToml other := by
  have hread : ofEntries? entries = ofEntries? entries' := by
    have hkept (name : String) (hname : name ≠ settingsSection) (hlookup : entries.lookup name = entries'.lookup name) :
        (keptSections entries).lookup name = (keptSections entries').lookup name := by
      rw [lookup_keptSections _ hname, lookup_keptSections _ hname, hlookup]
    have hcompiler := hkept "compiler" (by decide) (h "compiler" (by decide))
    have hcurrencies := hkept "currencies" (by decide) (h "currencies" (by decide))
    have hsettings : entries.lookup settingsSection = entries'.lookup settingsSection := h "mongodb" (by decide)
    unfold ofEntries?
    dsimp only
    rw [Configuration.ofKept?_eq, Configuration.ofKept?_eq, Assoc.field?_congr hcompiler,
      Assoc.field?_congr hcurrencies, Assoc.field?_congr hsettings]
  unfold ofToml
  rw [Toml.decodeText_congr htext hother hread]

theorem ofToml_iff_configuration {s : Setup} :
    ofToml text = .ok s ↔
      Configuration.ofToml text = .ok s.configuration ∧
        (¬ ∃ entries, parse? text = some entries ∧ SurplusOptions entries) ∧
        settingsOf text = .ok s.settings ∧ s.settings.validate = .ok () := by
  rw [ofToml_eq_ok_iff, Configuration.ofToml_eq_ok_iff, settingsOf]
  simp only [Toml.decodeText_eq_ok_iff]
  cases parse? text with
  | none => simp
  | some entries =>
      simp only [Option.some.injEq, exists_eq_left', ofEntries?_eq_some_iff, Configuration.ofKept?_eq_some_iff]
      tauto

/-- **How the two readers agree.** The file of the commands is accepted exactly if the configuration alone is, its
    options are not an array with items that belong to no option, and the connection settings can be read and are
    valid; it then has this configuration and these settings. Every fault, of either reader, is one of the
    configuration. Of a text that can be read, either reader looks at its own sections only. -/
theorem ofToml_agrees (text : String) :
    (∀ s, ofToml text = .ok s ↔
      Configuration.ofToml text = .ok s.configuration ∧
        (¬ ∃ entries, parse? text = some entries ∧ SurplusOptions entries) ∧
        settingsOf text = .ok s.settings ∧ s.settings.validate = .ok ()) ∧
    ((∃ s, ofToml text = .ok s) ∨ ∃ message, ofToml text = .error (.config message)) ∧
    ((∃ c, Configuration.ofToml text = .ok c) ∨ ∃ message, Configuration.ofToml text = .error (.config message)) ∧
    ∀ other entries entries', parse? text = some entries → parse? other = some entries' →
      ((∀ name ∈ ["compiler", "currencies"], entries.lookup name = entries'.lookup name) →
        Configuration.ofToml text = Configuration.ofToml other) ∧
      ((∀ name ∈ ["compiler", "currencies", "mongodb"], entries.lookup name = entries'.lookup name) →
        ofToml text = ofToml other) :=
  ⟨fun _ => ofToml_iff_configuration, ofToml_cases text, Configuration.ofToml_cases text,
    fun _ _ _ htext hother => ⟨Configuration.ofToml_congr htext hother, ofToml_congr htext hother⟩⟩

/-- A section that no reader knows, beside one that both know, and the text without it. -/
theorem ofToml_of_other_section :
    Configuration.ofToml "compiler = [true, 5]\n[other]\n" = Configuration.ofToml "compiler = [true, 5]\n" ∧
      ofToml "compiler = [true, 5]\n[other]\n" = ofToml "compiler = [true, 5]\n" := by
  have htext : parse? "compiler = [true, 5]\n[other]\n" =
      some [("compiler", .array [.boolean true, .integer 5]), ("other", .table [])] := by cbv
  have hother : parse? "compiler = [true, 5]\n" = some [("compiler", .array [.boolean true, .integer 5])] := by cbv
  obtain ⟨hconfiguration, hsetup⟩ := (ofToml_agrees _).2.2.2 _ _ _ htext hother
  exact ⟨hconfiguration (by simp [List.lookup]), hsetup (by simp [List.lookup])⟩

/-- **Where the two readers do not agree**: with more items than there are options the configuration alone is
    accepted, and there are valid connection settings, but the file of the commands is refused. -/
theorem ofToml_of_surplus_option :
    Configuration.ofToml "compiler = [true, 5, \"x\", []]\n" = .ok { options := ⟨true, 5⟩ } ∧
      settingsOf "compiler = [true, 5, \"x\", []]\n" = .ok {} ∧ ({} : Settings).validate = .ok () ∧
      ∀ s, ofToml "compiler = [true, 5, \"x\", []]\n" ≠ .ok s := by
  have hrefused : ofToml "compiler = [true, 5, \"x\", []]\n" =
      .error (.config "Failed to parse TOML: a value has the wrong type") := by decide +kernel
  refine ⟨by decide +kernel, by decide +kernel, by decide +kernel, fun s h => ?_⟩
  rw [hrefused] at h
  exact nomatch h

end Command.Setup

end ItemQuery
