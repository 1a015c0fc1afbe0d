import ItemQuery.Proofs.Checks
import ItemQuery.Proofs.Configuration.Agreement
import ItemQuery.Proofs.Currency.Runs
import ItemQuery.Proofs.Toml.Distinct

/-!
# `Proofs.Configuration.Accepted` — what an accepted configuration promises

A deployment that gives a currency a blank code would not be told so by any search: the query would be made, and
would match nothing. So a configuration is checked before a compiler is built from it, and what the checks promise is
that no currency that the compiler knows has a blank name or a blank code. The promise has to survive the way from the
configured entries to the compiler's table, where they are laid over the built-in ones: an entry under a built-in name
replaces the code in its place, every other one is added behind.

That the entries of a configuration name no currency twice is not checked here. It is so because they come from a
table of a text, which names no key twice.

## Contents
- `Table.get?_extend_eq`, `Table.names_extend`: a table laid over another one.
- `Configuration.checks`, `Configuration.ofToml_eq_error_iff`: why a configuration is refused.
- `Configuration.nodup_currencies`, `Configuration.not_blank_of_mem`: the entries of an accepted one.
- `Compiler.code_of_currency_clause`: where the code in a price comes from.
- `Configuration.accepted_is_sound`: the whole.
-/

namespace ItemQuery

open Assoc (field?)
open Currency (Table builtinEntries lastCode)
open Text (isBlank isSpace)
open Toml (Entries Value decodeText)

/-! ## A table over another one -/

namespace Currency

theorem lastCode_append (writes more : List (String × String)) (name : String) :
    lastCode (writes ++ more) name = (lastCode more name).or (lastCode writes name) := by
  rw [lastCode, List.reverse_append, List.lookup_append]
  rfl

/-- Among distinct names the last write is the only one. -/
theorem lastCode_of_nodup {writes : List (String × String)} (h : (Assoc.keys writes).Nodup) (name : String) :
    lastCode writes name = writes.lookup name := by
  have hreverse : (Assoc.keys writes.reverse).Nodup := by
    rw [Assoc.keys, List.map_reverse, List.nodup_reverse]
    exact h
  apply Option.ext
  intro code
  rw [lastCode, Assoc.lookup_eq_some_iff hreverse, Assoc.lookup_eq_some_iff h, List.mem_reverse]

namespace Table

variable {t : Table} {pairs : List (String × String)}

/-- **The code of a name** is the one laid over the table, else the one of the table. -/
theorem get?_extend_eq (h : (Assoc.keys pairs).Nodup) (name : String) :
    (t.extend pairs).get? name = (pairs.lookup name).or (t.get? name) := by
  have hlists := lists_extend t.lists_entries pairs
  rw [hlists.codes, lastCode_append, lastCode_of_nodup h, lastCode_of_nodup t.distinct, get?]

theorem eraseDups_of_nodup {names : List String} (h : names.Nodup) : names.eraseDups = names := by
  induction names with
  | nil => rfl
  | cons name names ih =>
      obtain ⟨hname, hnames⟩ := List.nodup_cons.mp h
      have hfilter : names.filter (fun other => !other == name) = names := by
        rw [List.filter_eq_self]
        intro other hother
        have hne : other ≠ name := fun heq => hname (heq ▸ hother)
        simp [hne]
      rw [List.eraseDups_cons, hfilter, ih hnames]

/-- **The names** are those of the table in their places, and then the new ones in their order. -/
theorem names_extend (h : (Assoc.keys pairs).Nodup) :
    (t.extend pairs).names = t.names ++ (pairs.map Prod.fst).filter (· ∉ t.names) := by
  have hlists := lists_extend t.lists_entries pairs
  have hnew : ((pairs.map Prod.fst).filter (· ∉ t.names)).Nodup := List.Nodup.filter _ h
  have hremove : (pairs.map Prod.fst).removeAll t.names = (pairs.map Prod.fst).filter (· ∉ t.names) := by
    simp [List.removeAll]
  have hold : t.names.eraseDups = t.names := eraseDups_of_nodup t.distinct
  rw [hlists.names, List.map_append, List.eraseDups_append]
  show t.names.eraseDups ++ ((pairs.map Prod.fst).removeAll t.names).eraseDups = _
  rw [hremove, eraseDups_of_nodup hnew, hold]

/-- An entry of an extended table was there before, or is one of those laid over it. -/
theorem mem_entries_extend (h : (Assoc.keys pairs).Nodup) {e : String × String} (he : e ∈ (t.extend pairs).entries) :
    e ∈ pairs ∨ e ∈ t.entries := by
  rw [← get?_eq_some_iff, get?_extend_eq h, Option.or_eq_some_iff] at he
  rcases he with he | ⟨-, he⟩
  · exact .inl ((Assoc.lookup_eq_some_iff h _ _).mp he)
  · exact .inr ((t.get?_eq_some_iff _ _).mp he)

theorem entries_builtin : builtin.entries = builtinEntries := by decide

end Table

end Currency

/-! ## Why a configuration is refused -/

namespace Configuration

variable {text : String} {c : Configuration}

/-- The name or the code of an entry is blank. -/
def BlankEntry (entry : String × String) : Prop := isBlank entry.1 = true ∨ isBlank entry.2 = true

/-- **All that a configuration can be refused for**, in the order in which it is reported. -/
def checks (c : Configuration) : List (Fault → Prop) :=
  (fun e => c.options.nameLimit = 0 ∧ e = .config "compiler.max_attribute_name_len must be greater than zero") ::
    c.currencies.map fun entry e => BlankEntry entry ∧
      e = .config ("currency entry " ++ Text.quote entry.1 ++ " has an empty name or code")

theorem isBlankEntry_iff (entry : String × String) : isBlankEntry entry = true ↔ BlankEntry entry := by
  simp [isBlankEntry, BlankEntry]

/-- The first blank entry is the one that is found. -/
theorem firstFault_entries_iff {α : Type} {p : α → Bool} {P : α → Prop} (hp : ∀ a, p a = true ↔ P a)
    {report : α → Fault} {entries : List α} {fault : Fault} :
    FirstFault (entries.map fun a e => P a ∧ e = report a) fault ↔ (entries.find? p).map report = some fault := by
  induction entries with
  | nil => simp [not_firstFault_nil]
  | cons a entries ih =>
      rw [List.map_cons, firstFault_cons_iff, ih]
      by_cases ha : p a = true
      · have hP : P a := (hp a).mp ha
        rw [List.find?_cons_of_pos ha]
        simp [hP, eq_comm]
      · have hP : ¬ P a := fun h => ha ((hp a).mpr h)
        rw [List.find?_cons_of_neg ha]
        simp [hP]

/-- **The checks of a configuration** are made in their order. -/
theorem validate_eq_error_iff {fault : Fault} : c.validate = .error fault ↔ FirstFault c.checks fault := by
  unfold checks
  rw [firstFault_guard_iff, firstFault_entries_iff isBlankEntry_iff, validate]
  split
  · rw [Except.error.injEq, eq_comm]
  · cases hfind : c.currencies.find? isBlankEntry with
    | none => simp
    | some entry => simp

/-- **A text that is read** is refused for the first check that fails, and for nothing else. -/
theorem ofToml_eq_error_iff (hread : decodeText ofEntries? text = .ok c) {fault : Fault} :
    ofToml text = .error fault ↔ FirstFault c.checks fault := by
  rw [ofToml_of_read hread, ← validate_eq_error_iff]
  cases c.validate with
  | error e =>
      have herror : (Except.error e >>= fun _ : Unit => .ok c) = (Except.error e : Except Fault Configuration) := rfl
      rw [herror, Except.error.injEq, Except.error.injEq]
  | ok u =>
      constructor
      · exact fun h => nomatch h
      · exact fun h => nomatch h

/-! ## The entries of an accepted configuration -/

/-- Pairs that are read have the keys of the table that they are read from. -/
theorem keys_of_mapM {entries : Entries} {pairs : List (String × String)}
    (h : (entries.mapM fun (name, v) => do return (name, ← Toml.text? v) : Option (List (String × String))) = some pairs) :
    Assoc.keys pairs = Assoc.keys entries := by
  induction entries generalizing pairs with
  | nil =>
      rw [List.mapM_nil] at h
      rw [← Option.some.inj h]
      rfl
  | cons e entries ih =>
      rw [List.mapM_cons] at h
      obtain ⟨p, hp, h⟩ := Option.bind_eq_some_iff.mp h
      obtain ⟨ps, hps, h⟩ := Option.bind_eq_some_iff.mp h
      obtain ⟨s, -, hp⟩ := Option.bind_eq_some_iff.mp hp
      rw [← Option.some.inj h, ← Option.some.inj hp, Assoc.keys_cons, Assoc.keys_cons, ih hps]

theorem nodup_keys_of_pairs {v : Value} {pairs : List (String × String)} (hv : v.Distinct)
    (h : pairsOfValue? v = some pairs) : (Assoc.keys pairs).Nodup := by
  obtain ⟨entries, hentries, h⟩ := Option.bind_eq_some_iff.mp h
  rw [keys_of_mapM h]
  cases hv with
  | table hkeys _ =>
      obtain rfl := Option.some.inj hentries
      exact hkeys
  | dateTime d =>
      obtain rfl := Option.some.inj hentries
      exact List.nodup_singleton _
  | _ => exact nomatch hentries

/-- **No currency is configured twice.** -/
theorem nodup_currencies (hread : decodeText ofEntries? text = .ok c) : (Assoc.keys c.currencies).Nodup := by
  obtain ⟨entries, htext, hsections⟩ := Toml.decodeText_eq_ok_iff.mp hread
  obtain ⟨-, hcurrencies⟩ := ofEntries?_eq_some_iff.mp hsections
  obtain ⟨hkeys, hvalues⟩ := Toml.parse?_distinct htext
  unfold field? at hcurrencies
  cases hlookup : entries.lookup "currencies" with
  | none =>
      rw [hlookup] at hcurrencies
      rw [← Option.some.inj hcurrencies]
      exact List.nodup_nil
  | some v =>
      rw [hlookup] at hcurrencies
      have hmem : ("currencies", v) ∈ entries := (Assoc.lookup_eq_some_iff hkeys _ _).mp hlookup
      exact nodup_keys_of_pairs (hvalues _ hmem) hcurrencies

theorem builtin_not_blank : ∀ entry ∈ builtinEntries, ¬ BlankEntry entry := by
  simp only [← isBlankEntry_iff]
  decide +kernel

/-- A valid configuration passes every check. -/
theorem not_firstFault_of_valid (hvalid : c.validate = .ok ()) (fault : Fault) : ¬ FirstFault c.checks fault := by
  intro hfault
  rw [← validate_eq_error_iff, hvalid] at hfault
  exact nomatch hfault

theorem one_le_nameLimit (hvalid : c.validate = .ok ()) : 1 ≤ c.options.nameLimit := by
  by_contra hlimit
  have hzero : c.options.nameLimit = 0 := by omega
  exact not_firstFault_of_valid hvalid _ (.here ⟨hzero, rfl⟩)

/-- **No entry of a valid configuration's table** is blank, built-in or configured. -/
theorem not_blank_of_mem (hkeys : (Assoc.keys c.currencies).Nodup) (hvalid : c.validate = .ok ())
    {entry : String × String} (h : entry ∈ c.currencyTable.entries) : ¬ BlankEntry entry := by
  rcases Table.mem_entries_extend hkeys h with h | h
  · intro hblank
    have hfound : ∃ fault, FirstFault c.checks fault := by
      rw [exists_firstFault_iff]
      exact ⟨_, List.mem_cons_of_mem _ (List.mem_map_of_mem h), _, hblank, rfl⟩
    obtain ⟨fault, hfault⟩ := hfound
    exact not_firstFault_of_valid hvalid fault hfault
  · rw [Table.entries_builtin] at h
    exact builtin_not_blank entry h

end Configuration

/-! ## Codes in prices -/

namespace Compiler

/-- The path of the currency is neither in the schema of other criteria nor the path of a modifier. -/
theorem Emits.code {c : Compiler} {x : Criteria} {cl : Clause} (h : c.Emits x cl)
    (hpath : cl.path.text = "Price.Currency") :
    ∃ name code, (name, code) ∈ c.currencies.entries ∧ cl.condition = .equals (.text code) := by
  cases h with
  | @currency name code hname hcode => exact ⟨name, code, (c.currencies.get?_eq_some_iff name code).mp hcode, rfl⟩
  | price hname hprice =>
      have hne : "Price.Number" ≠ "Price.Currency" := by decide
      exact absurd hpath hne
  | @fixed path condition hrow =>
      rw [Criteria.fixedRows_eq_schema] at hrow
      obtain ⟨row, hrow, heq⟩ := List.mem_map.mp hrow
      have hne := (Criteria.price_not_mem_schema hrow).1
      rw [(Prod.mk.inj heq).1] at hne
      exact absurd hpath hne
  | @modifier m hm =>
      have hhead := congrArg (fun s => s.toList.head?) hpath
      simp [modifierPredicate, modifierSpace] at hhead

/-- **A clause on the currency** asks for the code of a listed entry. -/
theorem code_of_currency_clause {c : Compiler} {x : Criteria} {ps : List Predicate} (h : c.compile x = .ok ps)
    {p : Predicate} (hp : p ∈ ps) {cl : Clause} (hcl : cl ∈ p.clauses) (hpath : cl.path.text = "Price.Currency") :
    ∃ name code, (name, code) ∈ c.currencies.entries ∧ cl.condition = .equals (.text code) := by
  obtain ⟨-, rfl⟩ := (c.compile_eq_ok_iff x ps).mp h
  exact (emits_of_mem_clauses hp hcl).code hpath

end Compiler

theorem Text.exists_visible {s : String} (h : isBlank s ≠ true) : ∃ c ∈ s.toList, isSpace c = false := by
  simpa [isBlank] using h

/-! ## The whole -/

/-- **An accepted configuration is sound.** Names may have a character. The compiler's table gives a name the
    configured code, else the built-in one, else none; it lists the built-in names in their order and then the new
    ones in theirs, each once; and no name or code in it is blank. So whatever is compiled, a clause on the currency
    asks for a code in which there is something to see. Of a configuration that can be read, the first check that
    fails is reported, and it is accepted if none does. -/
theorem Configuration.accepted_is_sound (text : String) :
    (∀ c, ofToml text = .ok c →
      1 ≤ c.options.nameLimit ∧
      (c.currencies.map Prod.fst).Nodup ∧
      (∀ name, c.compiler.currencies.get? name = (c.currencies.lookup name).or (builtinEntries.lookup name)) ∧
      c.compiler.currencies.entries.map Prod.fst =
        builtinEntries.map Prod.fst ++ (c.currencies.map Prod.fst).filter (· ∉ builtinEntries.map Prod.fst) ∧
      (c.compiler.currencies.entries.map Prod.fst).Nodup ∧
      (∀ name code, (name, code) ∈ c.compiler.currencies.entries → isBlank name = false ∧ isBlank code = false) ∧
      ∀ x ps, c.compiler.compile x = .ok ps → ∀ p ∈ ps, ∀ cl ∈ p.clauses, cl.path.text = "Price.Currency" →
        ∃ code, cl.condition = .equals (.text code) ∧ ∃ ch ∈ code.toList, isSpace ch = false) ∧
    ∀ c, decodeText ofEntries? text = .ok c →
      (∀ fault, ofToml text = .error fault ↔ FirstFault c.checks fault) ∧
      ((∀ fault, ¬ FirstFault c.checks fault) → ofToml text = .ok c) := by
  constructor
  · intro c hc
    obtain ⟨hread, hvalid⟩ := ofToml_eq_ok_iff.mp hc
    have hkeys : (Assoc.keys c.currencies).Nodup := nodup_currencies hread
    have hbuiltin (name : String) : Table.builtin.get? name = builtinEntries.lookup name := by
      rw [Table.get?, Table.entries_builtin]
    have hnames : Table.builtin.names = builtinEntries.map Prod.fst := by
      rw [Table.names, Table.entries_builtin]
    have hvisible (name code : String) (h : (name, code) ∈ c.compiler.currencies.entries) :
        isBlank name = false ∧ isBlank code = false := by
      have hblank := not_blank_of_mem hkeys hvalid h
      simpa [BlankEntry] using hblank
    refine ⟨one_le_nameLimit hvalid, hkeys, ?_, ?_, c.currencyTable.distinct, hvisible, ?_⟩
    · intro name
      rw [← hbuiltin]
      exact Table.get?_extend_eq hkeys name
    · rw [← hnames]
      exact Table.names_extend hkeys
    · intro x ps hps p hp cl hcl hpath
      obtain ⟨name, code, hmem, hcode⟩ := Compiler.code_of_currency_clause hps hp hcl hpath
      refine ⟨code, hcode, Text.exists_visible ?_⟩
      rw [(hvisible name code hmem).2]
      exact Bool.false_ne_true
  · intro c hread
    refine ⟨fun fault => ofToml_eq_error_iff hread, ?_⟩
    intro hnone
    rcases ofToml_cases text with ⟨c', hc'⟩ | ⟨message, hfault⟩
    · have hsame : c' = c := Except.ok.inj ((ofToml_eq_ok_iff.mp hc').1.symm.trans hread)
      rw [hc', hsame]
    · exact absurd ((ofToml_eq_error_iff hread).mp hfault) (hnone _)

/-- A new code for a built-in currency, beside a new currency; and a text with two faults, of which the limit is
    reported. -/
theorem Configuration.accepted_of_new_codes :
    (∃ c, ofToml "[currencies]\n\"Chaos Orb\" = \"c\"\nShard = \"s\"\n" = .ok c ∧
      c.compiler.currencies.get? "Chaos Orb" = some "c" ∧ c.compiler.currencies.get? "Shard" = some "s") ∧
    ofToml "[compiler]\nmax_attribute_name_len = 0\n[currencies]\nShard = \" \"\n" =
      .error (.config "compiler.max_attribute_name_len must be greater than zero") := by
  constructor
  · have hread : ofToml "[currencies]\n\"Chaos Orb\" = \"c\"\nShard = \"s\"\n" =
        .ok { currencies := [("Chaos Orb", "c"), ("Shard", "s")] } := by decide +kernel
    obtain ⟨-, -, hcodes, -⟩ := (accepted_is_sound _).1 _ hread
    refine ⟨_, hread, ?_, ?_⟩
    · rw [hcodes]
      decide
    · rw [hcodes]
      decide
  · have hread : decodeText ofEntries?
        "[compiler]\nmax_attribute_name_len = 0\n[currencies]\nShard = \" \"\n" =
        .ok { options := { nameLimit := 0 }, currencies := [("Shard", " ")] } := by decide +kernel
    exact (((accepted_is_sound _).2 _ hread).1 _).mpr (.here ⟨rfl, rfl⟩)

end ItemQuery
