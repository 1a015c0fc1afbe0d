import ItemQuery.Configuration.Toml

/-!
# `Configuration.Kept` — configurations from kept sections

Where the sections of a configuration stand among those of others, all sections are kept first, and the configuration
takes its own from what was kept. A section is then read as a kept value is, and no longer as a value of the format.

## Contents
- `Options.ofContent?`, `pairsOfContent?`: one section.
- `Configuration.ofKept?`: both sections among others.
-/

namespace ItemQuery

open Assoc (field?)

/-- Read options. -/
def Options.ofContent? (c : Content) : Option Options := do
  let entries ← c.record? fieldNames
  let dflt : Options := {}
  return {
    strictRanges := ← field? entries "strict_ranges" Content.bool? dflt.strictRanges
    nameLimit := ← field? entries "max_attribute_name_len" (Content.natural? 64) dflt.nameLimit }

/-- Read pairs of texts. -/
def pairsOfContent? (c : Content) : Option (List (String × String)) := do
  (← c.entries?).mapM fun (name, code) => do return (name, ← code.string?)

namespace Configuration

/-- The names of the sections in order. -/
def sectionNames : List String := ["compiler", "currencies"]

/-- Read a configuration from kept sections, of which it takes those that it knows. -/
def ofKept? (kept : List (String × Content)) : Option Configuration := do
  let own := kept.filter fun e => sectionNames.contains e.1
  let dflt : Configuration := {}
  return {
    options := ← field? own "compiler" Options.ofContent? dflt.options
    currencies := ← field? own "currencies" pairsOfContent? dflt.currencies }

end Configuration

end ItemQuery
