import ItemQuery.Configuration.Basic
import ItemQuery.Toml.Decode

/-!
# `Configuration.Toml` — configurations as TOML

A text has a section `compiler` with the options and a section `currencies` with an entry for each currency.
Both may be left out, and other sections are ignored.

## Contents
- `Configuration.ofEntries?`: the two sections.
- `Configuration.ofToml`: a valid configuration from a text.
- `FileFault`, `Configuration.ofFile`: from what reading a file gave.
-/

namespace ItemQuery

open Assoc (field?)
open Toml (Entries Value boolean? decodeText natural? text?)

/-- Why a file has no text. -/
inductive FileFault where
  /-- There is no such file. -/
  | missing
  /-- The file cannot be read for another reason. -/
  | unreadable (reason : String)
  deriving DecidableEq, Repr

/-- The fault in words. -/
def FileFault.message : FileFault → String
  | missing => "No such file or directory (os error 2)"
  | unreadable reason => reason

/-- The fields of options in order. -/
def Options.fieldNames : List String := ["strict_ranges", "max_attribute_name_len"]

/-- Read options. -/
def Options.ofValue? (v : Value) : Option Options := do
  let entries ← v.record? fieldNames
  let dflt : Options := {}
  return {
    strictRanges := ← field? entries "strict_ranges" boolean? dflt.strictRanges
    nameLimit := ← field? entries "max_attribute_name_len" (natural? 64) dflt.nameLimit }

/-- Read pairs of texts. -/
def pairsOfValue? (v : Value) : Option (List (String × String)) := do
  (← v.entries?).mapM fun (name, code) => do return (name, ← text? code)

namespace Configuration

/-- Read the two sections of a configuration. -/
def ofEntries? (entries : Entries) : Option Configuration := do
  let dflt : Configuration := {}
  return {
    options := ← field? entries "compiler" Options.ofValue? dflt.options
    currencies := ← field? entries "currencies" pairsOfValue? dflt.currencies }

/-- A valid configuration from a text. -/
def ofToml (text : String) : Except Fault Configuration :=
  match decodeText ofEntries? text with
  | .error fault => .error (.config ("failed to parse TOML: " ++ fault.message))
  | .ok c => do
    c.validate
    return c

/-- A valid configuration from the text of a file. -/
def ofFile : Except FileFault String → Except Fault Configuration
  | .error fault => .error (.config ("failed to read configuration: " ++ fault.message))
  | .ok text => ofToml text

end Configuration

end ItemQuery
