import ItemQuery.Command.Fault
import ItemQuery.Configuration.Kept
import ItemQuery.Store.Toml

/-!
# `Command.Setup` — the configuration of commands

The configuration file has the sections of a compiler configuration and one with connection settings. A file
that the user names has to be there; a file with the default name is read if it is found.

## Contents
- `Setup`, `Setup.keptSections`, `Setup.ofToml`, `Setup.toJson`.
- `Setup.load`, `Setup.find`: the configuration of a run.
-/

namespace ItemQuery.Command

open Store (Settings)
open Assoc (field?)
open Toml (Entries decodeText entryContents)

/-- What compiling and connecting depend on. -/
structure Setup where
  configuration : Configuration := {}
  settings : Settings := {}
  deriving DecidableEq

namespace Setup

/-- The section with connection settings. -/
def settingsSection : String := "mongodb"

/-- All sections but the one with connection settings, as they are kept. -/
def keptSections (entries : Entries) : List (String × Content) :=
  entryContents (entries.filter fun e => e.1 ≠ settingsSection)

/-- Read the sections of a configuration file. The connection settings are read where they stand, and the
    configuration is read from the sections that were kept. -/
def ofEntries? (entries : Entries) : Option Setup := do
  let dflt : Setup := {}
  return {
    settings := ← field? entries settingsSection Settings.ofValue? dflt.settings
    configuration := ← Configuration.ofKept? (keptSections entries) }

/-- A valid setup from a text; the compiler's sections are checked first. -/
def ofToml (text : String) : Except CommandFault Setup := do
  match decodeText ofEntries? text with
  | .error fault => throw (.config ("Failed to parse TOML: " ++ fault.message))
  | .ok s =>
    s.configuration.validate.mapError .ofFault
    s.settings.validate.mapError .ofStoreFault
    return s

/-- The sections as an object. -/
def toJson (s : Setup) : Json := .object (s.configuration.members ++ [(settingsSection, s.settings.toJson)])

/-- The name of the configuration file where the user names none. -/
def defaultFile : String := "stash.toml"

/-- The setup of a file. -/
def load (read : String → Except FileFault String) (file : String) : Except CommandFault Setup :=
  match read file with
  | .ok text => ofToml text
  | .error fault => .error (.config ("Failed to read " ++ file ++ ": " ++ fault.message))

/-- The setup of a run. A file that is named is read; else the default one is, if a look finds anything under its
    name, and the defaults count if the look fails, for whatever reason. -/
def find (isThere : String → Bool) (read : String → Except FileFault String) (named : Option String) :
    Except CommandFault Setup :=
  match named with
  | some file => load read file
  | none => if isThere defaultFile then load read defaultFile else .ok {}

end Setup

end ItemQuery.Command
