import ItemQuery.Store.Settings
import ItemQuery.Toml.Decode

/-!
# `Store.Toml` — connection settings as TOML

Every setting may be left out, and entries that are no settings are ignored.
-/

namespace ItemQuery.Store.Settings

open Assoc (field?)
open Toml (Decoder Entries Value decodeText int64? natural? text?)

/-- A value that is given. -/
def given? {α : Type} (d : Decoder α) : Decoder (Option α) := fun v => (d v).map some

/-- The names of the settings in order. -/
def names : List String :=
  ["uri", "database", "collection", "app_name", "max_pool_size", "connect_timeout_secs",
   "server_selection_timeout_secs", "default_limit"]

/-- Settings from the entries of a table. -/
def ofEntries? (entries : Entries) : Option Settings := do
  let dflt : Settings := {}
  return {
    uri := ← field? entries "uri" text? dflt.uri
    database := ← field? entries "database" text? dflt.database
    collection := ← field? entries "collection" text? dflt.collection
    appName := ← field? entries "app_name" (given? text?) dflt.appName
    maxPoolSize := ← field? entries "max_pool_size" (given? (natural? 32)) dflt.maxPoolSize
    connectTimeoutSecs :=
      ← field? entries "connect_timeout_secs" (given? (natural? 64)) dflt.connectTimeoutSecs
    selectionTimeoutSecs :=
      ← field? entries "server_selection_timeout_secs" (given? (natural? 64)) dflt.selectionTimeoutSecs
    defaultLimit := ← field? entries "default_limit" int64? dflt.defaultLimit }

/-- Settings from a value. -/
def ofValue? (v : Value) : Option Settings := do ofEntries? (← v.record? names)

/-- Settings from a text. They may still be invalid. -/
def ofToml (text : String) : Except Toml.TextFault Settings := decodeText ofEntries? text

end ItemQuery.Store.Settings
