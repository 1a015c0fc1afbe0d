import ItemQuery.Criteria.Json
import ItemQuery.Store.Fault

/-!
# `Store.Settings` — how to reach the document store

Every setting has a default. Settings can be read from JSON, or put together by setters that may be called
in any order and more than once; timeouts are given to the setters as durations and kept in whole seconds.

## Contents
- `Duration`: spans of time.
- `Settings`, `Settings.validate`: the settings and what they have to satisfy.
- `Settings.read`, `Settings.toJson`.
- `Setter`, `Draft.build`: settings from setters.
-/

namespace ItemQuery.Store

open Json (Decoder RecordField RecordRule string? natural? int64? option?)

/-! ## Spans of time -/

/-- A span of time, in nanoseconds. -/
structure Duration where
  nanoseconds : Nat
  deriving DecidableEq, Repr

namespace Duration

/-- So many seconds. -/
def ofSeconds (n : Nat) : Duration := ⟨n * 1000000000⟩

/-- So many milliseconds. -/
def ofMillis (n : Nat) : Duration := ⟨n * 1000000⟩

/-- The whole seconds, without what is left of a further one. -/
def seconds (d : Duration) : Nat := d.nanoseconds / 1000000000

@[simp] theorem seconds_ofSeconds (n : Nat) : (ofSeconds n).seconds = n := Nat.mul_div_cancel n (by decide)

end Duration

/-! ## Settings -/

/-- Connection settings. -/
structure Settings where
  uri : String := "mongodb://localhost:27017"
  database : String := "stash"
  /-- The collection of item records. -/
  collection : String := "posts"
  appName : Option String := some "stash"
  maxPoolSize : Option Nat := some 10
  connectTimeoutSecs : Option Nat := some 10
  selectionTimeoutSecs : Option Nat := some 30
  /-- How many records a search returns when nobody says. -/
  defaultLimit : Int64 := 20
  deriving DecidableEq

namespace Settings

/-- The default settings with another address and database. -/
def ofUri (uri database : String) : Settings := { uri, database }

/-- The database and the collection have a name, and the default limit is positive; the first that fails is
    the fault. -/
def validate (s : Settings) : Except StoreFault Unit :=
  if s.database = "" then .error (.config "database name is required")
  else if s.collection = "" then .error (.config "collection name is required")
  else if s.defaultLimit ≤ 0 then
    .error (.config ("default_limit must be positive, got " ++ s.defaultLimit.toInt.repr))
  else .ok ()

/-- The timeout of a connection attempt. -/
def connectTimeout (s : Settings) : Option Duration := s.connectTimeoutSecs.map .ofSeconds

/-- The timeout of finding a server. -/
def selectionTimeout (s : Settings) : Option Duration := s.selectionTimeoutSecs.map .ofSeconds

/-! ## JSON -/

namespace Fields

def uri : RecordField String := .plain "uri" string? ({} : Settings).uri
def database : RecordField String := .plain "database" string? ({} : Settings).database
def collection : RecordField String := .plain "collection" string? ({} : Settings).collection
def appName : RecordField (Option String) := .plain "app_name" (option? string?) ({} : Settings).appName
def maxPoolSize : RecordField (Option Nat) :=
  .plain "max_pool_size" (option? (natural? "u32" 32)) ({} : Settings).maxPoolSize
def connectTimeoutSecs : RecordField (Option Nat) :=
  .plain "connect_timeout_secs" (option? (natural? "u64" 64)) ({} : Settings).connectTimeoutSecs
def selectionTimeoutSecs : RecordField (Option Nat) :=
  .plain "server_selection_timeout_secs" (option? (natural? "u64" 64))
    ({} : Settings).selectionTimeoutSecs
def defaultLimit : RecordField Int64 := .plain "default_limit" int64? ({} : Settings).defaultLimit

end Fields

/-- How settings are read. -/
def rule : RecordRule where
  typeName := "struct MongoConfig"
  fields := [
    Fields.uri.rule, Fields.database.rule, Fields.collection.rule, Fields.appName.rule,
    Fields.maxPoolSize.rule, Fields.connectTimeoutSecs.rule, Fields.selectionTimeoutSecs.rule,
    Fields.defaultLimit.rule]
  unknown := .skipped
  positional := true
  complete := false

/-- Read settings. -/
def read : Decoder Settings := fun n => do
  let entries ← rule.entries n
  return {
    uri := ← Fields.uri.get entries
    database := ← Fields.database.get entries
    collection := ← Fields.collection.get entries
    appName := ← Fields.appName.get entries
    maxPoolSize := ← Fields.maxPoolSize.get entries
    connectTimeoutSecs := ← Fields.connectTimeoutSecs.get entries
    selectionTimeoutSecs := ← Fields.selectionTimeoutSecs.get entries
    defaultLimit := ← Fields.defaultLimit.get entries }

/-- Settings as an object. -/
def toJson (s : Settings) : Json :=
  let natural : Option Nat → Json := Json.option fun n => .int n
  .object
    [("uri", .string s.uri),
     ("database", .string s.database),
     ("collection", .string s.collection),
     ("app_name", optionString s.appName),
     ("max_pool_size", natural s.maxPoolSize),
     ("connect_timeout_secs", natural s.connectTimeoutSecs),
     ("server_selection_timeout_secs", natural s.selectionTimeoutSecs),
     ("default_limit", intJson s.defaultLimit)]

end Settings

/-! ## Setters -/

/-- A call that sets one of the settings. -/
inductive Setter where
  | uri (s : String)
  | database (s : String)
  | collection (s : String)
  | appName (s : String)
  | maxPoolSize (n : Nat)
  | connectTimeout (d : Duration)
  | selectionTimeout (d : Duration)
  | defaultLimit (n : Int64)

/-- What setters have set so far. -/
structure Draft where
  uri : Option String := none
  database : Option String := none
  collection : Option String := none
  appName : Option String := none
  maxPoolSize : Option Nat := none
  connectTimeout : Option Duration := none
  selectionTimeout : Option Duration := none
  defaultLimit : Option Int64 := none

namespace Draft

/-- A draft after a setter. -/
def set (d : Draft) : Setter → Draft
  | .uri s => { d with uri := some s }
  | .database s => { d with database := some s }
  | .collection s => { d with collection := some s }
  | .appName s => { d with appName := some s }
  | .maxPoolSize n => { d with maxPoolSize := some n }
  | .connectTimeout t => { d with connectTimeout := some t }
  | .selectionTimeout t => { d with selectionTimeout := some t }
  | .defaultLimit n => { d with defaultLimit := some n }

/-- The settings of a draft: what was not set has its default, and of a duration the whole seconds count. -/
def settings (d : Draft) : Settings :=
  let dflt : Settings := {}
  { uri := d.uri.getD dflt.uri
    database := d.database.getD dflt.database
    collection := d.collection.getD dflt.collection
    appName := d.appName <|> dflt.appName
    maxPoolSize := d.maxPoolSize <|> dflt.maxPoolSize
    connectTimeoutSecs := d.connectTimeout.map Duration.seconds <|> dflt.connectTimeoutSecs
    selectionTimeoutSecs := d.selectionTimeout.map Duration.seconds <|> dflt.selectionTimeoutSecs
    defaultLimit := d.defaultLimit.getD dflt.defaultLimit }

/-- Valid settings from setters in order. -/
def build (setters : List Setter) : Except StoreFault Settings := do
  let s := (setters.foldl set {}).settings
  s.validate
  return s

end Draft

end ItemQuery.Store
