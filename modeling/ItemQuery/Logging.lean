/-!
# `Logging` — what the environment says about logging

Three variables decide: one turns debugging on, one names the least severe level that is shown, one names the
format. Words are read in whatever case, and a word that means nothing counts as not given.

## Contents
- `Logging.Variables`: the variables, each of which may be unset.
- `Logging.named`: what a word means, among values with names.
- `Logging.debugs`, `Logging.level`, `Logging.format`.
-/

namespace ItemQuery.Logging

/-- The variables that decide about logging. -/
structure Variables where
  debug : Option String := none
  level : Option String := none
  format : Option String := none

/-- The variables of an environment. -/
def Variables.ofEnvironment (environment : List (String × String)) : Variables where
  debug := environment.lookup "STASH_DEBUG"
  level := environment.lookup "STASH_LOG_LEVEL"
  format := environment.lookup "STASH_LOG_FORMAT"

/-- A word in small letters. All words that are looked for are ASCII, and no other letter becomes one of
    theirs. -/
def lower (word : String) : String := word.map Char.toLower

/-- The value that a word means, in whatever case it is written, and the fallback where it means none or where
    there is no word. -/
def named {α : Type} (name : α → String) (all : List α) (fallback : α) (word : Option String) : α :=
  (word.bind fun w => all.find? fun a => name a == lower w).getD fallback

/-- How severe a message is. -/
inductive Level where
  | trace
  | debug
  | info
  | warn
  | error
  deriving DecidableEq, Repr

namespace Level

/-- The word for a level. -/
def name : Level → String
  | trace => "trace"
  | debug => "debug"
  | info => "info"
  | warn => "warn"
  | error => "error"

/-- All levels. -/
def all : List Level := [trace, debug, info, warn, error]

end Level

/-- How messages are written. -/
inductive Format where
  | json
  | pretty
  | compact
  deriving DecidableEq, Repr

namespace Format

/-- The word for a format. -/
def name : Format → String
  | json => "json"
  | pretty => "pretty"
  | compact => "compact"

/-- All formats. -/
def all : List Format := [json, pretty, compact]

end Format

/-- The words that turn debugging on. -/
def yes : List String := ["true", "1", "yes"]

/-- Whether debugging is on. -/
def debugs (v : Variables) : Bool := v.debug.any fun word => yes.contains (lower word)

/-- The least severe level that is shown; it depends on debugging where none is named. -/
def level (v : Variables) : Level := named Level.name Level.all (if debugs v then .debug else .warn) v.level

/-- The format of messages. -/
def format (v : Variables) : Format := named Format.name Format.all .json v.format

end ItemQuery.Logging
