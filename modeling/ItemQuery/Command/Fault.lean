import ItemQuery.Store.Fault

/-!
# `Command.Fault` — why a command fails

What fails below a command is told by what the user can do about it: mend the configuration, the criteria,
or the connection. So a fault of the configuration is one wherever it was found.

## Contents
- `CommandFault`, with `message`, `code` and `help`.
- `CommandFault.ofFault`, `CommandFault.ofStoreFault`.
-/

namespace ItemQuery.Command

open Store (StoreFault)

/-- Why a command fails. -/
inductive CommandFault where
  /-- The system reports an error. -/
  | io (message : String)
  /-- The configuration cannot be used. -/
  | config (message : String)
  /-- The criteria cannot be read. -/
  | input (message : String)
  /-- The criteria are refused. -/
  | filter (fault : Fault)
  /-- The store cannot be reached or reports an error. -/
  | database (message : String)
  /-- The result cannot be written. -/
  | output (message : String)
  deriving DecidableEq, Repr

namespace CommandFault

/-- The fault in a sentence. -/
def message : CommandFault → String
  | io message => "IO error: " ++ message
  | config message => "Configuration error: " ++ message
  | input message => "Invalid input: " ++ message
  | filter fault => "Filter rejected [" ++ fault.code ++ "]: " ++ fault.message
  | database message => "Database error: " ++ message
  | output message => "Output error: " ++ message

/-- A fixed name for the kind of fault. -/
def code : CommandFault → String
  | io _ => "stash::io"
  | config _ => "stash::config"
  | input _ => "stash::input"
  | filter _ => "stash::filter"
  | database _ => "stash::database"
  | output _ => "stash::output"

/-- What the user can do about it. -/
def help : CommandFault → Option String
  | input _ => some "filters are JSON objects; pass --form for flat web-form payloads"
  | filter fault => fault.help
  | _ => none

/-- A fault of criteria or of the configuration. -/
def ofFault : Fault → CommandFault
  | .config message => config message
  | fault => filter fault

/-- A fault of a search or a connection. -/
def ofStoreFault : StoreFault → CommandFault
  | .filter fault => ofFault fault
  | .config message => config message
  | fault => database fault.message

end CommandFault

end ItemQuery.Command
