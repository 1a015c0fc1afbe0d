import ItemQuery.Store.Settings

/-!
# `Store.Driver` — the driver behind a client

Whoever talks to a store does so through a driver, which is not part of this library. It is known by two answers:
what a connection string says, and whether a client can be made with connection options. Both may be anything, and
what is proved of clients is proved for every driver.

## Contents
- `ConnectionOptions`, `Driver`: what a connection is made with, and who makes it.
- `Settings.over`, `Settings.connectionOptions`: what settings and their connection string say together.
- `Driver.plain`: a driver for connection strings without options.
-/

namespace ItemQuery.Store

/-- What a connection is made with. The settings may say four things; what a connection string says beyond them is
    kept as the driver gave it. -/
structure ConnectionOptions where
  appName : Option String := none
  maxPoolSize : Option Nat := none
  connectTimeout : Option Duration := none
  selectionTimeout : Option Duration := none
  /-- The hosts, the user and all other options, by name. -/
  others : List (String × String) := []
  deriving DecidableEq, Repr

/-- A driver by its answers. -/
structure Driver where
  /-- What a connection string says, or why it cannot be used. -/
  parse : String → Except String ConnectionOptions
  /-- Whether a client can be made with options, or why not. -/
  accept : ConnectionOptions → Except String Unit

/-- Connection options with what the settings say: a setting counts before the option of a connection string. -/
def Settings.over (s : Settings) (o : ConnectionOptions) : ConnectionOptions where
  appName := s.appName <|> o.appName
  maxPoolSize := s.maxPoolSize <|> o.maxPoolSize
  connectTimeout := s.connectTimeout <|> o.connectTimeout
  selectionTimeout := s.selectionTimeout <|> o.selectionTimeout
  others := o.others

/-- What the connection is made with, unless the driver cannot use the connection string. -/
def Settings.connectionOptions (driver : Driver) (s : Settings) : Except StoreFault ConnectionOptions :=
  match driver.parse s.uri with
  | .error reason => .error (.config ("failed to parse URI: " ++ reason))
  | .ok o => .ok (s.over o)

/-- A driver for connection strings without options. It makes every client but one with a pool of no connections. -/
def Driver.plain : Driver where
  parse uri :=
    if "mongodb://".toList.isPrefixOf uri.toList then .ok { others := [("hosts", uri)] }
    else .error "invalid connection string scheme"
  accept o := if o.maxPoolSize = some 0 then .error "cannot specify maxPoolSize=0" else .ok ()

end ItemQuery.Store
