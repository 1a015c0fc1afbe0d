import ItemQuery.Bson.Display
import ItemQuery.Compiler.Basic
import ItemQuery.Query.Basic
import ItemQuery.Store.Driver

/-!
# `Store.Search` — searching the records

A search compiles criteria, renders the query and asks the store for the matching records with one `find`. A
store is known by its answers: whether it answers a ping, and what it replies to a `find`. What is sent is
part of the result, so that it can be told that nothing was.

## Contents
- `Find`, `Request`, `Reply`, `Server`: the store as it is seen from here.
- `stringifyId`, `Reply.result`: records with their ids as text.
- `Client`, `Client.connect`: settings that passed all checks.
- `Search`, `Search.query`, `Search.search`, `Search.latest`.
-/

namespace ItemQuery.Store

/-! ## The store -/

/-- What a `find` asks for. -/
structure Find where
  database : String
  collection : String
  filter : Document
  sort : Option Document
  limit : Int64

/-- What is sent to a store. -/
inductive Request where
  /-- Ask whether the store is there. -/
  | ping
  | find (f : Find)

/-- What comes back for a `find`. -/
inductive Reply where
  /-- No records, but an error. -/
  | refused (message : String)
  /-- Records, all that match up to the limit. -/
  | records (docs : List Document)
  /-- Some records, then an error. -/
  | interrupted (docs : List Document) (message : String)

/-- A store by its answers. -/
structure Server where
  answersPing : Bool
  reply : Find → Reply

/-- A store that nobody reaches. -/
def Server.unreachable : Server :=
  ⟨false, fun _ => .refused "server selection timeout: no available servers"⟩

/-! ## Ids -/

/-- The record with its id as text: an object id by its digits, any other id by its display. -/
def stringifyId (d : Document) : Document :=
  match d.lookup "_id" with
  | none => d
  | some (.string _) => d
  | some (.objectId id) => Assoc.set "_id" (.string id.hex) d
  | some v => Assoc.set "_id" (.string v.display) d

/-- What a reply comes to: its records with their ids as text, or its error. Records before an error are lost. -/
def Reply.result : Reply → Except StoreFault (List Document)
  | refused message => .error (.driver message)
  | records docs => .ok (docs.map stringifyId)
  | interrupted _ message => .error (.driver message)

/-! ## Clients -/

/-- A connection made with settings that passed all checks. Making it sends nothing. -/
structure Client where
  settings : Settings
  options : ConnectionOptions

/-- Check the settings and have the driver make a connection. What only the driver refuses is refused here and not
    among the settings, which may hold it. -/
def Client.connect (driver : Driver) (s : Settings) : Except StoreFault Client := do
  s.validate
  let options ← s.connectionOptions driver
  (driver.accept options).mapError fun reason => .connection ("failed to create client: " ++ reason)
  return ⟨s, options⟩

/-! ## Searches -/

/-- A compiler bound to a collection. -/
structure Search where
  database : String
  collection : String
  compiler : Compiler
  defaultLimit : Int64 := ({} : Settings).defaultLimit

/-- A result together with the requests that were made for it. -/
structure Answer (α : Type) where
  sent : List Find
  result : Except StoreFault α

namespace Search

/-- A search over the client's collection, with the client's default limit. -/
def ofClient (c : Client) (compiler : Compiler) : Search :=
  { database := c.settings.database, collection := c.settings.collection, compiler,
    defaultLimit := c.settings.defaultLimit }

/-- The query of criteria. -/
def query (s : Search) (x : Criteria) : Except StoreFault Document :=
  match s.compiler.compile x with
  | .ok ps => .ok (Query.ofPredicates ps)
  | .error fault => .error (.filter fault)

/-- The limit of a request: the given one, else the default; it has to be positive. -/
def resolveLimit (s : Search) (limit : Option Int64) : Except StoreFault Int64 :=
  let n := limit.getD s.defaultLimit
  if 0 < n then .ok n else .error (.query ("limit must be positive, got " ++ n.toInt.repr))

/-- Ask the store, unless the limit cannot be used. -/
def find (s : Search) (server : Server) (filter : Document) (sort : Option Document)
    (limit : Option Int64) : Answer (List Document) :=
  match s.resolveLimit limit with
  | .error fault => ⟨[], .error fault⟩
  | .ok limit =>
    let request : Find := ⟨s.database, s.collection, filter, sort, limit⟩
    ⟨[request], (server.reply request).result⟩

/-- The records that match criteria. -/
def search (s : Search) (server : Server) (x : Criteria) (limit : Option Int64) :
    Answer (List Document) :=
  match s.query x with
  | .error fault => ⟨[], .error fault⟩
  | .ok filter => s.find server filter none limit

/-- The latest records, whatever they are. -/
def latest (s : Search) (server : Server) (limit : Option Int64) : Answer (List Document) :=
  s.find server [] (some [("_id", .int32 (-1))]) limit

end Search

end ItemQuery.Store
