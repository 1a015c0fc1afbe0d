import ItemQuery.Fault

/-!
# `Store.Fault` — what can go wrong between criteria and records

A search fails because the criteria are refused, because the connection settings or the request cannot be
used, because no server answers, or because the server reports an error.
-/

namespace ItemQuery.Store

/-- Why a search or a connection fails. -/
inductive StoreFault where
  /-- The connection or the server reports an error. -/
  | driver (message : String)
  /-- The criteria are refused. -/
  | filter (fault : Fault)
  /-- Connection settings that cannot be used. -/
  | config (message : String)
  /-- No server answers. -/
  | connection (message : String)
  /-- A request that cannot be made. -/
  | query (message : String)
  deriving DecidableEq, Repr

namespace StoreFault

/-- The fault in a sentence. -/
def message : StoreFault → String
  | driver message => "mongodb error: " ++ message
  | filter fault => "filter rejected: " ++ fault.message
  | config message => "configuration error: " ++ message
  | connection message => "connection error: " ++ message
  | query message => "query error: " ++ message

/-- Whether no server answered. -/
def isConnection : StoreFault → Bool
  | connection _ => true
  | _ => false

/-- Whether the criteria were refused. -/
def isFilter : StoreFault → Bool
  | filter _ => true
  | _ => false

end StoreFault

end ItemQuery.Store
