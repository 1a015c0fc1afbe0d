import ItemQuery.Bson.ExtendedJson
import ItemQuery.Command.Fault
import ItemQuery.Compiler.Basic
import ItemQuery.Predicate.Json
import ItemQuery.Query.Basic

/-!
# `Command.Render` — compiled criteria as output

## Contents
- `Format`: predicates as JSON, the query as JSON, or predicates as lines.
- `render`: compile criteria and write the result in a format.
-/

namespace ItemQuery.Command

/-- How compiled criteria are written. -/
inductive Format where
  /-- The predicates as JSON. -/
  | json
  /-- The query as JSON. -/
  | mongo
  /-- The predicates as lines. -/
  | text
  deriving DecidableEq, Repr

namespace Format

/-- The word for a format. -/
def name : Format → String
  | json => "json"
  | mongo => "mongo"
  | text => "text"

/-- The format of a word. -/
def ofName? (word : String) : Option Format := [json, mongo, text].find? fun f => f.name == word

theorem ofName?_name (f : Format) : ofName? f.name = some f := by
  cases f <;> decide

/-- Predicates in a format. -/
def write (ps : List Predicate) : Format → String
  | json => (predicatesJson ps).pretty
  | mongo => (documentJson (Query.ofPredicates ps)).pretty
  | text => "\n".intercalate (ps.map Predicate.display)

end Format

/-- Compile criteria and write the result. -/
def render (c : Compiler) (x : Criteria) (f : Format) : Except CommandFault String :=
  match c.compile x with
  | .ok ps => .ok (f.write ps)
  | .error fault => .error (.ofFault fault)

end ItemQuery.Command
