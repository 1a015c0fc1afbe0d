import ItemQuery.Query.Basic

/-!
# `Query.Builder` — queries built step by step

Beside compiled criteria a query can be built by hand: each step puts a condition on one field. A step on a
field that has a condition already replaces it.

## Contents
- `Step`, `Step.key`, `Step.value`: a step sets one key to one value.
- `Step.run`, `Step.runAll`: a document after steps.
-/

namespace ItemQuery.Query

/-- A step of building a query. -/
inductive Step where
  | equals (field : String) (v : Bson)
  | atLeast (field : String) (v : Bson)
  | atMost (field : String) (v : Bson)
  | between (field : String) (lower upper : Bson)
  | oneOf (field : String) (members : List Bson)
  | pattern (field regex options : String)
  | contains (field text : String)
  | present (field : String) (b : Bool)
  /-- All of some documents, under the key `$and`. -/
  | allOf (conditions : List Document)
  /-- A compiled clause. -/
  | clause (c : Clause)

namespace Step

/-- The key that a step sets. -/
def key : Step → String
  | equals field _ => field
  | atLeast field _ => field
  | atMost field _ => field
  | between field _ _ => field
  | oneOf field _ => field
  | pattern field _ _ => field
  | contains field _ => field
  | present field _ => field
  | allOf _ => "$and"
  | clause c => c.path.text

/-- The value that a step gives to its key. -/
def value : Step → Bson
  | equals _ v => v
  | atLeast _ v => Query.atLeast v
  | atMost _ v => Query.atMost v
  | between _ lower upper => Query.between lower upper
  | oneOf _ members => Query.oneOf members
  | pattern _ regex options => Query.pattern regex options
  | contains _ text => Query.contains text
  | present _ b => Query.present b
  | allOf conditions => Query.allOf conditions
  | clause c => c.condition.toBson

/-- A document after a step. -/
def run (d : Document) (s : Step) : Document := Assoc.set s.key s.value d

/-- A document after steps in order. -/
def runAll (d : Document) (steps : List Step) : Document := steps.foldl run d

end Step

end ItemQuery.Query
