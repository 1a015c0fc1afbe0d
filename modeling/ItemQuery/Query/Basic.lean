import ItemQuery.Bson.Basic
import ItemQuery.Predicate.Basic

/-!
# `Query.Basic` — predicates as queries of the document store

A query is a document: each entry puts a condition on a field, and all have to hold. A list of predicates
becomes one `$and` with a document for each, so that two predicates on one path do not meet in one document,
where the later would replace the earlier.

## Contents
- `escapePattern`: a text as a pattern that matches it literally.
- `Condition.toBson`, `Predicate.toDocument`, `Query.ofPredicates`.
-/

namespace ItemQuery

/-- The characters that mean something in a pattern. -/
def patternChars : List Char :=
  ['\\', '.', '+', '*', '?', '(', ')', '|', '[', ']', '\x7b', '\x7d', '^', '$', '#', '&', '-', '~']

/-- One character of a literal pattern. -/
def escapePatternChar (c : Char) : List Char := if patternChars.contains c then ['\\', c] else [c]

/-- The pattern that matches a text literally. -/
def escapePattern (text : String) : String := String.ofList (text.toList.flatMap escapePatternChar)

/-- An operand as a value of the store; no kind is widened to another. -/
def Operand.toBson : Operand → Bson
  | bool b => .bool b
  | int n => .int64 n
  | float x => .double x
  | text s => .string s

namespace Query

/-! ## Conditions on a field -/

def atLeast (v : Bson) : Bson := .document [("$gte", v)]
def atMost (v : Bson) : Bson := .document [("$lte", v)]
def between (lower upper : Bson) : Bson := .document [("$gte", lower), ("$lte", upper)]
def oneOf (members : List Bson) : Bson := .document [("$in", .array members)]
def pattern (regex options : String) : Bson :=
  .document [("$regex", .string regex), ("$options", .string options)]
def contains (text : String) : Bson := pattern (escapePattern text) "i"
def present (b : Bool) : Bson := .document [("$exists", .bool b)]

/-- All of some documents. -/
def allOf (conditions : List Document) : Bson := .array (conditions.map .document)

end Query

/-- A condition as it stands behind its field. -/
def Condition.toBson : Condition → Bson
  | equals v => v.toBson
  | contains s => Query.contains s
  | atLeast v => Query.atLeast v.toBson
  | atMost v => Query.atMost v.toBson
  | between lo hi => Query.between lo.toBson hi.toBson
  | oneOf ns => Query.oneOf (ns.map .int64)
  | present => Query.present true

/-! ## Predicates -/

/-- A document with a clause set in it. -/
def Clause.setIn (d : Document) (c : Clause) : Document := Assoc.set c.path.text c.condition.toBson d

/-- A predicate as one document, in which anchor and clause stand together. -/
def Predicate.toDocument (p : Predicate) : Document := p.clauses.foldl Clause.setIn []

/-- A list of predicates as a query. The store refuses an empty `$and`, so that no predicates give the query
    that every record satisfies. -/
def Query.ofPredicates (ps : List Predicate) : Document :=
  if ps.isEmpty then [] else [("$and", Query.allOf (ps.map Predicate.toDocument))]

end ItemQuery
