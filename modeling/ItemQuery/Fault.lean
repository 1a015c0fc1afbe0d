import ItemQuery.Text.Quoted

/-!
# `Fault` — why criteria or a configuration are refused

Criteria are refused for three reasons only: a value that its category does not know, a pair of bounds in
the wrong order, and a modifier name that cannot be part of a path. The fourth fault is a configuration
that cannot be used; criteria never cause it.

## Contents
- `Fault`: the causes.
- `Fault.message`, `Fault.code`, `Fault.description`, `Fault.help`: what is said about each.
-/

namespace ItemQuery

/-- Why criteria or a configuration are refused. -/
inductive Fault where
  /-- A category (such as currency names) has no such value. -/
  | unknownCategory (category value : String)
  /-- The lower bound exceeds the upper one; both as they are displayed. -/
  | invertedRange (field lower upper : String)
  /-- A modifier name that cannot be part of a path. -/
  | invalidName (name reason : String)
  /-- A configuration that cannot be read or used. -/
  | config (message : String)
  deriving DecidableEq, Repr

namespace Fault

/-- The fault in a sentence. -/
def message : Fault → String
  | unknownCategory category value => "unknown " ++ category ++ " value " ++ Text.quote value
  | invertedRange field lower upper =>
    "malformed range for " ++ field ++ ": min " ++ lower ++ " is greater than max " ++ upper
  | invalidName name reason => "invalid attribute name " ++ Text.quote name ++ ": " ++ reason
  | config message => "configuration error: " ++ message

/-- The code by which programs tell faults apart. -/
def code : Fault → String
  | unknownCategory _ _ => "S1001"
  | invertedRange _ _ _ => "S1002"
  | invalidName _ _ => "S1003"
  | config _ => "S7001"

/-- What the code stands for. -/
def description : Fault → String
  | unknownCategory _ _ => "Unknown categorical value"
  | invertedRange _ _ _ => "Malformed range pair"
  | invalidName _ _ => "Invalid attribute name"
  | config _ => "Invalid configuration"

/-- What the caller can do about it. -/
def help : Fault → Option String
  | unknownCategory _ _ =>
    some "reject the value in the form layer or add it to the [currencies] table"
  | invertedRange _ _ _ => some "swap the bounds or drop one of them"
  | invalidName _ _ =>
    some "names may contain letters, digits, spaces and % + - # ' , : ( ) / & only"
  | config _ => none

/-- Whether the caller's criteria are at fault, not the configuration. -/
def isInputError : Fault → Bool
  | config _ => false
  | _ => true

/-- Whether a category does not know a value. -/
def isUnknownCategory : Fault → Bool
  | unknownCategory _ _ => true
  | _ => false

end Fault

end ItemQuery
