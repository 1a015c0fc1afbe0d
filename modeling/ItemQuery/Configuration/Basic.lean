import ItemQuery.Compiler.Json
import ItemQuery.Currency.Json
import ItemQuery.Text.Blank

/-!
# `Configuration.Basic` — what a deployment decides about compiling

A configuration holds the compiler's options and currencies of its own. The currencies extend the built-in
table; one with the name of a built-in currency replaces its code.

## Contents
- `Configuration`, `Configuration.validate`.
- `Configuration.currencyTable`, `Configuration.compiler`: what a configuration leads to.
- `Configuration.toJson`.
-/

namespace ItemQuery

/-- The compiler's options and more currencies, in order. -/
structure Configuration where
  options : Options := {}
  currencies : List (String × String) := []
  deriving DecidableEq

namespace Configuration

/-- A name or a code with nothing to see in it. -/
def isBlankEntry (entry : String × String) : Bool := Text.isBlank entry.1 || Text.isBlank entry.2

/-- Modifier names may have a character, and every currency has a name and a code; the first that fails is
    the fault. -/
def validate (c : Configuration) : Except Fault Unit :=
  if c.options.nameLimit = 0 then
    .error (.config "compiler.max_attribute_name_len must be greater than zero")
  else match c.currencies.find? isBlankEntry with
    | some (name, _) =>
      .error (.config ("currency entry " ++ Text.quote name ++ " has an empty name or code"))
    | none => .ok ()

/-- The built-in currencies and those of the configuration. -/
def currencyTable (c : Configuration) : Currency.Table := Currency.Table.builtin.extend c.currencies

/-- The compiler of the configuration. -/
def compiler (c : Configuration) : Compiler := ⟨c.currencyTable, c.options⟩

/-- Both sections as members of an object. -/
def members (c : Configuration) : List (String × Json) :=
  [("compiler", c.options.toJson), ("currencies", Currency.pairsJson c.currencies)]

/-- A configuration as an object. -/
def toJson (c : Configuration) : Json := .object c.members

end Configuration

end ItemQuery
