import ItemQuery.Compiler.Basic
import ItemQuery.Json.Decode

/-!
# `Compiler.Json` — compiler options as JSON

Options ignore members they do not know, and what is not given has its default.

## Contents
- `Options.read`, `Options.ofText`: options from JSON.
- `Options.toJson`: both options in order.
-/

namespace ItemQuery.Options

open Json (Decoder RecordField ReadError RecordRule bool? decodeText natural?)

namespace Fields

def strictRanges : RecordField Bool := .plain "strict_ranges" bool? ({} : Options).strictRanges
def nameLimit : RecordField Nat :=
  .plain "max_attribute_name_len" (natural? "usize" 64) ({} : Options).nameLimit

end Fields

/-- How options are read. -/
def rule : RecordRule where
  typeName := "struct CompilerOptions"
  fields := [Fields.strictRanges.rule, Fields.nameLimit.rule]
  unknown := .skipped
  positional := true
  complete := false

/-- Read options. -/
def read : Decoder Options := fun n => do
  let entries ← rule.entries n
  return {
    strictRanges := ← Fields.strictRanges.get entries
    nameLimit := ← Fields.nameLimit.get entries }

/-- Options as an object. -/
def toJson (o : Options) : Json :=
  .object [("strict_ranges", .bool o.strictRanges), ("max_attribute_name_len", .int o.nameLimit)]

/-- Read options from a text. -/
def ofText (text : String) : Except ReadError Options := decodeText read text

end ItemQuery.Options
