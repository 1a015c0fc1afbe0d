import ItemQuery.Text.Blank

/-!
# `Category` — item categories as records hold them

Records hold categories in the plural ("Rings", "Boots"), with one exception. A category that a caller
gives may be in the singular and may have white space around it.
-/

namespace ItemQuery

/-- The category that records hold in the singular. -/
def singularCategory : String := "Flask"

/-- The category as records hold it: trimmed, and with an `s` at the end unless it has one already or is the
    exception. -/
def pluralize (label : String) : String :=
  let label := Text.trim label
  if label.toList.getLast? = some 's' || label = singularCategory then label else label ++ "s"

end ItemQuery
