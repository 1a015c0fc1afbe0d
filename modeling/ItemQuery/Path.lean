import ItemQuery.Fault
import ItemQuery.Text.Alphanumeric
import ItemQuery.Text.Blank

/-!
# `Path` — where in an item record a condition applies

A path is dotted: `ilvl`, `sockets.link`, `Mods.+# to maximum Life`. All paths but those of modifiers are
fixed by the layout of the records. A modifier's path ends in a name that the caller gives, and a path
stands in key position in a query; so the name is checked against a list of what is allowed. The list holds
neither the dot nor the dollar sign, the only characters that mean something in such a key.

## Contents
- `Path`, `Path.root`, `Path.leaf`.
- `NameFault`, `checkName`: what is wrong with a name, tested in a fixed order.
- `Path.within`: the path of a checked name inside a namespace.
-/

namespace ItemQuery

/-- A dotted path into an item record. -/
structure Path where
  text : String
  deriving DecidableEq, Repr

namespace Path

/-- The part before the first dot, or the whole path if there is none. -/
def root (p : Path) : String := String.ofList (p.text.toList.takeWhile (· != '.'))

/-- The part after the first dot. -/
def leaf (p : Path) : Option String :=
  match p.text.toList.dropWhile (· != '.') with
  | [] => none
  | _ :: rest => some (String.ofList rest)

end Path

/-! ## Names that a caller gives -/

/-- What is wrong with a name. -/
inductive NameFault where
  | empty
  | tooLong (length limit : Nat)
  | spaceAtEnd
  | forbidden (c : Char)
  deriving DecidableEq, Repr

/-- The fault in words. -/
def NameFault.reason : NameFault → String
  | empty => "name is empty"
  | tooLong length limit =>
    "name is " ++ length.repr ++ " characters long, the limit is " ++ limit.repr
  | spaceAtEnd => "name has leading or trailing whitespace"
  | forbidden c => "character " ++ Text.quoteChar c ++ " is not allowed"

/-- The punctuation that a name may have. -/
def namePunctuation : List Char := ['%', '+', '-', '#', '\'', ',', ':', '(', ')', '/', '&']

/-- The characters that a name may have. -/
def isNameChar (c : Char) : Bool := Text.isAlphanumeric c || c == ' ' || namePunctuation.contains c

/-- Check a name: it has a character, not more than `limit` of them, no white space at either end, and
    nothing that is not allowed. The first of these that fails is the fault. -/
def checkName (name : String) (limit : Nat) : Except NameFault Unit :=
  let cs := name.toList
  if cs = [] then .error .empty
  else if limit < cs.length then .error (.tooLong cs.length limit)
  else if cs.head?.any Text.isSpace || cs.getLast?.any Text.isSpace then .error .spaceAtEnd
  else match cs.find? fun c => !isNameChar c with
    | some c => .error (.forbidden c)
    | none => .ok ()

/-- The path of a caller's name inside a namespace. -/
def Path.within (space name : String) (limit : Nat) : Except Fault Path :=
  match checkName name limit with
  | .error fault => .error (.invalidName name fault.reason)
  | .ok () => .ok ⟨space ++ "." ++ name⟩

/-- The namespace of modifiers. -/
def modifierSpace : String := "Mods"

/-- The limit on names where none is configured. -/
def defaultNameLimit : Nat := 128

end ItemQuery
