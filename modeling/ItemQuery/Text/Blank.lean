/-!
# `Text.Blank` — white space, blank texts and trimming

White space is the Unicode property White_Space: 25 characters, the same in every version since 6.3.

## Contents
- `isSpace`: the property.
- `isBlank`: texts of white space only, the empty one among them.
- `trim`: a text without its leading and trailing white space.
-/

namespace ItemQuery.Text

/-- The Unicode property White_Space. -/
def isSpace (c : Char) : Bool :=
  let n := c.toNat
  (9 ≤ n && n ≤ 13) || n == 0x20 || n == 0x85 || n == 0xa0 || n == 0x1680 ||
    (0x2000 ≤ n && n ≤ 0x200a) || n == 0x2028 || n == 0x2029 || n == 0x202f || n == 0x205f ||
    n == 0x3000

/-- Nothing but white space. -/
def isBlank (s : String) : Bool := s.toList.all isSpace

/-- Drop what satisfies `p` at both ends. -/
def trimList (p : Char → Bool) (l : List Char) : List Char :=
  ((l.dropWhile p).reverse.dropWhile p).reverse

/-- The text without leading and trailing white space. -/
def trim (s : String) : String := String.ofList (trimList isSpace s.toList)

end ItemQuery.Text
