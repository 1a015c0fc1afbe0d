import ItemQuery.Text.Printable

/-!
# `Text.Quoted` — quoted texts and characters

Messages and display lines show a caller's text between quotes, with every character that could be
mistaken or that would disturb the line written as an escape.

## Contents
- `escapeChar`: one character as it stands between quotes of a given kind.
- `quote`, `quoteChar`: a text in double quotes, a character in single quotes.
-/

namespace ItemQuery.Text

/-- The code point in lower-case hexadecimal digits, without padding. -/
def hexDigits (c : Char) : List Char := Nat.toDigits 16 c.toNat

/-- One character between two `delimiter`s. The delimiter and the backslash take a backslash, four
    control characters have letters of their own, and every other character that is not printable, or
    that would join the one before it, is written by its code point. -/
def escapeChar (delimiter : Char) (c : Char) : List Char :=
  if c = '\x00' then ['\\', '0']
  else if c = '\t' then ['\\', 't']
  else if c = '\n' then ['\\', 'n']
  else if c = '\r' then ['\\', 'r']
  else if c = '\\' || c = delimiter then ['\\', c]
  else if isPrintable c && !isExtending c then [c]
  else ['\\', 'u', '\x7b'] ++ hexDigits c ++ ['\x7d']

/-- The text in double quotes. -/
def quote (s : String) : String :=
  String.ofList ('"' :: s.toList.flatMap (escapeChar '"') ++ ['"'])

/-- The character in single quotes. -/
def quoteChar (c : Char) : String :=
  String.ofList ('\'' :: escapeChar '\'' c ++ ['\''])

end ItemQuery.Text
