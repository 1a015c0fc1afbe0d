import ItemQuery.Decimal.Nearest
import ItemQuery.Text.Digits
import ItemQuery.Toml.Value

/-!
# `Toml.Scalar` — blanks, keys, strings, numbers and dates

A reader takes a text to what stands at its start and the rest of the text, or refuses.

## Contents
- `skipBlanks`, `skipComment`, `skipNewline?`, `skipTrivia?`.
- `string?`, `key?`: strings of four kinds; dotted keys.
- `number?`, `dateTime?`, `scalar?`.
-/

namespace ItemQuery.Toml

open Text (digitValue? valueOfDigits?)

/-- A way to read the start of a text. -/
abbrev Reader (α : Type) := List Char → Option (α × List Char)

/-! ## Between the values -/

/-- The two blanks of a line. -/
def isBlank (c : Char) : Bool := c = ' ' || c = '\t'

/-- Characters that may stand in comments and strings: all but the controls, of which only the tab may. -/
def isPlain (c : Char) : Bool := c = '\t' || (0x20 ≤ c.toNat && c.toNat ≠ 0x7f)

/-- Without leading blanks. -/
def skipBlanks (s : List Char) : List Char := s.dropWhile isBlank

/-- After a line break. -/
def skipNewline? : List Char → Option (List Char)
  | '\n' :: s => some s
  | '\r' :: '\n' :: s => some s
  | _ => none

/-- After a line break or at the end of the text. -/
def skipLineEnd? : List Char → Option (List Char)
  | [] => some []
  | s => skipNewline? s

/-- After a comment, if there is one. -/
def skipComment : List Char → List Char
  | '#' :: s => s.dropWhile isPlain
  | s => s

/-- After what may follow a value or a header on its line, and the end of the line. -/
def skipRestOfLine? (s : List Char) : Option (List Char) := skipLineEnd? (skipComment (skipBlanks s))

/-- After blanks, comments and line breaks; a comment has to end with its line. -/
def skipTrivia? : Nat → List Char → Option (List Char)
  | 0, _ => none
  | steps + 1, s =>
    match skipBlanks s with
    | '#' :: s => do
      let s ← skipNewline? (skipComment ('#' :: s))
      skipTrivia? steps s
    | '\n' :: s => skipTrivia? steps s
    | '\r' :: s => do
      let s ← skipNewline? ('\r' :: s)
      skipTrivia? steps s
    | s => some s

/-! ## Strings -/

/-- The character with a given code point, if there is one. -/
def charOfCode? (n : Nat) : Option Char := if n.isValidChar then some (Char.ofNat n) else none

/-- The character that an escape stands for, after the backslash. -/
def escape? : Reader Char
  | 'b' :: s => some ('\x08', s)
  | 't' :: s => some ('\t', s)
  | 'n' :: s => some ('\n', s)
  | 'f' :: s => some ('\x0c', s)
  | 'r' :: s => some ('\r', s)
  | '"' :: s => some ('"', s)
  | '\\' :: s => some ('\\', s)
  | 'u' :: s => code 4 s
  | 'U' :: s => code 8 s
  | _ => none
where
  code (width : Nat) (s : List Char) : Option (Char × List Char) := do
    guard ((s.take width).length = width)
    let c ← charOfCode? (← valueOfDigits? 16 0 (s.take width))
    return (c, s.drop width)

/-- After a backslash at the end of a line: the line break and all blanks and line breaks that follow. -/
def skipFoldedLine? (s : List Char) : Option (List Char) :=
  (skipNewline? (skipBlanks s)).map blankLines
where
  blankLines : List Char → List Char
    | ' ' :: s => blankLines s
    | '\t' :: s => blankLines s
    | '\n' :: s => blankLines s
    | '\r' :: '\n' :: s => blankLines s
    | s => s

/-- A basic string up to its quote. -/
def basicBody? : Nat → Reader (List Char)
  | 0, _ => none
  | _ + 1, [] => none
  | steps + 1, c :: s =>
    if c = '"' then some ([], s)
    else if c = '\\' then do
      let (e, s) ← escape? s
      let (cs, s) ← basicBody? steps s
      return (e :: cs, s)
    else if isPlain c then do
      let (cs, s) ← basicBody? steps s
      return (c :: cs, s)
    else none

/-- A literal string up to its quote. -/
def literalBody? (s : List Char) : Option (List Char × List Char) :=
  match s.span fun c => isPlain c && c ≠ '\'' with
  | (cs, '\'' :: s) => some (cs, s)
  | _ => none

/-- The end of a string of several lines, after three of its quotes: up to two more belong to the string. -/
def extraQuotes (quote : Char) : List Char → List Char × List Char
  | a :: b :: s =>
    if a = quote && b = quote then ([a, b], s) else if a = quote then ([a], b :: s) else ([], a :: b :: s)
  | [a] => if a = quote then ([a], []) else ([], [a])
  | [] => ([], [])

/-- A string of several lines up to its three quotes. Line breaks become line feeds; only a basic string has
    escapes. -/
def multilineBody? (quote : Char) : Nat → Reader (List Char)
  | 0, _ => none
  | _ + 1, [] => none
  | steps + 1, c :: s =>
    let more (c : Char) (s : List Char) := do
      let (cs, s) ← multilineBody? quote steps s
      return (c :: cs, s)
    if c = quote then
      if s.take 2 = [quote, quote] then some (extraQuotes quote (s.drop 2)) else more c s
    else if c = '\\' && quote = '"' then
      match skipFoldedLine? s with
      | some s => multilineBody? quote steps s
      | none => do
        let (e, s) ← escape? s
        more e s
    else match skipNewline? (c :: s) with
      | some s => more '\n' s
      | none => if isPlain c then more c s else none

/-- A string of one of the four kinds. A line break right after three opening quotes does not count. -/
def string? : Reader String := fun s => do
  let multiline (quote : Char) (s : List Char) :=
    let s := (skipNewline? s).getD s
    multilineBody? quote (s.length + 1) s
  let (cs, s) ← match s with
    | '"' :: '"' :: '"' :: s => multiline '"' s
    | '"' :: s => basicBody? (s.length + 1) s
    | '\'' :: '\'' :: '\'' :: s => multiline '\'' s
    | '\'' :: s => literalBody? s
    | _ => none
  return (String.ofList cs, s)

/-! ## Keys -/

/-- Characters of a key without quotes. -/
def isKeyChar (c : Char) : Bool := c.isAlphanum || c = '-' || c = '_'

/-- One part of a key. -/
def keyPart? : Reader String := fun s =>
  match s with
  | '"' :: s => (basicBody? (s.length + 1) s).map fun (cs, s) => (String.ofList cs, s)
  | '\'' :: s => (literalBody? s).map fun (cs, s) => (String.ofList cs, s)
  | s =>
    match s.span isKeyChar with
    | ([], _) => none
    | (cs, s) => some (String.ofList cs, s)

/-- The parts of a key, with blanks around each. -/
def keyParts? : Nat → Reader (List String)
  | 0, _ => none
  | steps + 1, s => do
    let (part, s) ← keyPart? (skipBlanks s)
    match skipBlanks s with
    | '.' :: s => do
      let (parts, s) ← keyParts? steps s
      return (part :: parts, s)
    | s => return ([part], s)

/-- How deep values may be nested, and how many parts a key may have: fewer than this. -/
def depthLimit : Nat := 80

/-- A dotted key. -/
def key? : Reader (List String) := keyParts? (depthLimit - 1)

/-! ## Numbers -/

/-- Digits in a base, with single underscores between them. -/
def underscored? (base : Nat) : Reader (List Char)
  | [] => none
  | c :: s => if (digitValue? base c).isSome then some (consFirst c (more s)) else none
where
  consFirst (c : Char) : List Char × List Char → List Char × List Char
    | (cs, s) => (c :: cs, s)
  more : List Char → List Char × List Char
    | '_' :: c :: s =>
      if (digitValue? base c).isSome then consFirst c (more s) else ([], '_' :: c :: s)
    | c :: s => if (digitValue? base c).isSome then consFirst c (more s) else ([], c :: s)
    | [] => ([], [])

/-- An optional sign; whether it is a minus. -/
def sign : List Char → Bool × List Char
  | '+' :: s => (false, s)
  | '-' :: s => (true, s)
  | s => (false, s)

/-- Decimal digits of an integer: no zero in front of others. -/
def wholeDigits? : Reader (List Char)
  | '0' :: s => some (['0'], s)
  | s => underscored? 10 s

/-- An exponent after its letter. -/
def exponent? : Reader Int := fun s => do
  let (negative, s) := sign s
  let (ds, s) ← underscored? 10 s
  let n : Int := Nat.ofDigitChars 10 ds 0
  return (if negative then -n else n, s)

/-- An integer of 64 bits. -/
def integer? (n : Int) : Option Value :=
  if -Int.pow 2 63 ≤ n && n < Int.pow 2 63 then some (.integer n) else none

/-- A decimal number as a double. Beyond the range of doubles only negative numbers are accepted. -/
def float? (negative : Bool) (digits : List Char) (e : Int) : Option Value :=
  let x := Decimal.nearest (Nat.ofDigitChars 10 digits 0) e
  if negative then some (.float (-x)) else if x.isInf then none else some (.float x)

/-- A number without a prefix for its base. -/
def decimal? : Reader Value := fun s => do
  let (negative, s) := sign s
  match s with
  | 'i' :: 'n' :: 'f' :: s => return (.float (if negative then -1.0 / 0.0 else 1.0 / 0.0), s)
  | 'n' :: 'a' :: 'n' :: s => return (.float (0.0 / 0.0), s)
  | _ =>
    let (whole, s) ← wholeDigits? s
    let withExponent (digits : List Char) (places : Nat) (s : List Char) := do
      let (e, s) ← exponent? s
      return (← float? negative digits (e - places), s)
    match s with
    | '.' :: s => do
      let (fraction, s) ← underscored? 10 s
      let digits := whole ++ fraction
      match s with
      | 'e' :: s => withExponent digits fraction.length s
      | 'E' :: s => withExponent digits fraction.length s
      | s => return (← float? negative digits (-fraction.length), s)
    | 'e' :: s => withExponent whole 0 s
    | 'E' :: s => withExponent whole 0 s
    | s =>
      let n : Int := Nat.ofDigitChars 10 whole 0
      return (← integer? (if negative then -n else n), s)

/-- An integer after the prefix for its base. -/
def based? (base : Nat) : Reader Value := fun s => do
  let (ds, s) ← underscored? base s
  return (← integer? (← valueOfDigits? base 0 ds), s)

/-- A number. -/
def number? : Reader Value
  | '0' :: 'x' :: s => based? 16 s
  | '0' :: 'o' :: s => based? 8 s
  | '0' :: 'b' :: s => based? 2 s
  | s => decimal? s

/-! ## Dates and times -/

/-- A number of exactly so many digits, between two bounds. -/
def fixed? (width least greatest : Nat) : Reader Nat := fun s => do
  let (n, s) ← Timestamp.takeNumber width s
  guard (least ≤ n && n ≤ greatest)
  return (n, s)

/-- A date. -/
def date? : Reader Date := fun s => do
  let (year, s) ← fixed? 4 0 9999 s
  let s ← Timestamp.takeChar ['-'] s
  let (month, s) ← fixed? 2 1 12 s
  let s ← Timestamp.takeChar ['-'] s
  let (day, s) ← fixed? 2 1 (Timestamp.daysInMonth year month) s
  return (⟨year, month, day⟩, s)

/-- A time of day; digits beyond the ninth of a fraction are dropped. -/
def time? : Reader Time := fun s => do
  let (hour, s) ← fixed? 2 0 23 s
  let s ← Timestamp.takeChar [':'] s
  let (minute, s) ← fixed? 2 0 59 s
  let s ← Timestamp.takeChar [':'] s
  let (second, s) ← fixed? 2 0 60 s
  let plain := (⟨hour, minute, second, 0⟩, s)
  match s with
  | '.' :: rest =>
    match rest.span Char.isDigit with
    | ([], _) => return plain
    | (ds, rest) =>
      let nanosecond := Nat.ofDigitChars 10 ((ds ++ List.replicate 9 '0').take 9) 0
      return (⟨hour, minute, second, nanosecond⟩, rest)
  | _ => return plain

/-- A zone. -/
def zone? : Reader Zone
  | 'Z' :: s => some (.utc, s)
  | 'z' :: s => some (.utc, s)
  | c :: s => do
    guard (c = '+' || c = '-')
    let (hour, s) ← fixed? 2 0 23 s
    let s ← Timestamp.takeChar [':'] s
    let (minute, s) ← fixed? 2 0 59 s
    let n : Int := hour * 60 + minute
    return (.minutes (if c = '-' then -n else n), s)
  | [] => none

/-- A date, a time, or both. -/
def dateTime? : Reader DateTime := fun s =>
  match date? s with
  | none => (time? s).map fun (t, s) => (⟨none, some t, none⟩, s)
  | some (d, s) =>
    match Timestamp.takeChar ['T', 't', ' '] s >>= time? with
    | none => some (⟨some d, none, none⟩, s)
    | some (t, s) =>
      match zone? s with
      | none => some (⟨some d, some t, none⟩, s)
      | some (z, s) => some (⟨some d, some t, some z⟩, s)

/-! ## Scalars -/

/-- A value that is neither an array nor a table. -/
def scalar? : Reader Value := fun s =>
  match s with
  | 't' :: 'r' :: 'u' :: 'e' :: s => some (.boolean true, s)
  | 'f' :: 'a' :: 'l' :: 's' :: 'e' :: s => some (.boolean false, s)
  | c :: _ =>
    if c = '"' || c = '\'' then (string? s).map fun (t, s) => (.string t, s)
    else match dateTime? s with
      | some (d, s) => some (.dateTime d, s)
      | none => number? s
  | [] => none

end ItemQuery.Toml
