/-!
# `Command.Style` — lines for a terminal

Lines for people are set off by colours, which are always written; results for programs are never styled.

## Contents
- `bold`, `dimmed`, `coloured`: styled texts. A style put around a styled text encloses it.
- `header`, `section`, `pair`, `alignedPair`, `footnote`: lines of a listing.
- `note`, `failure`: lines beside the result.
-/

namespace ItemQuery.Command.Style

/-- A text between two control sequences. -/
def between (start stop : Nat) (text : String) : String :=
  "\x1b[" ++ start.repr ++ "m" ++ text ++ "\x1b[" ++ stop.repr ++ "m"

/-- A text in bold. -/
def bold (text : String) : String := between 1 0 text

/-- A text in a faint shade. -/
def dimmed (text : String) : String := between 2 0 text

/-- The colours of a terminal. -/
inductive Colour where
  | red
  | green
  | blue
  | cyan
  | white
  deriving DecidableEq, Repr

/-- The number of a colour in control sequences. -/
def Colour.code : Colour → Nat
  | red => 31
  | green => 32
  | blue => 34
  | cyan => 36
  | white => 37

/-- A text in a colour. -/
def coloured (c : Colour) (text : String) : String := between c.code 39 text

/-- A line. -/
def line (text : String) : String := text ++ "\n"

/-! ## Listings -/

/-- The title of a listing, underlined, with an empty line on either side. -/
def header (title : String) : String :=
  line "" ++ line (coloured .cyan (bold title)) ++
    line (dimmed (String.ofList (List.replicate title.length '─'))) ++ line ""

/-- The title of a part. -/
def sectionTitle (title : String) : String := line (coloured .white (bold title))

/-- A name and what it stands for. -/
def pair (name value : String) : String := line ("  " ++ dimmed name ++ ": " ++ value)

/-- A name filled up to a width, and what it stands for. -/
def alignedPair (width : Nat) (name value : String) : String :=
  line ("  " ++ name ++ String.ofList (List.replicate (width - name.length) ' ') ++ "  " ++
    coloured .green value)

/-- A line that is not part of the listing. -/
def footnote (text : String) : String := line (dimmed text)

/-! ## Beside the result -/

/-- What happened. -/
def note (text : String) : String := line (bold (coloured .blue "ℹ") ++ " " ++ text)

/-- What went wrong, and what to do about it. -/
def failure (message : String) (help : Option String) : String :=
  line (bold (coloured .red "✖") ++ " " ++ coloured .red message) ++
    match help with
    | some help => line ("  help: " ++ help)
    | none => ""

end ItemQuery.Command.Style
