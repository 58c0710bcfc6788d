/-!
# Lines of a text

A text is cut into lines in two ways. The reader of a module counts *newlines*: a line feed, a
carriage return, or the two together. The text itself is cut at every *boundary*, which also
takes in the vertical tab, the form feed, the three information separators, the next-line control
and the two Unicode separators. A module is read by the first convention and edited by the second,
so both are needed side by side.

## Main definitions

* `Text.isBoundary`, `Text.lines`: cutting at every boundary
* `Text.withLineFeeds`: every newline written as a single line feed
* `Text.joinLines`: the text of a list of lines, one separator between two of them
-/

namespace ServiceStubs

namespace Text

/-- The characters that end a line of a text. -/
def isBoundary (c : Char) : Bool :=
  c == '\n' || c == '\r' || c == '\x0b' || c == '\x0c' ||
    c == '\x1c' || c == '\x1d' || c == '\x1e' || c == '\u0085' || c == '\u2028' || c == '\u2029'

/-- The lines of a text, boundaries left out. A carriage return and the line feed after it are
one boundary, and a text that ends in a boundary has no empty line after it. -/
def lines : List Char → List (List Char)
  | [] => []
  | '\r' :: '\n' :: rest => [] :: lines rest
  | c :: rest =>
    if isBoundary c then [] :: lines rest
    else match lines rest with
      | [] => [[c]]
      | line :: others => (c :: line) :: others

/-- The lines of a string. -/
def splitLines (text : String) : List String :=
  (lines text.toList).map String.ofList

/-- Every newline, however it is written, as a single line feed. -/
def withLineFeeds : List Char → List Char
  | [] => []
  | '\r' :: '\n' :: rest => '\n' :: withLineFeeds rest
  | c :: rest => (if c == '\r' then '\n' else c) :: withLineFeeds rest

/-- The pieces of a text between occurrences of one separator. There is always at least one. -/
def splitAt (separator : Char) : List Char → List (List Char)
  | [] => [[]]
  | c :: rest =>
    if c == separator then [] :: splitAt separator rest
    else match splitAt separator rest with
      | [] => [[c]]
      | piece :: others => (c :: piece) :: others

/-- The lines joined by line feeds. -/
def joinLines (ls : List String) : String :=
  String.intercalate "\n" ls

@[simp] theorem lines_nil : lines [] = [] := rfl

@[simp] theorem withLineFeeds_nil : withLineFeeds [] = [] := rfl

theorem splitAt_ne_nil (separator : Char) (cs : List Char) : splitAt separator cs ≠ [] := by
  cases cs with
  | nil => simp [splitAt]
  | cons c rest =>
    simp only [splitAt]
    split
    · simp
    · split <;> simp

end Text

end ServiceStubs
