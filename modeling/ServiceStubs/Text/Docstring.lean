import ServiceStubs.Text.Lines
import ServiceStubs.Text.Blank

/-!
# Docstrings

A docstring is read without the indentation of its place in the source, and written as a literal in
tripled quotes at another place.

Reading expands tabs, removes the margin that all lines but the first share, and drops empty lines
at both ends. Writing escapes backslashes, tripled quotes and quotes at the end, so that the literal
closes where it should.

## Main definitions

* `Text.cleanDocstring`: the docstring without indentation
* `Text.docstringLines`: the lines of the literal
-/

namespace ServiceStubs

namespace Text

/-! ## Reading -/

/-- Tabs replaced by blanks up to the next multiple of eight columns, from the given column on. -/
def expandTabs (column : Nat) : List Char → List Char
  | [] => []
  | c :: rest =>
    if c == '\t' then
      let width := 8 - column % 8
      List.replicate width ' ' ++ expandTabs (column + width) rest
    else c :: expandTabs (if c == '\n' || c == '\r' then 0 else column + 1) rest

/-- The width of the blanks that all lines with something on them start with. -/
def commonMargin (ls : List (List Char)) : Option Nat :=
  ((ls.filter fun l => !(trimStart l).isEmpty).map fun l => (indentOf l).length).min?

/-- The lines without the empty ones at both ends. -/
def trimEmptyLines (ls : List (List Char)) : List (List Char) :=
  ((ls.reverse.dropWhile List.isEmpty).reverse).dropWhile List.isEmpty

/-- The lines of a docstring, indentation removed. -/
def unindented : List (List Char) → List (List Char)
  | [] => []
  | first :: others =>
    let margin := (commonMargin others).getD 0
    trimStart first :: others.map (·.drop margin)

/-- The docstring without indentation. -/
def cleanDocstring (text : String) : String :=
  String.intercalate "\n"
    ((trimEmptyLines (unindented (splitAt '\n' (expandTabs 0 text.toList)))).map String.ofList)

/-! ## Writing -/

/-- Every backslash doubled. -/
def doubleBackslashes (cs : List Char) : List Char :=
  cs.flatMap fun c => if c == '\\' then ['\\', '\\'] else [c]

/-- Every three quotes in a row escaped. -/
def escapeTripledQuotes : List Char → List Char
  | [] => []
  | '"' :: '"' :: '"' :: rest =>
    '\\' :: '"' :: '\\' :: '"' :: '\\' :: '"' :: escapeTripledQuotes rest
  | c :: rest => c :: escapeTripledQuotes rest

/-- The text without the quotes at its end, and those quotes. -/
def splitFinalQuotes (cs : List Char) : List Char × List Char :=
  let quotes := (cs.reverse.takeWhile (· == '"'))
  (cs.take (cs.length - quotes.length), quotes)

/-- The text as it stands between tripled quotes. -/
def docstringBody (cs : List Char) : List Char :=
  let (body, quotes) := splitFinalQuotes (doubleBackslashes cs)
  escapeTripledQuotes body ++ quotes.flatMap fun c => ['\\', c]

/-- The lines of the literal of a docstring. Of a text with several lines, the closing quotes stand
on a line of their own. -/
def docstringLines (text : String) : List String :=
  match (lines (docstringBody text.toList)).map String.ofList with
  | [] => ["\"\"\"\"\"\""]
  | [line] => ["\"\"\"" ++ line ++ "\"\"\""]
  | first :: others => ("\"\"\"" ++ first) :: others ++ ["\"\"\""]

example : cleanDocstring "  a\n    b\n   c\n  " = "a\n b\nc" := by decide +kernel

end Text

end ServiceStubs
