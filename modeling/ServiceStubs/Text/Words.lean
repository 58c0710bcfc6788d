/-!
# Words of an identifier

An identifier is read as a sequence of words: `sayHello` as `say Hello`, `HTTPServer2` as
`HTTP Server2`. Only ASCII letters and digits belong to words; every other character separates
them. Inside a run of letters and digits a new word starts

* at a letter after a digit,
* at a capital after a small letter,
* at the last capital of a run of capitals when a small letter follows it.

Digits stick to the word before them.

## Main definitions

* `Text.words`: the words of an identifier
* `Text.snakeCase`, `Text.shoutyCase`: the words joined by underscores, in small letters or in
  capitals
-/

namespace ServiceStubs

namespace Text

/-- The characters that words consist of. -/
def isWordChar (c : Char) : Bool := c.isLower || c.isUpper || c.isDigit

/-- Whether a word ends after `c`, when the letter or digit `d` follows and `after` comes next. -/
def breaksBetween (c d : Char) (after : List Char) : Bool :=
  (c.isDigit && !d.isDigit) || (c.isLower && d.isUpper) ||
    (c.isUpper && d.isUpper && (after.head?.map Char.isLower).getD false)

/-- Whether the character `c` and the start of `rest` belong to one word. -/
def joinsWith (c : Char) : List Char → Bool
  | [] => false
  | d :: after => isWordChar d && !breaksBetween c d after

/-- The words of an identifier, in order of appearance. -/
def words : List Char → List (List Char)
  | [] => []
  | c :: rest =>
    if isWordChar c then
      match words rest with
      | [] => [[c]]
      | w :: ws => if joinsWith c rest then (c :: w) :: ws else [c] :: w :: ws
    else words rest

/-- The words of an identifier as strings. -/
def splitWords (name : String) : List String :=
  (words name.toList).map String.ofList

/-- The words in small letters, joined by underscores. -/
def snakeCase (name : String) : String :=
  String.intercalate "_" ((words name.toList).map fun w => String.ofList (w.map Char.toLower))

/-- The words in capitals, joined by underscores. -/
def shoutyCase (name : String) : String :=
  String.intercalate "_" ((words name.toList).map fun w => String.ofList (w.map Char.toUpper))

example : splitWords "HTTPServer2_x" = ["HTTP", "Server2", "x"] := by decide +kernel

end Text

end ServiceStubs
