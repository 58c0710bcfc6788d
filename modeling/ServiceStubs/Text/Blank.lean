/-!
# Blank characters

The characters that count as white space when the indentation of a line is measured or when a
text is stripped. The set is that of the Unicode property, together with the four information
separators.
-/

namespace ServiceStubs

namespace Text

/-- White space of a text. -/
def isBlank (c : Char) : Bool :=
  let n := c.toNat
  (9 ≤ n && n ≤ 13) || (28 ≤ n && n ≤ 32) || n == 0x85 || n == 0xa0 || n == 0x1680 ||
    (0x2000 ≤ n && n ≤ 0x200a) || n == 0x2028 || n == 0x2029 || n == 0x202f || n == 0x205f ||
    n == 0x3000

/-- The text without the blanks in front. -/
def trimStart (cs : List Char) : List Char :=
  cs.dropWhile isBlank

/-- The blanks in front of a text. -/
def indentOf (cs : List Char) : List Char :=
  cs.takeWhile isBlank

end Text

end ServiceStubs
