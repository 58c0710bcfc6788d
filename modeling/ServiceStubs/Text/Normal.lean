import ServiceStubs.Text.Composition

/-!
# Normal forms

Texts that differ in how their characters are composed are one identifier. The normal form of a text
takes every character apart into those that it stands for, orders the marks behind each letter by
their classes, and puts letters and marks together again as far as there are characters for them.
This is the normal form of Unicode that disregards how characters look (NFKC).

## Main definitions

* `Text.normalForm`: the normal form of a text
-/

namespace ServiceStubs

namespace Text

/-- The characters that those of a text stand for. -/
def takeApart (cs : List Char) : List Char := cs.flatMap fun c => (standsFor? c).getD [c]

/-- The text taken apart as far as that goes. What a character stands for may stand for others, but
no character is composed of more than a letter and three marks. -/
def decompose (cs : List Char) : List Char := takeApart (takeApart (takeApart cs))

/-- A mark stands behind those of a lower class. A letter stays where it is. -/
def insertMark (c : Char) : List Char → List Char
  | [] => [c]
  | d :: ds =>
    if 0 < combiningClass d && combiningClass d < combiningClass c then d :: insertMark c ds
    else c :: d :: ds

/-- The text with its marks in order. -/
def orderMarks (cs : List Char) : List Char := cs.foldr insertMark []

/-- The text behind a letter and the marks that could not be joined to it. A mark is joined to the
letter unless there is one between them that is not of a lower class. -/
def composeBehind (letter : Char) (marks : List Char) : List Char → List Char
  | [] => letter :: marks
  | c :: rest =>
    let isNext := marks.all fun mark => combiningClass mark < combiningClass c
    match if isNext then composed? letter c else none with
    | some whole => composeBehind whole marks rest
    | none =>
      if combiningClass c == 0 then letter :: marks ++ composeBehind c [] rest
      else composeBehind letter (marks ++ [c]) rest

/-- The text with marks joined to the letters in front of them. -/
def compose : List Char → List Char
  | [] => []
  | c :: rest => if combiningClass c == 0 then composeBehind c [] rest else c :: compose rest

/-- Whether the character is one of ASCII. -/
def isAscii (c : Char) : Bool := c.toNat < 128

/-- The normal form of a text. -/
def normalForm (cs : List Char) : List Char :=
  if cs.all isAscii then cs else compose (orderMarks (decompose cs))

end Text

end ServiceStubs
