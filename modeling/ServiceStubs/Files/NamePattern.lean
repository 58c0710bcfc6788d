/-!
# Patterns of file names

In a pattern a star stands for any text, a question mark for any character, and brackets for one of
the characters they list. An exclamation mark behind the opening bracket turns the list around. A
bracket that is never closed stands for itself.

## Main definitions

* `NamePattern.Piece`: what the parts of a pattern stand for
* `NamePattern.ofText`: the pieces of a pattern
* `NamePattern.fits`: whether a name fits a pattern
-/

namespace ServiceStubs

namespace NamePattern

/-- What a part of a pattern stands for. -/
inductive Piece
  /-- Any text. -/
  | anyText
  /-- Any one character. -/
  | anyChar
  | char (c : Char)
  /-- A character in one of the ranges, or in none of them if the list is turned around. -/
  | listed (isTurned : Bool) (ranges : List (Char × Char))
  deriving DecidableEq, Repr

/-- The ranges of a list of characters. A hyphen between two characters makes a range of them, and a
range that runs backwards holds nothing. -/
def rangesOf : List Char → List (Char × Char)
  | [] => []
  | low :: '-' :: high :: rest =>
    if low ≤ high then (low, high) :: rangesOf rest else rangesOf rest
  | c :: rest => (c, c) :: rangesOf rest

/-- A list without the backward ranges at its start, which do not count. -/
def dropBackward : List Char → List Char
  | '!' :: rest => '!' :: rest
  | low :: '-' :: high :: rest =>
    if low ≤ high then low :: '-' :: high :: rest else dropBackward rest
  | cs => cs

/-- The piece of a list in brackets. -/
def listPiece (list : List Char) : Piece :=
  match dropBackward list with
  | '!' :: chars => .listed true (rangesOf chars)
  | chars => .listed false (rangesOf chars)

/-- The marks at the start of a list that cannot close it: the one that turns it around and a
closing bracket in first place. -/
def listHead : List Char → List Char
  | '!' :: ']' :: _ => ['!', ']']
  | '!' :: _ => ['!']
  | ']' :: _ => [']']
  | _ => []

/-- The list in brackets at the front of a text behind the opening bracket, and the text behind the
closing one. -/
def bracketed (cs : List Char) : Option (List Char × List Char) :=
  let head := listHead cs
  let body := (cs.drop head.length).takeWhile (· != ']')
  match cs.drop (head.length + body.length) with
  | [] => none
  | _ :: rest => some (head ++ body, rest)

theorem bracketed_length {cs list rest : List Char} (h : bracketed cs = some (list, rest)) :
    rest.length < cs.length := by
  simp only [bracketed] at h
  split at h
  · simp at h
  · rename_i e
    have length := congrArg List.length e
    simp only [Option.some.injEq, Prod.mk.injEq] at h
    simp only [List.length_drop, h.2, List.length_cons] at length
    omega

/-- The pieces of a pattern. -/
def piecesOf : List Char → List Piece
  | [] => []
  | '*' :: rest => .anyText :: piecesOf rest
  | '?' :: rest => .anyChar :: piecesOf rest
  | '[' :: rest =>
    match _ : bracketed rest with
    | some (list, after) => listPiece list :: piecesOf after
    | none => .char '[' :: piecesOf rest
  | c :: rest => .char c :: piecesOf rest
termination_by cs => cs.length
decreasing_by
  all_goals simp_wf
  all_goals first
    | omega
    | (have length := bracketed_length ‹bracketed _ = some _›; omega)

/-- The pieces of a pattern. -/
def ofText (pattern : String) : List Piece := piecesOf pattern.toList

/-- Whether a piece stands for a character. -/
def Piece.accepts (c : Char) : Piece → Bool
  | anyText | anyChar => true
  | char d => c == d
  | listed isTurned ranges => (ranges.any fun r => r.1 ≤ c && c ≤ r.2) != isTurned

/-- Whether the pieces stand for the whole of a text. -/
def stand : List Piece → List Char → Bool
  | [], cs => cs.isEmpty
  | .anyText :: ps, cs => (List.range (cs.length + 1)).any fun n => stand ps (cs.drop n)
  | _ :: _, [] => false
  | p :: ps, c :: cs => p.accepts c && stand ps cs

/-- Whether a name fits a pattern. -/
def fits (pattern name : String) : Bool := stand (ofText pattern) name.toList

/-- Whether a text is more than the name it spells. -/
def isPattern (text : String) : Bool := text.toList.any fun c => c == '*' || c == '?' || c == '['

end NamePattern

end ServiceStubs
