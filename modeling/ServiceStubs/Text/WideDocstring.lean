import ServiceStubs.Text.CodePoint
import ServiceStubs.Text.Lines

/-!
# Docstrings with surrogates

The lines of a docstring can be asked for with any text, also one with surrogates. A surrogate needs
no escape and ends no line, so it stands in the literal as it is.

## Main definitions

* `WideText.docstringLines`: the lines of the literal
-/

namespace ServiceStubs

namespace WideText

open CodePoint (ofChar)

/-- Whether a code point ends a line of a text. -/
def isBoundary (p : CodePoint) : Bool := p.char?.any Text.isBoundary

/-- The lines of a text, boundaries left out. -/
def lines : List CodePoint → List (List CodePoint)
  | [] => []
  | [p] => [if isBoundary p then [] else [p]]
  | p :: q :: rest =>
    if p == ofChar '\r' && q == ofChar '\n' then [] :: lines rest
    else if isBoundary p then [] :: lines (q :: rest)
    else match lines (q :: rest) with
      | [] => [[p]]
      | line :: others => (p :: line) :: others

/-- Every backslash doubled. -/
def doubleBackslashes (ps : List CodePoint) : List CodePoint :=
  ps.flatMap fun p => if p == ofChar '\\' then [p, p] else [p]

/-- Code points with a backslash in front of each. -/
def escaped (ps : List CodePoint) : List CodePoint := ps.flatMap fun p => [ofChar '\\', p]

/-- Every three quotes in a row escaped. -/
def escapeTripledQuotes : List CodePoint → List CodePoint
  | p :: q :: r :: rest =>
    if [p, q, r] == List.replicate 3 (ofChar '"') then escaped [p, q, r] ++ escapeTripledQuotes rest
    else p :: escapeTripledQuotes (q :: r :: rest)
  | ps => ps

/-- The text as it stands between tripled quotes. -/
def docstringBody (ps : List CodePoint) : List CodePoint :=
  let doubled := doubleBackslashes ps
  let quotes := doubled.reverse.takeWhile (· == ofChar '"')
  escapeTripledQuotes (doubled.take (doubled.length - quotes.length)) ++ escaped quotes

/-- The lines of the literal of a docstring. -/
def docstringLines (text : WideText) : List WideText :=
  let quotes := (ofString "\"\"\"").points
  match lines (docstringBody text.points) with
  | [] => [⟨quotes ++ quotes⟩]
  | [line] => [⟨quotes ++ line ++ quotes⟩]
  | first :: others => ⟨quotes ++ first⟩ :: others.map mk ++ [⟨quotes⟩]

/-- The lines joined by line feeds. -/
def joinLines (ls : List WideText) : WideText :=
  ⟨[ofChar '\n'].intercalate (ls.map points)⟩

end WideText

end ServiceStubs
