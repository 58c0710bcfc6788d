import ServiceStubs.Proofs.Grammar.Definitions
import ServiceStubs.Proofs.Text.WideDocstring

/-!
# Docstrings as literals

The lines that are written for a docstring are one literal and nothing else: it opens with the first
character and closes with the last one, whatever quotes and backslashes stand in the docstring and
wherever its lines end. The literal stands for the lines of the docstring. If there are several, the
closing quotes have a line of their own, so one more newline belongs to the text.

A docstring that ends in a boundary is not covered: the quotes at the end of its only line are not
escaped, and the literal may close too early. Nor is one with a surrogate, which stands in its lines
as it is: no source holds such lines.

## Main definitions

* `Text.docstringValue`: what the literal of a docstring stands for

## Main statements

* `Grammar.docstringLines_literal`: the lines of a docstring, read
* `Grammar.docstringLines_surrogate`: the lines of a docstring that no source holds
-/

namespace ServiceStubs

namespace Text

/-- What the literal of a docstring stands for: its lines, and a newline behind them if there are
several. -/
def docstringValue (docstring : String) : String :=
  joinLines (splitLines docstring) ++ if 1 < (splitLines docstring).length then "\n" else ""

/-- Lines without a margin stand in a literal as they are. -/
theorem literalText_zero (ls : List (List Char)) :
    literalText 0 ls = ['\n'].intercalate ls ++ if 1 < ls.length then ['\n'] else [] := by
  have hothers (line : List Char) (ls : List (List Char)) :
      otherLines 0 (line :: ls) = ['\n'].intercalate (line :: ls) ++ ['\n'] := by
    induction ls generalizing line with
    | nil => simp [otherLines, withMargin_zero, blanks]
    | cons second ls ih =>
      rw [otherLines, withMargin_zero, ih, List.intercalate_cons_cons]
      simp
  cases ls with
  | nil => rfl
  | cons first ls =>
    cases ls with
    | nil => simp [literalText]
    | cons second ls =>
      rw [literalText, hothers, List.intercalate_cons_cons]
      · simp
      · simp

theorem toList_docstringValue (docstring : String) :
    (docstringValue docstring).toList = literalText 0 (lines docstring.toList) := by
  have hlines : (splitLines docstring).map String.toList = lines docstring.toList := by
    simp [splitLines, List.map_map, Function.comp_def]
  have hlength : (splitLines docstring).length = (lines docstring.toList).length := List.length_map _
  rw [docstringValue, String.toList_append, joinLines, String.toList_intercalate, hlines, hlength,
    literalText_zero]
  split <;> rfl

theorem docstringLines_ne_nil (docstring : String) : docstringLines docstring ≠ [] := by
  unfold docstringLines
  split <;> simp

/-- The lines of a docstring are its escaped lines between quotes. -/
theorem toList_joinLines_docstringLines (docstring : String) :
    (joinLines (docstringLines docstring)).toList =
      ['"', '"', '"'] ++ literalText 0 (lines (docstringBody docstring.toList)) ++ ['"', '"', '"'] := by
  have hended := Grammar.toList_joinLines (docstringLines_ne_nil docstring)
  rw [Code.text_docstringLines, String.toList_append] at hended
  have hends : ['"', '"', '"', '\n'] = ['"', '"', '"'] ++ "\n".toList := rfl
  rw [hends, ← List.append_assoc] at hended
  exact List.append_cancel_right hended

end Text

namespace Grammar

open ServiceStubs.Tree Token

/-- **The lines of a docstring are one literal.** The lines of a text without surrogates have none
themselves. The literal takes them all, up to the last character, and they are a text of one
statement, which is what the literal stands for: the lines of the docstring, and a newline behind
them if there are several. -/
theorem docstringLines_literal {docstring : String} (hnull : '\x00' ∉ docstring.toList)
    (hlast : Text.EndsInLine docstring.toList) :
    WideText.docstringLines docstring = (Text.docstringLines docstring).map WideText.ofString ∧
    ∃ body s, scanLexeme (Text.joinLines (Text.docstringLines docstring)).toList =
        some ⟨.string ⟨false, false, false, false, body⟩,
          (Text.joinLines (Text.docstringLines docstring)).toList, []⟩ ∧
      unescape body = some (Text.docstringValue docstring).toList ∧
      readModule (Text.joinLines (Text.docstringLines docstring)).toList = .ok [s] ∧
      s.node = .expression (.constant (.text (Text.docstringValue docstring) false)) := by
  have hescaped := Text.escaped_literalText hlast.closes 0
  have hsource := Text.toList_joinLines_docstringLines docstring
  have hended : endLastLine (Text.joinLines (Text.docstringLines docstring)).toList =
      Code.text 0 (Text.docstringLines docstring) := by
    rw [← toList_joinLines (Text.docstringLines_ne_nil docstring), String.toList_append, endLastLine,
      if_neg (by rw [hsource, List.getLast?_append]; simp)]
    rfl
  obtain ⟨s, hread, hs⟩ := readModule_of_ended hended (stands_docstring hnull hlast.closes) (by decide)
  have hlexeme := scanLexeme_docstring hescaped []
  refine ⟨WideText.docstringLines_ofString docstring,
    Text.literalText 0 (Text.lines (Text.docstringBody docstring.toList)), s, ?_, ?_, hread, ?_⟩
  · rw [hsource]
    simpa using hlexeme
  · rw [Text.toList_docstringValue]
    exact Text.unescape_of_escaped hescaped
  · rw [hs, ← Text.toList_docstringValue, String.ofList_toList]

/-- Quotes and backslashes at both ends of the docstring and of its lines. -/
def thornyDocstring : String := "\"\\\"\"\"\"\n\"\"\r\n\\\u2028a\"\"\"\\\""

theorem docstringLines_literal_thorny : '\x00' ∉ thornyDocstring.toList ∧
    Text.EndsInLine thornyDocstring.toList ∧
    WideText.docstringLines thornyDocstring =
      (Text.docstringLines thornyDocstring).map WideText.ofString ∧ ∃ body s,
      scanLexeme (Text.joinLines (Text.docstringLines thornyDocstring)).toList =
        some ⟨.string ⟨false, false, false, false, body⟩,
          (Text.joinLines (Text.docstringLines thornyDocstring)).toList, []⟩ ∧
      unescape body = some "\"\\\"\"\"\"\n\"\"\n\\\na\"\"\"\\\"\n".toList ∧
      readModule (Text.joinLines (Text.docstringLines thornyDocstring)).toList = .ok [s] ∧
      s.node = .expression (.constant (.text "\"\\\"\"\"\"\n\"\"\n\\\na\"\"\"\\\"\n" false)) := by
  have hchars : thornyDocstring.toList = _ := String.toList_ofList
  have hnull : '\x00' ∉ thornyDocstring.toList := by
    rw [hchars]
    decide +kernel
  have hlast : Text.EndsInLine thornyDocstring.toList := by
    rw [hchars]
    rintro c ⟨⟩
    rfl
  have hvalue : Text.docstringValue thornyDocstring = "\"\\\"\"\"\"\n\"\"\n\\\na\"\"\"\\\"\n" := by
    rw [← String.ofList_toList (s := Text.docstringValue thornyDocstring),
      Text.toList_docstringValue, hchars]
    decide +kernel
  have hliteral := docstringLines_literal hnull hlast
  rw [hvalue] at hliteral
  exact ⟨hnull, hlast, hliteral⟩

/-- The first half of a surrogate pair, alone. -/
def loneSurrogate : WideText := ⟨[0xd800]⟩

/-- **No source holds the lines of a surrogate**: a source has characters only. -/
theorem docstringLines_surrogate : ¬ ∀ docstring : WideText,
    CodePoint.ofChar '\x00' ∉ docstring.points →
    (∀ p, docstring.points.getLast? = some p → WideText.isBoundary p = false) →
    ∃ source : String, (source : WideText) = WideText.joinLines (WideText.docstringLines docstring) := by
  intro hclaim
  obtain ⟨source, hsource⟩ := hclaim loneSurrogate (by decide) (by rintro p ⟨⟩; rfl)
  have hlines : (WideText.joinLines (WideText.docstringLines loneSurrogate)).toString? = none := by
    decide +kernel
  rw [← hsource, WideText.toString?_ofString] at hlines
  cases hlines

end Grammar

end ServiceStubs
