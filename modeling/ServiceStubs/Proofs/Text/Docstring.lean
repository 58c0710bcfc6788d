import Mathlib.Data.List.Basic
import ServiceStubs.Text.Docstring
import ServiceStubs.Text.Identifier

/-!
# Docstrings of one line

A text without quotes, backslashes and line breaks needs no escapes and no second line.

## Main statements

* `Text.docstringLines_eq`: the literal of such a text
-/

namespace ServiceStubs

namespace Text

/-- A character that stands in a literal as it is, on the same line. -/
def isQuiet (c : Char) : Bool := c != '\\' && c != '"' && !isBoundary c

theorem lines_eq {cs : List Char} (h : ∀ c ∈ cs, isBoundary c = false) (hne : cs ≠ []) :
    lines cs = [cs] := by
  fun_induction lines cs with
  | case1 => exact absurd rfl hne
  | case2 rest ih =>
    have hreturn := h '\r' (by simp)
    simp [isBoundary] at hreturn
  | case3 c rest _ hc ih => simp [h c (by simp)] at hc
  | case4 c rest _ _ hlines ih =>
    have hrest : rest = [] := by
      by_contra hne
      rw [ih (fun d hd => h d (by simp [hd])) hne] at hlines
      cases hlines
    rw [hrest]
  | case5 c rest _ _ line others hlines ih =>
    have hrest : rest ≠ [] := by
      rintro rfl
      cases hlines
    rw [ih (fun d hd => h d (by simp [hd])) hrest] at hlines
    obtain ⟨rfl, rfl⟩ := List.cons.inj hlines
    rfl

theorem escapeTripledQuotes_eq {cs : List Char} (h : '"' ∉ cs) : escapeTripledQuotes cs = cs := by
  fun_induction escapeTripledQuotes cs with
  | case1 => rfl
  | case2 => simp at h
  | case3 c rest _ ih => rw [ih fun hquote => h (List.mem_cons_of_mem c hquote)]

theorem doubleBackslashes_eq {cs : List Char} (h : '\\' ∉ cs) : doubleBackslashes cs = cs := by
  induction cs with
  | nil => rfl
  | cons c rest ih =>
    have hc : (c == '\\') = false := by
      simp only [List.mem_cons, not_or] at h
      simpa using Ne.symm h.1
    have hrest : doubleBackslashes rest = rest := ih (by simp_all)
    rw [doubleBackslashes, List.flatMap_cons, hc, ← doubleBackslashes, hrest]
    rfl

theorem splitFinalQuotes_eq {cs : List Char} (h : '"' ∉ cs) : splitFinalQuotes cs = (cs, []) := by
  have hnone : cs.reverse.takeWhile (· == '"') = [] := by
    cases hr : cs.reverse with
    | nil => rfl
    | cons c rest =>
      have hc : c ∈ cs := List.mem_reverse.mp (by simp [hr])
      have hne : c ≠ '"' := by
        rintro rfl
        exact h hc
      simp [hne]
  simp [splitFinalQuotes, hnone]

/-- **A docstring of one line.** -/
theorem docstringLines_eq {text : String} (h : ∀ c ∈ text.toList, isQuiet c = true)
    (hne : text ≠ "") : docstringLines text = ["\"\"\"" ++ text ++ "\"\"\""] := by
  have hquiet : ∀ c ∈ text.toList, c ≠ '\\' ∧ c ≠ '"' ∧ isBoundary c = false := by
    intro c hc
    simpa [isQuiet, and_assoc] using h c hc
  have hquote : '"' ∉ text.toList := fun hc => (hquiet _ hc).2.1 rfl
  have hbody : docstringBody text.toList = text.toList := by
    rw [docstringBody, doubleBackslashes_eq fun hc => (hquiet _ hc).1 rfl, splitFinalQuotes_eq hquote]
    simp [escapeTripledQuotes_eq hquote]
  rw [docstringLines, hbody, lines_eq (fun c hc => (hquiet c hc).2.2) (by simpa using hne)]
  simp

end Text

end ServiceStubs
