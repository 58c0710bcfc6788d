import ServiceStubs.Proofs.Text.CodePoint
import ServiceStubs.Proofs.Text.Docstring
import ServiceStubs.Text.WideDocstring

/-!
# Docstrings without surrogates

The lines of a docstring are made of code points in the way they are made of characters: each step
of the making commutes with the step from characters to their code points.

## Main statements

* `WideText.docstringLines_ofString`: the lines of a text without surrogates
-/

namespace ServiceStubs

namespace WideText

open CodePoint (ofChar ofChar_injective)

theorem ofChar_beq (c d : Char) : (ofChar c == ofChar d) = (c == d) := by
  rw [Bool.eq_iff_iff, beq_iff_eq, beq_iff_eq, ofChar_injective.eq_iff]

theorem isBoundary_ofChar (c : Char) : isBoundary (ofChar c) = Text.isBoundary c := by
  simp [isBoundary]

/-- A code point is put in front of the first line, unless it ends a line or is the first half of a
boundary. -/
theorem lines_cons {p : CodePoint} {ps : List CodePoint}
    (h : ¬(p = ofChar '\r' ∧ ps.head? = some (ofChar '\n'))) :
    lines (p :: ps) = if isBoundary p then [] :: lines ps
      else match lines ps with
        | [] => [[p]]
        | line :: others => (p :: line) :: others := by
  cases ps with
  | nil =>
    simp only [lines]
    split <;> rfl
  | cons q rest =>
    have hpair : ¬(p == ofChar '\r' && q == ofChar '\n') = true := by simpa using h
    rw [lines]
    exact if_neg hpair

theorem lines_map (cs : List Char) :
    lines (cs.map ofChar) = (Text.lines cs).map (List.map ofChar) := by
  -- A carriage return with a line feed behind it is the only case of the characters that looks
  -- ahead.
  have hhead {c : Char} {rest : List Char} (hpair : ∀ rest', c = '\r' → rest = '\n' :: rest' → False) :
      ¬(ofChar c = ofChar '\r' ∧ (rest.map ofChar).head? = some (ofChar '\n')) := by
    rintro ⟨hc, hnext⟩
    rw [List.head?_map] at hnext
    obtain ⟨d, hd, heq⟩ := Option.map_eq_some_iff.1 hnext
    obtain ⟨rest', hrest⟩ := List.head?_eq_some_iff.1 hd
    exact hpair rest' (ofChar_injective hc) (by rw [hrest, ofChar_injective heq])
  fun_induction Text.lines cs with
  | case1 => rfl
  | case2 rest ih => simp [lines, ih]
  | case3 c rest hpair hc ih =>
    rw [List.map_cons, lines_cons (hhead hpair), isBoundary_ofChar, if_pos hc, ih]
    rfl
  | case4 c rest hpair hc hlines ih =>
    rw [List.map_cons, lines_cons (hhead hpair), isBoundary_ofChar, if_neg hc, ih, hlines]
    rfl
  | case5 c rest hpair hc line others hlines ih =>
    rw [List.map_cons, lines_cons (hhead hpair), isBoundary_ofChar, if_neg hc, ih, hlines]
    rfl

theorem doubleBackslashes_map (cs : List Char) :
    doubleBackslashes (cs.map ofChar) = (Text.doubleBackslashes cs).map ofChar := by
  simp only [doubleBackslashes, Text.doubleBackslashes, List.flatMap_map, List.map_flatMap, ofChar_beq]
  refine congrArg (List.flatMap · cs) (funext fun c => ?_)
  split
  case isTrue h => rw [beq_iff_eq.1 h, List.map_cons, List.map_cons, List.map_nil]
  case isFalse => rfl

theorem escaped_map (cs : List Char) :
    escaped (cs.map ofChar) = (cs.flatMap fun c => ['\\', c]).map ofChar := by
  simp only [escaped, List.flatMap_map, List.map_flatMap]
  rfl

theorem escapeTripledQuotes_map (cs : List Char) :
    escapeTripledQuotes (cs.map ofChar) = (Text.escapeTripledQuotes cs).map ofChar := by
  fun_induction Text.escapeTripledQuotes cs with
  | case1 => rfl
  | case2 rest ih => simp [escapeTripledQuotes, escaped, ih]
  | case3 c rest hquotes ih =>
    rcases rest with _ | ⟨d, _ | ⟨e, rest⟩⟩
    · rfl
    · rw [List.map_cons (l := Text.escapeTripledQuotes [d]), ← ih]
      rfl
    · have hne : ¬([ofChar c, ofChar d, ofChar e] == List.replicate 3 (ofChar '"')) = true := by
        intro h
        simp only [List.replicate, beq_iff_eq, List.cons.injEq, ofChar_injective.eq_iff] at h
        exact hquotes rest h.1 (by rw [h.2.1, h.2.2.1])
      simp only [List.map_cons] at ih ⊢
      rw [escapeTripledQuotes, if_neg hne, ih]

theorem docstringBody_map (cs : List Char) :
    docstringBody (cs.map ofChar) = (Text.docstringBody cs).map ofChar := by
  have hquotes (ds : List Char) : (ds.map ofChar).reverse.takeWhile (· == ofChar '"') =
      (ds.reverse.takeWhile (· == '"')).map ofChar := by
    rw [← List.map_reverse, List.takeWhile_map]
    simp only [Function.comp_def, ofChar_beq]
  simp only [docstringBody, Text.docstringBody, Text.splitFinalQuotes, doubleBackslashes_map, hquotes,
    List.length_map, ← List.map_take, escapeTripledQuotes_map, escaped_map, List.map_append]

/-- **The lines of a text without surrogates.** -/
theorem docstringLines_ofString (text : String) :
    docstringLines text = (Text.docstringLines text).map ofString := by
  have hpoints (s : String) : (ofString s).points = s.toList.map ofChar := rfl
  rw [docstringLines, Text.docstringLines, hpoints text, docstringBody_map, lines_map]
  rcases Text.lines (Text.docstringBody text.toList) with _ | ⟨first, _ | ⟨second, others⟩⟩
  · simp [ofString]
  · simp [ofString]
  · simp [ofString]

end WideText

end ServiceStubs
