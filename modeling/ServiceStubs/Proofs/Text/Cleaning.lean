import ServiceStubs.Proofs.Text.Literal
import ServiceStubs.Proofs.Text.Pieces

/-!
# Cleaning a docstring twice

A docstring is cleaned when it is read, and what its literal stands for is cleaned once more. The
second cleaning takes away the margin of the literal and its last line. It takes away more if it
finds more: the blanks in front of the first line, and those that all other lines share. So a
docstring lasts if its first line and, unless that is the only one, another line start without
blanks.

## Main definitions

* `Text.IsTrimmed`: the lines of a docstring that was cleaned
* `Text.Lasts`: a docstring that stays as it is when it is read back

## Main statements

* `Text.exists_trimmed`: cleaning trims
* `Text.cleanDocstring_literalText`: cleaning the literal of a docstring that lasts
-/

namespace ServiceStubs

namespace Text

variable {cs line first : List Char} {ls others : List (List Char)} {width : Nat}

/-! ### Tabs -/

theorem tab_notMem_expandTabs (column : Nat) (cs : List Char) : '\t' ∉ expandTabs column cs := by
  induction cs generalizing column with
  | nil => simp [expandTabs]
  | cons c cs ih =>
    rw [expandTabs]
    split
    · simp [ih]
    · next hc => simp [ih, Ne.symm (by simpa using hc : c ≠ '\t')]

theorem expandTabs_eq (h : '\t' ∉ cs) (column : Nat) : expandTabs column cs = cs := by
  induction cs generalizing column with
  | nil => rfl
  | cons c cs ih =>
    simp only [List.mem_cons, not_or] at h
    rw [expandTabs, if_neg (by simpa using Ne.symm h.1), ih h.2]

/-! ### Trimmed lines -/

/-- The lines of a docstring that was cleaned. -/
structure IsTrimmed (ls : List (List Char)) : Prop where
  lineFeed : ∀ l ∈ ls, '\n' ∉ l
  tab : ∀ l ∈ ls, '\t' ∉ l
  first : ∀ l ∈ ls.head?, l ≠ []
  last : ∀ l ∈ ls.getLast?, l ≠ []

theorem getLast?_ne_of_reverse_dropWhile (ls : List (List Char)) :
    ∀ l ∈ (ls.reverse.dropWhile List.isEmpty).reverse.getLast?, l ≠ [] := by
  intro l hl
  rw [List.getLast?_reverse] at hl
  have := List.head?_dropWhile_not List.isEmpty ls.reverse
  rw [Option.mem_def.1 hl] at this
  simpa using this

theorem trimEmptyLines_first (ls : List (List Char)) : ∀ l ∈ (trimEmptyLines ls).head?, l ≠ [] := by
  intro l hl
  have := List.head?_dropWhile_not List.isEmpty (ls.reverse.dropWhile List.isEmpty).reverse
  rw [trimEmptyLines] at hl
  rw [Option.mem_def.1 hl] at this
  simpa using this

theorem trimEmptyLines_last (ls : List (List Char)) : ∀ l ∈ (trimEmptyLines ls).getLast?, l ≠ [] := by
  intro l hl
  refine getLast?_ne_of_reverse_dropWhile ls l ?_
  -- what is dropped from the front does not reach the last line
  obtain ⟨dropped, hdropped⟩ :=
    List.dropWhile_suffix List.isEmpty (l := (ls.reverse.dropWhile List.isEmpty).reverse)
  rw [← hdropped]
  rw [trimEmptyLines] at hl
  rw [List.getLast?_append, Option.mem_def.1 hl]
  rfl

theorem mem_of_mem_trimEmptyLines (h : line ∈ trimEmptyLines ls) : line ∈ ls := by
  have h := (List.dropWhile_sublist _).subset h
  rw [List.mem_reverse] at h
  exact List.mem_reverse.1 ((List.dropWhile_sublist _).subset h)

/-- Every line comes from one with perhaps more in front. -/
theorem exists_suffix_of_mem_unindented (h : line ∈ unindented ls) : ∃ l ∈ ls, line <:+ l := by
  cases ls with
  | nil => cases h
  | cons first others =>
    rcases List.mem_cons.1 h with rfl | h
    · exact ⟨first, List.mem_cons_self, List.dropWhile_suffix _⟩
    · obtain ⟨l, hl, rfl⟩ := List.mem_map.1 h
      exact ⟨l, List.mem_cons_of_mem _ hl, List.drop_suffix _ _⟩

/-- **Cleaning trims.** -/
theorem exists_trimmed (text : String) :
    ∃ ls, IsTrimmed ls ∧ (cleanDocstring text).toList = ['\n'].intercalate ls := by
  refine ⟨trimEmptyLines (unindented (splitAt '\n' (expandTabs 0 text.toList))), ⟨fun l hl => ?_,
    fun l hl => ?_, trimEmptyLines_first _, trimEmptyLines_last _⟩, ?_⟩
  · obtain ⟨piece, hpiece, hl⟩ := exists_suffix_of_mem_unindented (mem_of_mem_trimEmptyLines hl)
    exact fun h => (mem_of_mem_splitAt hpiece).1 (hl.subset h)
  · obtain ⟨piece, hpiece, hl⟩ := exists_suffix_of_mem_unindented (mem_of_mem_trimEmptyLines hl)
    exact fun h => tab_notMem_expandTabs 0 text.toList ((mem_of_mem_splitAt hpiece).2 _ (hl.subset h))
  · rw [cleanDocstring, String.toList_intercalate, List.map_map]
    simp [Function.comp_def]

/-- The docstring that is nothing but trimmed lines keeps them. -/
theorem trimEmptyLines_append_nil (h : IsTrimmed ls) : trimEmptyLines (ls ++ [[]]) = ls ∧
    trimEmptyLines ls = ls := by
  have hlast : ls.reverse.dropWhile List.isEmpty = ls.reverse := by
    rw [List.dropWhile_eq_self_iff]
    intro hpos hempty
    refine h.last ls.reverse[0] ?_ (by simpa using hempty)
    rw [List.getLast?_eq_head?_reverse, List.head?_eq_getElem?, List.getElem?_eq_getElem hpos]
    rfl
  have hfirst : ls.dropWhile List.isEmpty = ls := by
    rw [List.dropWhile_eq_self_iff]
    intro hpos hempty
    refine h.first ls[0] ?_ (by simpa using hempty)
    rw [List.head?_eq_getElem?, List.getElem?_eq_getElem hpos]
    rfl
  constructor
  · rw [trimEmptyLines, List.reverse_append, List.reverse_singleton, List.singleton_append,
      List.dropWhile_cons_of_pos rfl, hlast, List.reverse_reverse, hfirst]
  · rw [trimEmptyLines, hlast, List.reverse_reverse, hfirst]

/-! ### Flush lines -/

/-- The line starts with something that is no blank. -/
def IsFlush (line : List Char) : Prop := line.head?.any (!isBlank ·) = true

instance (line : List Char) : Decidable (IsFlush line) :=
  inferInstanceAs (Decidable (line.head?.any (!isBlank ·) = true))

theorem trimStart_of_isFlush (h : IsFlush line) : trimStart line = line := by
  cases line with
  | nil => rfl
  | cons c cs =>
    have hc : isBlank c = false := by simpa [IsFlush] using h
    rw [trimStart, List.dropWhile_cons_of_neg (by simp [hc])]

theorem indentOf_of_isFlush (h : IsFlush line) : indentOf line = [] := by
  cases line with
  | nil => rfl
  | cons c cs =>
    have hc : isBlank c = false := by simpa [IsFlush] using h
    rw [indentOf, List.takeWhile_cons_of_neg (by simp [hc])]

/-- The first of the lines and, if there are others, one of them start with no blank. -/
def AreFlush : List (List Char) → Prop
  | [] => True
  | first :: others => IsFlush first ∧ (others = [] ∨ ∃ line ∈ others, IsFlush line)

instance : (ls : List (List Char)) → Decidable (AreFlush ls)
  | [] => .isTrue trivial
  | first :: others =>
    inferInstanceAs (Decidable (IsFlush first ∧ (others = [] ∨ ∃ line ∈ others, IsFlush line)))

theorem isBlank_of_mem_blanks {c : Char} (h : c ∈ blanks width) : isBlank c = true := by
  obtain rfl := List.eq_of_mem_replicate h
  rfl

theorem trimStart_withMargin (line : List Char) :
    trimStart (withMargin width line) = trimStart line := by
  rw [withMargin]
  split
  · next h => rw [h]
  · exact List.dropWhile_append_of_pos fun _ => isBlank_of_mem_blanks

theorem indentOf_withMargin (hline : line ≠ []) :
    (indentOf (withMargin width line)).length = width + (indentOf line).length := by
  rw [withMargin, if_neg hline, indentOf, List.takeWhile_append_of_pos fun _ => isBlank_of_mem_blanks,
    List.length_append, blanks, List.length_replicate, indentOf]

theorem drop_withMargin (line : List Char) : (withMargin width line).drop width = line := by
  rw [withMargin]
  split
  · next h => simp [h]
  · exact List.drop_left' (by simp [blanks])

/-- With a flush line among them, lines share the margin that they are given. -/
theorem commonMargin_withMargin (h : ∃ line ∈ others, IsFlush line) :
    commonMargin (others.map (withMargin width) ++ [blanks width]) = some width := by
  rw [commonMargin, List.min?_eq_some_iff]
  constructor
  · obtain ⟨line, hline, hflush⟩ := h
    have hne : line ≠ [] := by
      rintro rfl
      cases hflush
    refine List.mem_map.2 ⟨withMargin width line, List.mem_filter.2 ⟨?_, ?_⟩, ?_⟩
    · exact List.mem_append_left _ (List.mem_map_of_mem hline)
    · simpa [trimStart_withMargin, trimStart_of_isFlush hflush] using hne
    · rw [indentOf_withMargin hne, indentOf_of_isFlush hflush, List.length_nil, Nat.add_zero]
  · intro b hb
    obtain ⟨l, hl, rfl⟩ := List.mem_map.1 hb
    obtain ⟨hmem, hvisible⟩ := List.mem_filter.1 hl
    rcases List.mem_append.1 hmem with hmem | hmem
    · obtain ⟨line, -, rfl⟩ := List.mem_map.1 hmem
      have hne : line ≠ [] := by
        rintro rfl
        simp [withMargin, trimStart] at hvisible
      rw [indentOf_withMargin hne]
      exact Nat.le_add_right _ _
    · obtain rfl := List.mem_singleton.1 hmem
      have hblank : trimStart (blanks width) = [] :=
        List.dropWhile_eq_nil_iff.2 fun _ => isBlank_of_mem_blanks
      simp [hblank] at hvisible

/-! ### Cleaning twice -/

theorem otherLines_eq (width : Nat) (others : List (List Char)) :
    otherLines width others = ['\n'].intercalate (others.map (withMargin width) ++ [blanks width]) := by
  induction others with
  | nil => simp [otherLines, List.intercalate]
  | cons line others ih =>
    rw [otherLines, ih, List.map_cons, List.cons_append]
    cases others with
    | nil => simp [List.intercalate]
    | cons second others =>
      rw [List.map_cons, List.cons_append, List.intercalate_cons_cons]
      simp

/-- The second cleaning gives back flush lines that the first one trimmed. -/
theorem cleanDocstring_of_areFlush (hls : IsTrimmed ls) (hflush : AreFlush ls) (width : Nat) :
    (cleanDocstring (String.ofList (literalText width ls))).toList = ['\n'].intercalate ls := by
  match ls, hls, hflush with
  | [], _, _ => exact congrArg String.toList (show cleanDocstring "" = "" by decide +kernel)
  | [line], hls, hflush =>
    have htab : '\t' ∉ line := hls.tab line List.mem_cons_self
    have hpieces := splitAt_intercalate hls.lineFeed (by simp)
    rw [List.intercalate_singleton] at hpieces
    rw [cleanDocstring, String.toList_ofList, literalText, expandTabs_eq htab, hpieces, unindented,
      trimStart_of_isFlush hflush.1, List.map_nil, (trimEmptyLines_append_nil hls).2]
    simp
  | first :: second :: others, hls, hflush =>
    obtain ⟨hfirst, hothers⟩ := hflush
    have hothers : ∃ line ∈ second :: others, IsFlush line := hothers.resolve_left (by simp)
    -- what the literal stands for, line by line
    have hvalue : literalText width (first :: second :: others) =
        ['\n'].intercalate (first :: ((second :: others).map (withMargin width) ++ [blanks width])) := by
      rw [literalText, otherLines_eq, List.map_cons, List.cons_append, List.intercalate_cons_cons]
      · simp
      · simp
    have hmem {c : Char} (hc : c ≠ ' ') (h : ∀ l ∈ first :: second :: others, c ∉ l) :
        ∀ l ∈ first :: ((second :: others).map (withMargin width) ++ [blanks width]), c ∉ l := by
      have hblanks : c ∉ blanks width := fun hc' => hc (List.eq_of_mem_replicate hc')
      intro l hl
      rcases List.mem_cons.1 hl with rfl | hl
      · exact h l List.mem_cons_self
      · rcases List.mem_append.1 hl with hl | hl
        · obtain ⟨line, hline, rfl⟩ := List.mem_map.1 hl
          have hline := h line (List.mem_cons_of_mem first hline)
          rw [withMargin]
          split
          · simp
          · simp [hblanks, hline]
        · rwa [List.mem_singleton.1 hl]
    have htab : '\t' ∉ literalText width (first :: second :: others) := by
      intro htab
      rw [hvalue] at htab
      rcases mem_intercalate htab with htab | ⟨l, hl, htab⟩
      · exact absurd (List.mem_singleton.1 htab) (by decide)
      · exact hmem (by decide) hls.tab l hl htab
    rw [cleanDocstring, String.toList_ofList, expandTabs_eq htab, hvalue,
      splitAt_intercalate (hmem (by decide) hls.lineFeed) (by simp), unindented,
      commonMargin_withMargin hothers, Option.getD_some, trimStart_of_isFlush hfirst, List.map_append,
      List.map_map]
    have hdrop : (second :: others).map ((·.drop width) ∘ withMargin width) = second :: others := by
      simp [Function.comp_def, drop_withMargin]
    have hlast : (blanks width).drop width = [] := by simp [blanks]
    rw [hdrop, List.map_singleton, hlast, ← List.cons_append, (trimEmptyLines_append_nil hls).1]
    simp

/-! ### Docstrings that last -/

-- below it stands for the lines of a docstring, which are not to be computed to see what it says
attribute [irreducible] AreFlush

theorem lines_append_lineFeed (h : ∀ c ∈ line, isBoundary c = false) (rest : List Char) :
    lines (line ++ '\n' :: rest) = line :: lines rest := by
  induction line with
  | nil => exact lines_lineFeed rest
  | cons c line ih =>
    rw [List.forall_mem_cons] at h
    rw [List.cons_append, lines_cons_of_not_isBoundary h.1, ih h.2, consLine]

theorem lines_intercalate (h : ∀ l ∈ ls, ∀ c ∈ l, isBoundary c = false)
    (hlast : ∀ l ∈ ls.getLast?, l ≠ []) : lines (['\n'].intercalate ls) = ls := by
  induction ls with
  | nil => rfl
  | cons line others ih =>
    rw [List.forall_mem_cons] at h
    cases others with
    | nil =>
      rw [List.intercalate_singleton]
      exact lines_eq h.1 (hlast line rfl)
    | cons second others =>
      rw [List.intercalate_cons_cons, List.append_assoc, List.singleton_append,
        lines_append_lineFeed h.1, ih h.2 (by rwa [List.getLast?_cons_cons] at hlast)]

/-- A docstring that stays as it is when its literal is read: it can stand in a source, all its
lines end in line feeds, and they are flush. -/
structure Lasts (docstring : String) : Prop where
  null : '\x00' ∉ docstring.toList
  lineFeeds : ∀ c ∈ docstring.toList, isBoundary c = true → c = '\n'
  flush : AreFlush (lines docstring.toList)

instance (docstring : String) : Decidable (Lasts docstring) :=
  decidable_of_iff ('\x00' ∉ docstring.toList ∧
      (docstring.toList.all fun c => !isBoundary c || c == '\n') = true ∧
        AreFlush (lines docstring.toList))
    ⟨fun h => ⟨h.1, by simpa [imp_iff_not_or] using h.2.1, h.2.2⟩,
      fun h => ⟨h.1, by simpa [imp_iff_not_or] using h.2, h.3⟩⟩

/-- The lines of a docstring that was cleaned, if it has line feeds only. -/
theorem exists_trimmed_lines (text : String)
    (h : ∀ c ∈ (cleanDocstring text).toList, isBoundary c = true → c = '\n') :
    IsTrimmed (lines (cleanDocstring text).toList) ∧
      (cleanDocstring text).toList = ['\n'].intercalate (lines (cleanDocstring text).toList) := by
  obtain ⟨ls, hls, htext⟩ := exists_trimmed text
  have hlines : lines (cleanDocstring text).toList = ls := by
    rw [htext]
    refine lines_intercalate (fun l hl c hc => ?_) hls.last
    by_contra hboundary
    have hmem : c ∈ (cleanDocstring text).toList := htext ▸ mem_intercalate_of_mem hl hc _
    obtain rfl := h c hmem (by simpa using hboundary)
    exact hls.lineFeed l hl hc
  rw [hlines]
  exact ⟨hls, htext⟩

/-- **A docstring that lasts is read back from its literal.** -/
theorem cleanDocstring_literalText {text docstring : String} (hclean : cleanDocstring text = docstring)
    (h : Lasts docstring) (width : Nat) :
    cleanDocstring (String.ofList (literalText width (lines docstring.toList))) = docstring := by
  subst hclean
  obtain ⟨htrimmed, htext⟩ := exists_trimmed_lines text h.lineFeeds
  have := cleanDocstring_of_areFlush htrimmed h.flush width
  rw [← htext] at this
  exact String.toList_inj.1 this

end Text

end ServiceStubs
