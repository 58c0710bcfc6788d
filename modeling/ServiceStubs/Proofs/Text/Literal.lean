import Mathlib
import ServiceStubs.Code
import ServiceStubs.Proofs.Text.Docstring
import ServiceStubs.Token.Escape
import ServiceStubs.Token.Scanner

/-!
# The literal of a docstring

The lines of a docstring stand between tripled quotes, with backslashes and some quotes escaped and
with the margin of the place in front of all lines but the first. What the literal stands for is the
docstring with that margin, and one more line that holds nothing else.

Escaping looks at the docstring as a whole, the margin is put in front of lines. So what is escaped
(`Text.Escaped`) is described together with the text behind it: a quote may stand for itself if no
two quotes follow, and a line feed behind it is as good as any other character.

## Main definitions

* `Text.Escaped`: a text in a literal, and the text that it stands for
* `Text.literalText`: lines as they stand in a literal

## Main statements

* `Text.scanTripled_of_escaped`, `Text.unescape_of_escaped`: reading a literal
* `Text.escaped_docstringBody`: the escapes of a docstring
* `Text.escaped_literalText`: the lines of a docstring, escaped and with a margin
-/

namespace ServiceStubs

namespace Text

/-! ### Escapes -/

/-- Something else than a quote is the first or the second character. -/
def BreaksQuotes : List Char → Prop
  | [] => False
  | [c] => c ≠ '"'
  | c :: d :: _ => c ≠ '"' ∨ d ≠ '"'

/-- A text in a literal of tripled quotes with more of the literal behind it, and the text that it
stands for. A quote that stands for itself is neither the last character of the literal nor the
first of three quotes. -/
inductive Escaped (behind : List Char) : List Char → List Char → Prop
  | nil : Escaped behind [] []
  | plain {c : Char} {written value : List Char} (hbackslash : c ≠ '\\') (hquote : c ≠ '"')
    (h : Escaped behind written value) : Escaped behind (c :: written) (c :: value)
  | backslash {written value : List Char} (h : Escaped behind written value) :
    Escaped behind ('\\' :: '\\' :: written) ('\\' :: value)
  | quote {written value : List Char} (h : Escaped behind written value) :
    Escaped behind ('\\' :: '"' :: written) ('"' :: value)
  | bare {written value : List Char} (hbreaks : BreaksQuotes (written ++ behind))
    (h : Escaped behind written value) : Escaped behind ('"' :: written) ('"' :: value)

variable {written value written' value' behind cs rest margin : List Char}

theorem BreaksQuotes.of_ne {c : Char} (h : c ≠ '"') (cs : List Char) : BreaksQuotes (c :: cs) := by
  cases cs with
  | nil => exact h
  | cons d cs => exact .inl h

theorem BreaksQuotes.append (h : BreaksQuotes cs) (rest : List Char) : BreaksQuotes (cs ++ rest) := by
  match cs, h with
  | [c], h => exact .of_ne h rest
  | c :: d :: cs, h => exact h

/-- A line feed is as good as whatever broke the quotes apart. -/
theorem BreaksQuotes.lineFeed (h : BreaksQuotes (cs ++ behind)) (rest : List Char) :
    BreaksQuotes (cs ++ '\n' :: rest) := by
  match cs, h with
  | [], h => exact .of_ne (by decide) rest
  | [c], h => exact .inr (by decide)
  | c :: d :: cs, h => exact h

theorem BreaksQuotes.not_isPrefixOf (h : BreaksQuotes cs) :
    ['"', '"'].isPrefixOf cs = false := by
  match cs, h with
  | [c], h => simp [List.isPrefixOf]
  | c :: d :: cs, h => rcases h with h | h <;> simp [List.isPrefixOf, Ne.symm h]

/-- An escaped text is read up to the quotes that close the literal. -/
theorem scanTripled_of_escaped (h : Escaped [] written value) (rest : List Char) :
    Token.scanTripled '"' (written ++ '"' :: '"' :: '"' :: rest) = some (written, rest) := by
  induction h with
  | nil => rfl
  | plain hbackslash hquote h ih =>
    rw [List.cons_append, Token.scanTripled]
    · simp [hquote, ih]
    · simp [hbackslash]
  | backslash h ih => simp [Token.scanTripled, ih]
  | quote h ih => simp [Token.scanTripled, ih]
  | bare hbreaks h ih =>
    rw [List.append_nil] at hbreaks
    rw [List.cons_append, Token.scanTripled]
    · rw [(hbreaks.append _).not_isPrefixOf, Bool.and_false, if_neg Bool.false_ne_true, ih]
      rfl
    · simp

/-- Reading the escapes gives the text back. -/
theorem unescape_of_escaped (h : Escaped behind written value) :
    Token.unescape written = some value := by
  suffices hfuel : ∀ fuel, written.length ≤ fuel → Token.unescapeFrom fuel written = some value from
    hfuel _ le_rfl
  induction h with
  | nil =>
    intro fuel _
    cases fuel <;> rfl
  | plain hbackslash hquote h ih =>
    intro fuel hfuel
    obtain ⟨fuel, rfl⟩ : ∃ n, fuel = n + 1 := ⟨fuel - 1, by simp at hfuel; omega⟩
    rw [Token.unescapeFrom, if_neg (by simpa using hbackslash), ih fuel (by simpa using hfuel)]
    rfl
  | backslash h ih =>
    intro fuel hfuel
    obtain ⟨fuel, rfl⟩ : ∃ n, fuel = n + 1 := ⟨fuel - 1, by simp at hfuel; omega⟩
    have hrest := ih fuel (by simp at hfuel; omega)
    simp [Token.unescapeFrom, Token.escapeAt, Token.simpleEscape?, hrest]
  | quote h ih =>
    intro fuel hfuel
    obtain ⟨fuel, rfl⟩ : ∃ n, fuel = n + 1 := ⟨fuel - 1, by simp at hfuel; omega⟩
    have hrest := ih fuel (by simp at hfuel; omega)
    simp [Token.unescapeFrom, Token.escapeAt, Token.simpleEscape?, hrest]
  | bare hbreaks h ih =>
    intro fuel hfuel
    obtain ⟨fuel, rfl⟩ : ∃ n, fuel = n + 1 := ⟨fuel - 1, by simp at hfuel; omega⟩
    rw [Token.unescapeFrom, if_neg (by decide), ih fuel (by simpa using hfuel)]
    rfl

/-- Only backslashes are added. -/
theorem Escaped.mem (h : Escaped behind written value) {c : Char} (hc : c ∈ written) (hne : c ≠ '\\') :
    c ∈ value := by
  induction h with
  | nil => exact hc
  | plain hbackslash hquote h ih => exact List.mem_cons.2 ((List.mem_cons.1 hc).imp id ih)
  | backslash h ih =>
    simp only [List.mem_cons, hne, false_or] at hc
    exact List.mem_cons_of_mem _ (ih hc)
  | quote h ih =>
    simp only [List.mem_cons, hne, false_or] at hc
    exact List.mem_cons.2 (hc.imp id ih)
  | bare hbreaks h ih => exact List.mem_cons.2 ((List.mem_cons.1 hc).imp id ih)

theorem Escaped.getLast? (h : Escaped behind written value) : written.getLast? = value.getLast? := by
  induction h with
  | nil => rfl
  | plain hbackslash hquote h ih => rw [List.getLast?_cons, List.getLast?_cons, ih]
  | backslash h ih => rw [List.getLast?_cons_cons, List.getLast?_cons, List.getLast?_cons, ih]
  | quote h ih => rw [List.getLast?_cons_cons, List.getLast?_cons, List.getLast?_cons, ih]
  | bare hbreaks h ih => rw [List.getLast?_cons, List.getLast?_cons, ih]

/-- A text, and more behind a line feed. -/
theorem Escaped.append (h : Escaped ['\n'] written value)
    (h' : Escaped behind ('\n' :: written') ('\n' :: value')) :
    Escaped behind (written ++ '\n' :: written') (value ++ '\n' :: value') := by
  induction h with
  | nil => exact h'
  | plain hbackslash hquote h ih => exact .plain hbackslash hquote ih
  | backslash h ih => exact .backslash ih
  | quote h ih => exact .quote ih
  | bare hbreaks h ih =>
    refine .bare ?_ ih
    have := hbreaks.lineFeed (written' ++ behind)
    simpa using this

/-! ### The escapes of a docstring -/

theorem doubleBackslashes_cons (c : Char) (cs : List Char) :
    doubleBackslashes (c :: cs) = (if c == '\\' then ['\\', '\\'] else [c]) ++ doubleBackslashes cs :=
  List.flatMap_cons

theorem doubleBackslashes_append (cs rest : List Char) :
    doubleBackslashes (cs ++ rest) = doubleBackslashes cs ++ doubleBackslashes rest :=
  List.flatMap_append

/-- A text with its backslashes and its tripled quotes escaped. -/
def escapedForm (cs : List Char) : List Char := escapeTripledQuotes (doubleBackslashes cs)

theorem escapedForm_quotes (cs : List Char) : escapedForm ('"' :: '"' :: '"' :: cs) =
    '\\' :: '"' :: '\\' :: '"' :: '\\' :: '"' :: escapedForm cs := rfl

theorem escapedForm_backslash (cs : List Char) :
    escapedForm ('\\' :: cs) = '\\' :: '\\' :: escapedForm cs := by
  simp [escapedForm, doubleBackslashes_cons, escapeTripledQuotes]

theorem escapedForm_of_ne {c : Char} (hbackslash : c ≠ '\\') (hquote : c ≠ '"') (cs : List Char) :
    escapedForm (c :: cs) = c :: escapedForm cs := by
  rw [escapedForm, doubleBackslashes_cons, if_neg (by simpa using hbackslash), List.singleton_append,
    escapeTripledQuotes, escapedForm]
  simp [hquote]

/-- A quote that is not the first of three. -/
theorem escapedForm_bare (h : BreaksQuotes cs) : escapedForm ('"' :: cs) = '"' :: escapedForm cs := by
  rw [escapedForm, doubleBackslashes_cons, if_neg (by decide), List.singleton_append,
    escapeTripledQuotes, escapedForm]
  rintro rest - heq
  match cs, h with
  | [c], h =>
    rw [doubleBackslashes_cons] at heq
    split at heq <;> simp_all [doubleBackslashes]
  | c :: d :: cs, h =>
    rw [doubleBackslashes_cons, doubleBackslashes_cons] at heq
    by_cases hc : c = '\\'
    · simp [hc] at heq
    · rw [if_neg (by simpa using hc), List.singleton_append, List.cons.injEq] at heq
      obtain ⟨rfl, heq⟩ := heq
      by_cases hd : d = '\\'
      · simp [hd] at heq
      · rw [if_neg (by simpa using hd), List.singleton_append, List.cons.injEq] at heq
        obtain ⟨rfl, -⟩ := heq
        simp [BreaksQuotes] at h

/-- The escapes keep quotes apart. -/
theorem breaksQuotes_escapedForm (h : BreaksQuotes cs) : BreaksQuotes (escapedForm cs) := by
  match cs, h with
  | [c], h =>
    by_cases hc : c = '\\'
    · rw [hc, escapedForm_backslash]
      exact .inl (by decide)
    · rw [escapedForm_of_ne hc h]
      exact h
  | c :: d :: cs, h =>
    by_cases hc : c = '\\'
    · rw [hc, escapedForm_backslash]
      exact .inl (by decide)
    · by_cases hquote : c = '"'
      · have hd : d ≠ '"' := h.resolve_left (by simpa using hquote)
        rw [hquote, escapedForm_bare (.of_ne hd cs)]
        by_cases hd' : d = '\\'
        · rw [hd', escapedForm_backslash]
          exact .inr (by decide)
        · rw [escapedForm_of_ne hd' hd]
          exact .inr hd
      · rw [escapedForm_of_ne hc hquote]
        exact .of_ne hquote _

/-- Two quotes, something that breaks quotes apart, or at most one quote. -/
theorem quotes_cases (cs : List Char) : (∃ rest, cs = '"' :: '"' :: rest) ∨ BreaksQuotes cs ∨
    cs = [] ∨ cs = ['"'] := by
  match cs with
  | [] => simp
  | [c] =>
    by_cases hc : c = '"'
    · simp [hc]
    · exact .inr (.inl hc)
  | c :: d :: cs =>
    by_cases h : c = '"' ∧ d = '"'
    · obtain ⟨rfl, rfl⟩ := h
      exact .inl ⟨cs, rfl⟩
    · exact .inr (.inl (not_and_or.1 h))

theorem getLast?_of_cons {c d : Char} (h : (c :: cs).getLast? ≠ some d) : cs.getLast? ≠ some d := by
  cases cs with
  | nil => simp
  | cons e cs => rwa [List.getLast?_cons_cons] at h

/-- A text that does not end in a quote, escaped, and what follows it. -/
theorem escaped_escapedForm (hlast : cs.getLast? ≠ some '"') (h : Escaped [] written value) :
    Escaped [] (escapedForm cs ++ written) (cs ++ value) := by
  -- three quotes are escaped at once, so the induction is on the length
  induction hlength : cs.length using Nat.strong_induction_on generalizing cs with
  | _ n ih =>
    match cs, hlast with
    | [], _ => exact h
    | c :: cs, hlast =>
      have hcs : cs.getLast? ≠ some '"' := getLast?_of_cons hlast
      have hrest := ih cs.length (by simp at hlength; omega) hcs rfl
      by_cases hbackslash : c = '\\'
      · rw [hbackslash, escapedForm_backslash]
        exact .backslash hrest
      · by_cases hquote : c = '"'
        · subst hquote
          rcases quotes_cases cs with ⟨cs, rfl⟩ | hbreaks | rfl | rfl
          · rw [escapedForm_quotes]
            have hcs := getLast?_of_cons (getLast?_of_cons hcs)
            exact .quote (.quote (.quote (ih cs.length (by simp at hlength; omega) hcs rfl)))
          · rw [escapedForm_bare hbreaks]
            refine .bare ?_ hrest
            rw [List.append_nil]
            exact (breaksQuotes_escapedForm hbreaks).append written
          · simp at hlast
          · simp at hlast
        · rw [escapedForm_of_ne hbackslash hquote]
          exact .plain hbackslash hquote hrest

/-- Quotes, each of them escaped. -/
theorem escaped_finalQuotes (n : Nat) :
    Escaped behind ((List.replicate n '"').flatMap fun c => ['\\', c]) (List.replicate n '"') := by
  induction n with
  | zero => exact .nil
  | succ n ih =>
    rw [List.replicate_succ, List.flatMap_cons]
    exact .quote ih

theorem exists_finalQuotes (cs : List Char) :
    ∃ body n, cs = body ++ List.replicate n '"' ∧ body.getLast? ≠ some '"' := by
  induction cs using List.reverseRecOn with
  | nil => exact ⟨[], 0, rfl, by simp⟩
  | append_singleton cs c ih =>
    by_cases hc : c = '"'
    · obtain ⟨body, n, rfl, hbody⟩ := ih
      refine ⟨body, n + 1, ?_, hbody⟩
      rw [hc, List.replicate_succ', List.append_assoc]
    · exact ⟨cs ++ [c], 0, (List.append_nil _).symm, by simpa using hc⟩

theorem splitFinalQuotes_append (h : cs.getLast? ≠ some '"') (n : Nat) :
    splitFinalQuotes (cs ++ List.replicate n '"') = (cs, List.replicate n '"') := by
  have hnone : cs.reverse.takeWhile (· == '"') = [] := by
    rw [List.takeWhile_eq_nil_iff]
    intro hpos heq
    rw [List.getLast?_eq_head?_reverse, List.head?_eq_getElem?, List.getElem?_eq_getElem hpos] at h
    exact h (congrArg some (by simpa using heq))
  have hquotes : (cs ++ List.replicate n '"').reverse.takeWhile (· == '"') =
      List.replicate n '"' := by
    rw [List.reverse_append, List.reverse_replicate, List.takeWhile_append_of_pos (by simp), hnone,
      List.append_nil]
  rw [splitFinalQuotes, hquotes]
  simp

theorem getLast?_doubleBackslashes (h : cs.getLast? ≠ some '"') :
    (doubleBackslashes cs).getLast? ≠ some '"' := by
  induction cs using List.reverseRecOn with
  | nil => simp [doubleBackslashes]
  | append_singleton cs c ih =>
    rw [doubleBackslashes_append, doubleBackslashes_cons]
    by_cases hc : c = '\\'
    · simp [hc, doubleBackslashes]
    · simpa [hc, doubleBackslashes] using h

theorem doubleBackslashes_quotes (n : Nat) :
    doubleBackslashes (List.replicate n '"') = List.replicate n '"' :=
  doubleBackslashes_eq fun h => absurd (List.eq_of_mem_replicate h) (by decide)

/-- **What stands for a docstring between the quotes is the docstring, escaped.** -/
theorem escaped_docstringBody (cs : List Char) : Escaped [] (docstringBody cs) cs := by
  obtain ⟨body, n, rfl, hbody⟩ := exists_finalQuotes cs
  rw [docstringBody, doubleBackslashes_append, doubleBackslashes_quotes,
    splitFinalQuotes_append (getLast?_doubleBackslashes hbody)]
  exact escaped_escapedForm hbody (escaped_finalQuotes n)

/-! ### Lines -/

/-- The lines with a character in front of the first one. -/
def consLine (c : Char) : List (List Char) → List (List Char)
  | [] => [[c]]
  | line :: others => (c :: line) :: others

theorem lines_returnFeed (rest : List Char) : lines ('\r' :: '\n' :: rest) = [] :: lines rest := rfl

/-- A character that is not the first half of a newline. -/
theorem lines_cons {c : Char} {cs : List Char} (h : ¬(c = '\r' ∧ cs.head? = some '\n')) :
    lines (c :: cs) = if isBoundary c then [] :: lines cs else consLine c (lines cs) := by
  -- splitting the whole definition: its equations clause by clause are slow to derive
  rw [lines.eq_def]
  split
  · contradiction
  · next heq =>
    obtain ⟨rfl, rfl⟩ := List.cons_eq_cons.1 heq
    simp at h
  · next heq =>
    obtain ⟨rfl, rfl⟩ := List.cons_eq_cons.1 heq
    rfl

theorem lines_cons_of_not_isBoundary {c : Char} (h : isBoundary c = false) (rest : List Char) :
    lines (c :: rest) = consLine c (lines rest) := by
  have hreturn : c ≠ '\r' := by
    rintro rfl
    simp [isBoundary] at h
  rw [lines_cons fun hsplit => hreturn hsplit.1, h, if_neg Bool.false_ne_true]

theorem lines_lineFeed (rest : List Char) : lines ('\n' :: rest) = [] :: lines rest := by
  rw [lines_cons (by simp), if_pos (by decide)]

/-- A boundary ends a line. The line feed behind a carriage return is part of the boundary. -/
theorem lines_cons_of_isBoundary {c : Char} (h : isBoundary c = true) (rest : List Char) :
    lines (c :: rest) = [] ::
      if c = '\r' ∧ rest.head? = some '\n' then lines rest.tail else lines rest := by
  by_cases hjoined : c = '\r' ∧ rest.head? = some '\n'
  · obtain ⟨rfl, hhead⟩ := hjoined
    obtain ⟨rest, rfl⟩ : ∃ r, rest = '\n' :: r := ⟨rest.tail, List.eq_cons_of_mem_head? hhead⟩
    simp [lines_returnFeed]
  · rw [if_neg hjoined, lines_cons hjoined, if_pos h]

/-- Lines hold the characters of the text that are no boundaries. -/
theorem of_mem_lines {line : List Char} (h : line ∈ lines cs) {c : Char} (hc : c ∈ line) :
    isBoundary c = false ∧ c ∈ cs := by
  fun_induction lines cs generalizing line with
  | case1 => cases h
  | case2 rest ih =>
    rcases List.mem_cons.1 h with rfl | h
    · cases hc
    · exact (ih h hc).imp id fun hmem => List.mem_cons_of_mem _ (List.mem_cons_of_mem _ hmem)
  | case3 d rest _ hd ih =>
    rcases List.mem_cons.1 h with rfl | h
    · cases hc
    · exact (ih h hc).imp id (List.mem_cons_of_mem _)
  | case4 d rest _ hd hlines ih =>
    obtain rfl := List.mem_singleton.1 h
    obtain rfl := List.mem_singleton.1 hc
    exact ⟨by simpa using hd, List.mem_cons_self⟩
  | case5 d rest _ hd first others hlines ih =>
    rw [hlines] at ih
    rcases List.mem_cons.1 h with rfl | h
    · rcases List.mem_cons.1 hc with rfl | hc
      · exact ⟨by simpa using hd, List.mem_cons_self⟩
      · exact (ih List.mem_cons_self hc).imp id (List.mem_cons_of_mem _)
    · exact (ih (List.mem_cons_of_mem _ h) hc).imp id (List.mem_cons_of_mem _)

/-- A text starts with its first line. -/
theorem isPrefix_of_lines {first : List Char} {others : List (List Char)}
    (h : lines cs = first :: others) : first <+: cs := by
  induction cs generalizing first others with
  | nil => cases h
  | cons c cs ih =>
    cases hc : isBoundary c with
    | true =>
      rw [lines_cons_of_isBoundary hc] at h
      obtain ⟨rfl, -⟩ := List.cons.inj h
      exact List.nil_prefix
    | false =>
      rw [lines_cons_of_not_isBoundary hc] at h
      cases hlines : lines cs with
      | nil =>
        rw [hlines] at h
        obtain ⟨rfl, -⟩ := List.cons.inj h
        exact List.cons_prefix_cons.2 ⟨rfl, List.nil_prefix⟩
      | cons line others' =>
        rw [hlines] at h
        obtain ⟨rfl, -⟩ := List.cons.inj h
        exact List.cons_prefix_cons.2 ⟨rfl, ih hlines⟩

theorem Escaped.startsWith_lineFeed (h : Escaped behind written value) :
    written.head? = some '\n' ↔ value.head? = some '\n' := by
  cases h <;> simp

/-- A character in front of the first line, and what it stands for. -/
theorem forall₂_consLine {c d : Char} {ls ls' : List (List Char)}
    (h : List.Forall₂ (Escaped ['\n']) ls ls') (hnil : Escaped ['\n'] [c] [d])
    (hcons : ∀ l ∈ ls.head?, ∀ l', Escaped ['\n'] l l' → Escaped ['\n'] (c :: l) (d :: l')) :
    List.Forall₂ (Escaped ['\n']) (consLine c ls) (consLine d ls') := by
  cases h with
  | nil => exact .cons hnil .nil
  | cons hfirst hothers => exact .cons (hcons _ rfl _ hfirst) hothers

/-- The lines of an escaped text are the lines of the text, escaped. -/
theorem Escaped.lines (h : Escaped behind written value) :
    List.Forall₂ (Escaped ['\n']) (lines written) (lines value) := by
  have hbackslash {c : Char} {ls ls' : List (List Char)} (hc : c = '\\' ∨ c = '"')
      (hls : List.Forall₂ (Escaped ['\n']) ls ls') :
      List.Forall₂ (Escaped ['\n']) (consLine '\\' (consLine c ls)) (consLine c ls') := by
    rcases hc with rfl | rfl
    · cases hls with
      | nil => exact .cons (.backslash .nil) .nil
      | cons hfirst hothers => exact .cons (.backslash hfirst) hothers
    · cases hls with
      | nil => exact .cons (.quote .nil) .nil
      | cons hfirst hothers => exact .cons (.quote hfirst) hothers
  induction h with
  | nil => exact .nil
  | @plain c written value hne hquote h ih =>
    cases hc : isBoundary c with
    | true =>
      simp only [lines_cons_of_isBoundary hc, h.startsWith_lineFeed]
      refine .cons .nil ?_
      split
      · next hjoined =>
        obtain ⟨value, rfl⟩ : ∃ v, value = '\n' :: v := ⟨value.tail, List.eq_cons_of_mem_head? hjoined.2⟩
        obtain ⟨written, rfl⟩ : ∃ w, written = '\n' :: w :=
          ⟨written.tail, List.eq_cons_of_mem_head? (h.startsWith_lineFeed.2 rfl)⟩
        rw [lines_lineFeed, lines_lineFeed] at ih
        exact (List.forall₂_cons.1 ih).2
      · exact ih
    | false =>
      rw [lines_cons_of_not_isBoundary hc, lines_cons_of_not_isBoundary hc]
      exact forall₂_consLine ih (.plain hne hquote .nil) fun l _ l' hl => .plain hne hquote hl
  | backslash h ih =>
    rw [lines_cons_of_not_isBoundary rfl, lines_cons_of_not_isBoundary rfl,
      lines_cons_of_not_isBoundary rfl]
    exact hbackslash (.inl rfl) ih
  | quote h ih =>
    rw [lines_cons_of_not_isBoundary rfl, lines_cons_of_not_isBoundary rfl,
      lines_cons_of_not_isBoundary rfl]
    exact hbackslash (.inr rfl) ih
  | @bare written value hbreaks h ih =>
    rw [lines_cons_of_not_isBoundary rfl, lines_cons_of_not_isBoundary rfl]
    refine forall₂_consLine ih (.bare (.of_ne (by decide) _) .nil) fun l hl l' hl' => .bare ?_ hl'
    -- the quotes are broken within the line or by its end
    obtain ⟨others, hlines⟩ : ∃ others, Text.lines written = l :: others :=
      ⟨_, List.eq_cons_of_mem_head? hl⟩
    obtain ⟨rest, rfl⟩ := isPrefix_of_lines hlines
    rw [List.append_assoc] at hbreaks
    exact hbreaks.lineFeed []

/-! ### The literal -/

/-- The blanks in front of a line. -/
def blanks (width : Nat) : List Char := List.replicate width ' '

/-- A line behind a margin. An empty line stays empty. -/
def withMargin (width : Nat) (line : List Char) : List Char :=
  if line = [] then [] else blanks width ++ line

theorem withMargin_zero (line : List Char) : withMargin 0 line = line := by
  rw [withMargin]
  split
  · next h => exact h.symm
  · rfl

/-- The lines behind the first one as they stand in a literal, and a last line that holds the
margin. -/
def otherLines (width : Nat) : List (List Char) → List Char
  | [] => blanks width
  | line :: others => withMargin width line ++ '\n' :: otherLines width others

/-- Lines as they stand in a literal. If there are several, the last one holds the margin alone. -/
def literalText (width : Nat) : List (List Char) → List Char
  | [] => []
  | [line] => line
  | first :: others => first ++ '\n' :: otherLines width others

variable {width : Nat}

theorem Escaped.blanks_append (h : Escaped behind written value) (width : Nat) :
    Escaped behind (blanks width ++ written) (blanks width ++ value) := by
  induction width with
  | zero => exact h
  | succ width ih => exact .plain (by decide) (by decide) ih

theorem Escaped.withMargin (h : Escaped behind written value) (width : Nat) :
    Escaped behind (withMargin width written) (withMargin width value) := by
  rw [Text.withMargin, Text.withMargin]
  cases h with
  | nil => exact .nil
  | plain hbackslash hquote h => exact (Escaped.plain hbackslash hquote h).blanks_append width
  | backslash h => exact (Escaped.backslash h).blanks_append width
  | quote h => exact (Escaped.quote h).blanks_append width
  | bare hbreaks h => exact (Escaped.bare hbreaks h).blanks_append width

theorem escaped_otherLines {ls ls' : List (List Char)} (h : List.Forall₂ (Escaped ['\n']) ls ls')
    (width : Nat) : Escaped [] (otherLines width ls) (otherLines width ls') := by
  induction h with
  | nil =>
    have hblanks := (Escaped.nil : Escaped [] [] []).blanks_append width
    rwa [List.append_nil] at hblanks
  | cons hline hothers ih => exact (hline.withMargin width).append (.plain (by decide) (by decide) ih)

theorem lines_eq_nil (h : lines cs = []) : cs = [] := by
  cases cs with
  | nil => rfl
  | cons c cs =>
    cases hc : isBoundary c with
    | true => simp [lines_cons_of_isBoundary hc] at h
    | false =>
      rw [lines_cons_of_not_isBoundary hc] at h
      cases hrest : lines cs <;> simp [hrest, consLine] at h

/-- The text ends in the middle of a line. -/
def EndsInLine (cs : List Char) : Prop := ∀ c ∈ cs.getLast?, isBoundary c = false

instance (cs : List Char) : Decidable (EndsInLine cs) :=
  inferInstanceAs (Decidable (∀ c ∈ cs.getLast?, isBoundary c = false))

theorem EndsInLine.of_cons {c : Char} (h : EndsInLine (c :: cs)) : EndsInLine cs := by
  cases cs with
  | nil => simp [EndsInLine]
  | cons d cs =>
    rw [EndsInLine, List.getLast?_cons_cons] at h
    exact h

/-- A text of one line is that line. -/
theorem eq_of_lines_eq {line : List Char} (h : lines cs = [line]) (hlast : EndsInLine cs) :
    cs = line := by
  induction cs generalizing line with
  | nil => cases h
  | cons c cs ih =>
    cases hc : isBoundary c with
    | true =>
      rw [lines_cons_of_isBoundary hc, List.cons.injEq] at h
      exfalso
      split at h
      · next hjoined =>
        obtain ⟨rest, rfl⟩ : ∃ r, cs = '\n' :: r := ⟨cs.tail, List.eq_cons_of_mem_head? hjoined.2⟩
        obtain rfl : rest = [] := lines_eq_nil h.2
        exact absurd (hlast '\n' rfl) (by decide)
      · obtain rfl : cs = [] := lines_eq_nil h.2
        exact absurd (hlast c rfl) (by simp [hc])
    | false =>
      rw [lines_cons_of_not_isBoundary hc] at h
      cases hlines : lines cs with
      | nil =>
        rw [hlines, consLine, List.cons.injEq] at h
        rw [lines_eq_nil hlines, h.1]
      | cons l others =>
        rw [hlines, consLine, List.cons.injEq] at h
        rw [ih (hlines.trans (by rw [h.2])) hlast.of_cons, h.1]

/-- The quotes behind the literal of the text are not taken for its own: if boundaries end a text of
one line, no quote stands in front of them. -/
def Closes (cs : List Char) : Prop := ∀ line, lines cs = [line] → cs = line ∨ line.getLast? ≠ some '"'

theorem EndsInLine.closes (h : EndsInLine cs) : Closes cs := fun _ hline => .inl (eq_of_lines_eq hline h)

/-- The end of a line need not break quotes apart that are no quotes. -/
theorem Escaped.of_lineFeed (h : Escaped ['\n'] written value) (hlast : written.getLast? ≠ some '"') :
    Escaped [] written value := by
  induction h with
  | nil => exact .nil
  | plain hbackslash hquote h ih => exact .plain hbackslash hquote (ih (getLast?_of_cons hlast))
  | backslash h ih => exact .backslash (ih (getLast?_of_cons (getLast?_of_cons hlast)))
  | quote h ih => exact .quote (ih (getLast?_of_cons (getLast?_of_cons hlast)))
  | @bare written value hbreaks h ih =>
    refine .bare ?_ (ih (getLast?_of_cons hlast))
    match written, hbreaks, hlast with
    | [], _, hlast => exact absurd rfl hlast
    | [c], _, hlast => exact fun hc => hlast (by rw [hc]; rfl)
    | c :: d :: written, hbreaks, _ => exact hbreaks

/-- **The literal of a docstring stands for its lines with a margin.** -/
theorem escaped_literalText (hcloses : Closes cs) (width : Nat) :
    Escaped [] (literalText width (lines (docstringBody cs))) (literalText width (lines cs)) := by
  have hbody := escaped_docstringBody cs
  have hlines := hbody.lines
  cases hwritten : lines (docstringBody cs) with
  | nil =>
    rw [hwritten, List.forall₂_nil_left_iff] at hlines
    rw [hlines]
    exact .nil
  | cons line others =>
    rw [hwritten] at hlines
    obtain ⟨line', others', hline, hothers, hvalue⟩ := List.forall₂_cons_left_iff.1 hlines
    rw [hvalue]
    cases hothers with
    | nil =>
      rw [literalText, literalText]
      rcases hcloses line' hvalue with rfl | hlast
      · have hlast : EndsInLine (docstringBody cs) := fun c hc => by
          rw [hbody.getLast?] at hc
          exact (of_mem_lines (hvalue ▸ List.mem_cons_self) (List.mem_of_mem_getLast? hc)).1
        rw [← eq_of_lines_eq hwritten hlast]
        exact hbody
      · exact hline.of_lineFeed (by rwa [hline.getLast?])
    | cons hsecond hothers =>
      exact hline.append
        (.plain (by decide) (by decide) (escaped_otherLines (.cons hsecond hothers) width))

end Text

/-! ### Lines of code -/

namespace Code

open Text

/-- Lines of code as they stand in a source at an indentation. -/
def text (width : Nat) (ls : List String) : List Char :=
  ls.flatMap fun line => withMargin width line.toList ++ ['\n']

theorem text_append (width : Nat) (ls ls' : List String) :
    text width (ls ++ ls') = text width ls ++ text width ls' :=
  List.flatMap_append

theorem text_cons (width : Nat) (line : String) (ls : List String) :
    text width (line :: ls) = withMargin width line.toList ++ '\n' :: text width ls := by
  rw [text, List.flatMap_cons, List.append_assoc]
  rfl

@[simp] theorem text_nil (width : Nat) : text width [] = [] := rfl

theorem toList_indentation : indentation.toList = blanks 4 := rfl

/-- Indented lines stand further to the right. -/
theorem text_indent (width : Nat) (ls : List String) : text width (indent ls) = text (width + 4) ls := by
  rw [text, text, indent, List.flatMap_map]
  refine congrArg (ls.flatMap ·) (funext fun line => congrArg (· ++ ['\n']) ?_)
  by_cases hline : line = ""
  · subst hline
    rfl
  · have hne : line.toList ≠ [] := by simpa using hline
    have hempty : line.isEmpty = false := by simpa using hline
    rw [hempty, if_neg Bool.false_ne_true, String.toList_append, toList_indentation, withMargin,
      withMargin, if_neg (by simp [hne]), if_neg hne, ← List.append_assoc, blanks, blanks, blanks,
      List.replicate_append_replicate]

/-- The lines behind the first one, up to the quotes that close the literal. -/
theorem text_otherLines (width : Nat) (ls : List (List Char)) :
    text width (ls.map String.ofList ++ ["\"\"\""]) =
      otherLines width ls ++ ['"', '"', '"', '\n'] := by
  induction ls with
  | nil => simp [text, withMargin, otherLines]
  | cons line ls ih =>
    rw [List.map_cons, List.cons_append, text_cons, ih, String.toList_ofList, otherLines,
      List.append_assoc, List.cons_append]

/-- **The lines of a docstring are one literal.** -/
theorem text_docstringLines (width : Nat) (docstring : String) :
    text width (docstringLines docstring) = blanks width ++ ['"', '"', '"'] ++
      literalText width (lines (docstringBody docstring.toList)) ++ ['"', '"', '"', '\n'] := by
  cases hlines : lines (docstringBody docstring.toList) with
  | nil => simp [docstringLines, hlines, text, withMargin, literalText]
  | cons line others =>
    cases others with
    | nil => simp [docstringLines, hlines, text, withMargin, literalText]
    | cons second others =>
      have hothers := text_otherLines width (second :: others)
      rw [List.map_cons] at hothers
      rw [docstringLines, hlines, List.map_cons, List.map_cons]
      dsimp only
      rw [List.cons_append, text_cons, hothers, literalText]
      · simp [withMargin]
      · simp

end Code

end ServiceStubs
