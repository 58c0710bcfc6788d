import Mathlib
import ServiceStubs.Proofs.Text.Characters
import ServiceStubs.Proofs.Text.Literal
import ServiceStubs.Proofs.Token.Names
import ServiceStubs.Token.Scanner

/-!
# Scanning generated code

A text is scanned piece by piece, the last piece first: if what follows a piece is cut into some
tokens, then the piece and what follows it are cut into the tokens of the piece and those. Where a
piece could go on, as a name or a sign can, something is required of the text behind it.

Places of tokens are left out: what a text is cut into does not depend on where it stands.

## Main definitions

* `Token.Layout`: what the scanner knows between two tokens, without the place
* `Token.Yields`: a text is cut into tokens of the given kinds

## Main statements

* `Token.Yields.word`, `Token.Yields.sign`, `Token.Yields.docstring`: one token in a line
* `Token.Yields.line`, `Token.Yields.newline`, `Token.Yields.dedent`: the ends of lines and blocks
* `Token.scanAll_of_yields`: the tokens of a whole text
-/

namespace ServiceStubs

namespace Token

/-- What the scanner knows between two tokens, without the place. -/
structure Layout where
  /-- The closers of the open brackets, the innermost first. -/
  brackets : List String
  /-- The indentations of the open blocks, the innermost first. -/
  blocks : List Indent
  atLineStart : Bool

namespace Layout

/-- The scanner at a place. -/
def scan (l : Layout) (p : Position) : Scan := ⟨p, l.brackets, l.blocks, l.atLineStart⟩

/-- The scanner in the middle of a line. -/
def inLine (brackets : List String) (blocks : List Indent) : Layout := ⟨brackets, blocks, false⟩

/-- The scanner at the start of a line, no brackets open. -/
def lineStart (blocks : List Indent) : Layout := ⟨[], blocks, true⟩

/-- A number of steps that is enough for a text. -/
def need (l : Layout) (cs : List Char) : Nat := 2 * cs.length + if l.atLineStart then 2 else 1

end Layout

/-- In that layout, the text is cut into tokens of the given kinds, without fault. -/
def Yields (l : Layout) (cs : List Char) (kinds : List Kind) : Prop :=
  ∀ p fuel, l.need cs ≤ fuel → ∃ ts, scanFrom fuel (l.scan p) cs = ⟨ts, true⟩ ∧ ts.map (·.kind) = kinds

variable {l l' : Layout} {cs rest : List Char} {kinds : List Kind} {brackets : List String}
  {blocks : List Indent}

/-- One step of the scanner and the rest. -/
theorem Yields.step {cs' : List Char} {ks : List Kind}
    (hstep : ∀ p, ∃ p' ts, scanStep (l.scan p) cs = some (ts, l'.scan p', cs') ∧ ts.map (·.kind) = ks)
    (hopen : (cs.isEmpty && l.atLineStart) = false) (hneed : l'.need cs' < l.need cs)
    (hrest : Yields l' cs' kinds) : Yields l cs (ks ++ kinds) := by
  intro p fuel hfuel
  obtain ⟨fuel, rfl⟩ : ∃ n, fuel = n + 1 := ⟨fuel - 1, by omega⟩
  obtain ⟨p', ts, hts, hks⟩ := hstep p
  obtain ⟨ts', hscan, hkinds⟩ := hrest p' fuel (by omega)
  refine ⟨ts ++ ts', ?_, by rw [List.map_append, hks, hkinds]⟩
  have hopen : (cs.isEmpty && (l.scan p).atLineStart) = false := hopen
  rw [scanFrom, hopen, if_neg Bool.false_ne_true, hts]
  simp only [hscan]

/-! ### Tokens in a line -/

/-- The characters that no token starts with. -/
def isLayout (c : Char) : Bool :=
  c == ' ' || c == '\t' || c == '\x0c' || c == '#' || c == '\n' || c == '\\'

/-- A token and the rest of the line. -/
theorem Yields.lexeme {c : Char} {kind : Kind} {chars : List Char} {brackets' : List String}
    (hc : isLayout c = false) (hlexeme : scanLexeme (c :: cs) = some ⟨kind, chars, rest⟩)
    (hlength : rest.length ≤ cs.length) (hbrackets : changeBrackets brackets kind = some brackets')
    (hrest : Yields (.inLine brackets' blocks) rest kinds) :
    Yields (.inLine brackets blocks) (c :: cs) (kind :: kinds) := by
  show Yields _ _ ([kind] ++ kinds)
  refine .step (fun p => ?_) rfl ?_ hrest
  · refine ⟨p.after chars, [⟨kind, ⟨p, (p.after chars).line⟩⟩], ?_, rfl⟩
    simp only [isLayout, Bool.or_eq_false_iff] at hc
    simp [scanStep, Layout.scan, Layout.inLine, hc, hlexeme, hbrackets]
  · simp only [Layout.need, Layout.inLine, List.length_cons]
    simp only [Bool.false_eq_true, if_false]
    omega

/-- A blank in a line. -/
theorem Yields.blank (hrest : Yields (.inLine brackets blocks) rest kinds) :
    Yields (.inLine brackets blocks) (' ' :: rest) kinds := by
  show Yields _ _ ([] ++ kinds)
  refine .step (fun p => ⟨p.afterChar ' ', [], ?_, rfl⟩) rfl ?_ hrest
  · simp [scanStep, Layout.scan, Layout.inLine]
  · simp [Layout.need, Layout.inLine]

/-- Neither a name nor a literal goes on with this text. -/
def EndsWord (rest : List Char) : Prop :=
  ∀ c ∈ rest.head?, isNameChar c = false ∧ c ≠ '"' ∧ c ≠ '\''

theorem endsWord_cons {c : Char} (h : (isNameChar c || c == '"' || c == '\'') = false)
    (rest : List Char) : EndsWord (c :: rest) := by
  rintro d ⟨⟩
  simpa [and_assoc] using h

theorem isNameChar_of_isIdentifierPart {c : Char} (h : Text.isIdentifierPart c = true) :
    isNameChar c = true := by
  rw [Text.isIdentifierPart] at h
  rw [isNameChar]
  split at h
  · rw [h, Bool.true_or]
  · next hc => simp [Nat.le_of_not_lt hc]

theorem isNameChar_of_isIdentifierStart {c : Char} (h : Text.isIdentifierStart c = true) :
    isNameChar c = true ∧ c.isDigit = false := by
  rw [Text.isIdentifierStart] at h
  split at h
  · next hc =>
    refine Text.forall_ascii (P := fun c => (c.isAlpha || c == '_') = true →
      isNameChar c = true ∧ c.isDigit = false) (by decide +kernel) hc h
  · next hc =>
    refine ⟨by simp [isNameChar, Nat.le_of_not_lt hc], ?_⟩
    by_contra hdigit
    exact hc (Text.lt_of_isWordChar (by simpa [Text.isWordChar] using Or.inr hdigit))

/-- The start of a word and its other characters. -/
structure IsWord (word : List Char) (kind : Kind) : Prop where
  kind : wordKind word = some kind
  nameChars : ∀ c ∈ word, isNameChar c = true
  start : ∃ c ∈ word.head?, c.isDigit = false

/-- A word is taken up to where it ends. -/
theorem scanLexeme_word {word : List Char} {kind : Kind} (h : IsWord word kind) (hrest : EndsWord rest) :
    scanLexeme (word ++ rest) = some ⟨kind, word, rest⟩ := by
  obtain ⟨c, hc, hdigit⟩ := h.start
  obtain ⟨word, rfl⟩ : ∃ w, word = c :: w := ⟨word.tail, List.eq_cons_of_mem_head? hc⟩
  have hname : isNameChar c = true := h.nameChars c List.mem_cons_self
  have hne {d : Char} (hd : isNameChar d = false) : c ≠ d := by
    rintro rfl
    simp [hname] at hd
  have hnone : rest.takeWhile isNameChar = [] ∧ rest.dropWhile isNameChar = rest := by
    cases rest with
    | nil => exact ⟨rfl, rfl⟩
    | cons d rest =>
      have hd := (hrest d rfl).1
      exact ⟨List.takeWhile_cons_of_neg (by simp [hd]), List.dropWhile_cons_of_neg (by simp [hd])⟩
  have htake : (c :: (word ++ rest)).takeWhile isNameChar = c :: word := by
    rw [← List.cons_append, List.takeWhile_append_of_pos h.nameChars, hnone.1, List.append_nil]
  have hdrop : (c :: (word ++ rest)).dropWhile isNameChar = rest := by
    rw [← List.cons_append, List.dropWhile_append_of_pos h.nameChars, hnone.2]
  have hquote : rest.head? ≠ some '"' ∧ rest.head? ≠ some '\'' :=
    ⟨fun hd => (hrest _ hd).2.1 rfl, fun hd => (hrest _ hd).2.2 rfl⟩
  have hother : c ≠ '"' ∧ c ≠ '\'' ∧ c ≠ '.' := ⟨hne rfl, hne rfl, hne rfl⟩
  rw [List.cons_append, scanLexeme, htake, hdrop]
  simp [hname, hdigit, hother, hquote, h.kind]

/-- A word and what follows it. -/
theorem Yields.word {word : List Char} {kind : Kind} (h : IsWord word kind)
    (hkind : changeBrackets brackets kind = some brackets) (hends : EndsWord rest)
    (hrest : Yields (.inLine brackets blocks) rest kinds) :
    Yields (.inLine brackets blocks) (word ++ rest) (kind :: kinds) := by
  have hlexeme := scanLexeme_word h hends
  obtain ⟨c, hc, -⟩ := h.start
  obtain ⟨word, rfl⟩ : ∃ w, word = c :: w := ⟨word.tail, List.eq_cons_of_mem_head? hc⟩
  have hname : isNameChar c = true := h.nameChars c List.mem_cons_self
  refine .lexeme ?_ hlexeme (by simp) hkind hrest
  by_contra hlayout
  simp only [isLayout, Bool.not_eq_false, Bool.or_eq_true, beq_iff_eq] at hlayout
  rcases hlayout with ((((rfl | rfl) | rfl) | rfl) | rfl) | rfl <;> exact absurd hname (by decide)

theorem wordKind_name (id : FreeName) : wordKind id.text.toList = some (.name id) := by
  rw [wordKind]
  simp only [String.ofList_toList, id.isFree, if_false, id.isIdentifier, Bool.not_true,
    id.isNormal, and_self,
    dif_pos]
  obtain ⟨⟨⟨text, hidentifier⟩, hnormal, written⟩, hwritten, hfree⟩ := id
  obtain rfl : written = text := hwritten
  rfl

theorem isWord_name (id : FreeName) : IsWord id.text.toList (.name id) := by
  have hkind := wordKind_name id
  have hid := id.isIdentifier
  cases htext : id.text.toList with
  | nil => simp [htext] at hid
  | cons c word =>
    rw [htext, Text.isIdentifier, Bool.and_eq_true, List.all_eq_true] at hid
    obtain ⟨hname, hdigit⟩ := isNameChar_of_isIdentifierStart hid.1
    refine ⟨?_, fun d hd => ?_, c, rfl, hdigit⟩
    · rw [← htext, hkind]
    · rcases List.mem_cons.1 hd with rfl | hd
      · exact hname
      · exact isNameChar_of_isIdentifierPart (hid.2 d hd)

/-- A name and what follows it. -/
theorem Yields.name (id : FreeName) (hends : EndsWord rest)
    (hrest : Yields (.inLine brackets blocks) rest kinds) :
    Yields (.inLine brackets blocks) (id.text.toList ++ rest) (.name id :: kinds) :=
  .word (isWord_name id) rfl hends hrest

/-- A reserved word and what follows it. -/
theorem Yields.keyword {word : String} (h : IsWord word.toList (.keyword word)) (hends : EndsWord rest)
    (hrest : Yields (.inLine brackets blocks) rest kinds) :
    Yields (.inLine brackets blocks) (word.toList ++ rest) (.keyword word :: kinds) :=
  .word h rfl hends hrest

/-! ### Signs -/

/-- The characters that a longer sign goes on with. -/
def continuations (sign : List Char) : List Char :=
  signs.filterMap fun longer =>
    if sign.isPrefixOf longer then (longer.drop sign.length).head? else none

/-- The sign does not go on with this text, and no number starts with its dot. -/
def EndsSign (sign : String) (rest : List Char) : Prop :=
  ∀ c ∈ rest.head?, c ∉ continuations sign.toList ∧ (sign = "." → c.isDigit = false)

theorem endsSign_of_nil {sign : String} (h : continuations sign.toList = [] ∧ sign ≠ ".")
    (rest : List Char) : EndsSign sign rest := by
  intro c _
  rw [h.1]
  exact ⟨List.not_mem_nil, fun hdot => absurd hdot h.2⟩

/-- A longer sign stands before those it starts with. -/
theorem pairwise_signs : signs.Pairwise fun u v => u.isPrefixOf v = false := by decide +kernel

/-- What the signs start with starts nothing else. -/
theorem exists_cons_of_mem_signs {sign : List Char} (h : sign ∈ signs) : ∃ c tail, sign = c :: tail ∧
    (c == '"' || c == '\'') = false ∧ c.isDigit = false ∧ isNameChar c = false ∧ isLayout c = false ∧
      (c = '.' → tail = [] ∨ tail = ['.', '.']) := by
  have hall : (signs.all fun u => u.head?.any fun c =>
      !(c == '"' || c == '\'') && !c.isDigit && !isNameChar c && !isLayout c &&
        (c != '.' || u.tail == [] || u.tail == ['.', '.'])) = true := by decide +kernel
  have hsign := List.all_eq_true.1 hall sign h
  cases sign with
  | nil => cases hsign
  | cons c tail =>
    simp only [List.head?_cons, Option.any_some, List.tail_cons, Bool.and_eq_true, Bool.not_eq_true',
      Bool.or_eq_true, bne_iff_ne, beq_iff_eq] at hsign
    obtain ⟨⟨⟨⟨hquote, hdigit⟩, hname⟩, hlayout⟩, hdot⟩ := hsign
    exact ⟨c, tail, rfl, hquote, hdigit, hname, hlayout, fun hc => by simpa [hc] using hdot⟩

/-- The longest sign is found. -/
theorem find?_signs {sign : List Char} (hsign : sign ∈ signs)
    (hrest : ∀ c ∈ rest.head?, c ∉ continuations sign) :
    signs.find? (·.isPrefixOf (sign ++ rest)) = some sign := by
  obtain ⟨before, after, hsigns⟩ := List.mem_iff_append.1 hsign
  rw [List.find?_eq_some_iff_append]
  refine ⟨by simp, before, after, hsigns, fun u hu => ?_⟩
  have hpairwise := pairwise_signs
  rw [hsigns] at hpairwise
  have hnot : u.isPrefixOf sign = false :=
    (List.pairwise_append.1 hpairwise).2.2 u hu sign List.mem_cons_self
  by_contra hprefix
  have hprefix : u <+: sign ++ rest := by simpa using hprefix
  rcases List.prefix_or_prefix_of_prefix hprefix (List.prefix_append sign rest) with hshort | hlong
  · simp [List.isPrefixOf_iff_prefix.2 hshort] at hnot
  · -- the longer sign goes on with the first character behind
    obtain ⟨more, rfl⟩ := hlong
    rw [List.prefix_append_right_inj] at hprefix
    cases more with
    | nil => simp [List.isPrefixOf_iff_prefix.2 (List.prefix_refl _)] at hnot
    | cons c more =>
      obtain ⟨behind, rfl⟩ := hprefix
      refine hrest c rfl (List.mem_filterMap.2 ⟨sign ++ c :: more, ?_, by simp⟩)
      rw [hsigns]
      exact List.mem_append_left _ hu

theorem scanLexeme_sign {sign : String} (hsign : sign.toList ∈ signs) (hrest : EndsSign sign rest) :
    scanLexeme (sign.toList ++ rest) = some ⟨.sign sign, sign.toList, rest⟩ := by
  have hfind := find?_signs hsign fun c hc => (hrest c hc).1
  obtain ⟨c, tail, htext, hquote, hdigit, hname, -, hdot⟩ := exists_cons_of_mem_signs hsign
  have hofList : String.ofList (c :: tail) = sign := by rw [← htext, String.ofList_toList]
  have hnumber : (c == '.' && ((tail ++ rest).head?.map Char.isDigit).getD false) = false := by
    by_cases h : c = '.'
    · subst h
      rcases hdot rfl with rfl | rfl
      · cases rest with
        | nil => rfl
        | cons d rest => simp [(hrest d rfl).2 hofList.symm]
      · rfl
    · simp [h]
  have hdrop : (c :: (tail ++ rest)).drop (c :: tail).length = rest := by simp
  rw [htext, List.cons_append] at hfind ⊢
  simp only [scanLexeme, hquote, hdigit, hnumber, hname, hfind, hdrop, hofList, Bool.or_self,
    Bool.false_eq_true, if_false, Option.map_some]

/-- A sign and what follows it. -/
theorem Yields.sign (sign : String) {chars : List Char} {brackets' : List String}
    (hchars : sign.toList = chars) (hsign : chars ∈ signs) (hends : EndsSign sign rest)
    (hbrackets : changeBrackets brackets (.sign sign) = some brackets')
    (hrest : Yields (.inLine brackets' blocks) rest kinds) :
    Yields (.inLine brackets blocks) (chars ++ rest) (.sign sign :: kinds) := by
  subst hchars
  have hlexeme := scanLexeme_sign hsign hends
  obtain ⟨c, tail, htext, -, -, -, hlayout, -⟩ := exists_cons_of_mem_signs hsign
  rw [htext] at hlexeme ⊢
  exact .lexeme hlayout hlexeme (by simp) hbrackets hrest

/-! ### Literals -/

/-- The literal of a docstring is taken up to the quotes that close it. -/
theorem scanLexeme_docstring {written value : List Char} (h : Text.Escaped [] written value)
    (rest : List Char) : scanLexeme ('"' :: '"' :: '"' :: written ++ '"' :: '"' :: '"' :: rest) =
      some ⟨.string ⟨false, false, false, false, written⟩, ['"', '"', '"'] ++ written ++ ['"', '"', '"'],
        rest⟩ := by
  have hscan := Text.scanTripled_of_escaped h rest
  have hmarks : stringMarks? [] = some (StringLiteral.mk false false false false) := by
    rfl
  simp [scanLexeme, hmarks, scanString, hscan]

/-- The literal of a docstring and what follows it. -/
theorem Yields.docstring {written value : List Char} (h : Text.Escaped [] written value)
    (hrest : Yields (.inLine brackets blocks) rest kinds) :
    Yields (.inLine brackets blocks) ('"' :: '"' :: '"' :: written ++ '"' :: '"' :: '"' :: rest)
      (.string ⟨false, false, false, false, written⟩ :: kinds) :=
  .lexeme (by decide) (scanLexeme_docstring h rest) (by simp; omega) rfl hrest

/-! ### Lines -/

/-- The end of a line. -/
theorem Yields.newline (hrest : Yields (.lineStart blocks) rest kinds) :
    Yields (.inLine [] blocks) ('\n' :: rest) (.newline :: kinds) := by
  show Yields _ _ ([.newline] ++ kinds)
  refine .step (fun p => ⟨p.afterChar '\n', [layoutToken p .newline], ?_, rfl⟩) rfl ?_ hrest
  · simp [scanStep, Layout.scan, Layout.inLine, Layout.lineStart]
  · simp [Layout.need, Layout.inLine, Layout.lineStart]
    omega

/-- An empty line. -/
theorem Yields.emptyLine (hrest : Yields (.lineStart blocks) rest kinds) :
    Yields (.lineStart blocks) ('\n' :: rest) kinds := by
  show Yields _ _ ([] ++ kinds)
  refine .step (fun p => ⟨p.afterChar '\n', [], ?_, rfl⟩) rfl ?_ hrest
  · simp [scanStep, Layout.scan, Layout.lineStart, measureIndent, Position.after]
  · simp [Layout.need, Layout.lineStart]

/-- A line starts with something that a token starts with. -/
def StartsLine (cs : List Char) : Prop := ∃ c ∈ cs.head?, isLayout c = false

theorem measureIndent_blanks (h : StartsLine cs) (width column : Nat) :
    measureIndent column column 0 (Text.blanks width ++ cs) =
      some (⟨column + width, column + width⟩, cs) := by
  induction width generalizing column with
  | zero =>
    obtain ⟨c, hc, hlayout⟩ := h
    obtain ⟨tail, rfl⟩ : ∃ t, cs = c :: t := ⟨_, List.eq_cons_of_mem_head? hc⟩
    simp only [isLayout, Bool.or_eq_false_iff, beq_eq_false_iff_ne] at hlayout
    rw [Text.blanks, List.replicate_zero, List.nil_append, measureIndent] <;> simp_all
  | succ width ih =>
    rw [Text.blanks, List.replicate_succ, List.cons_append, measureIndent, ← Text.blanks, ih]
    simp [Nat.add_assoc, Nat.add_comm 1]

/-- The margin of a line and what stands on it. -/
theorem Yields.line {width : Nat} {ks : List Kind} {blocks' : List Indent} (hcs : StartsLine cs)
    (hblocks : changeBlocks ⟨width, width⟩ blocks = some (blocks', ks))
    (hrest : Yields (.inLine [] blocks') cs kinds) :
    Yields (.lineStart blocks) (Text.blanks width ++ cs) (ks ++ kinds) := by
  have hmeasure := measureIndent_blanks hcs width 0
  rw [Nat.zero_add] at hmeasure
  obtain ⟨c, hc, hlayout⟩ := hcs
  obtain ⟨tail, rfl⟩ : ∃ t, cs = c :: t := ⟨_, List.eq_cons_of_mem_head? hc⟩
  simp only [isLayout, Bool.or_eq_false_iff, beq_eq_false_iff_ne] at hlayout
  refine Yields.step (fun p => ?_) ?_ ?_ hrest
  · let place := p.after ((Text.blanks width ++ c :: tail).take
      ((Text.blanks width ++ c :: tail).length - (c :: tail).length))
    refine ⟨place, ks.map (layoutToken place), ?_, by simp [Function.comp_def, layoutToken]⟩
    simp only [scanStep, Layout.scan, Layout.lineStart, List.isEmpty_nil, Bool.and_self, if_true]
    rw [hmeasure]
    simp [Layout.inLine, hlayout, hblocks, place]
  · simp
  · simp only [Layout.need, Layout.inLine, Layout.lineStart, List.length_append]
    simp only [Bool.false_eq_true, if_false, if_true]
    omega

theorem Yields.nil : Yields (.lineStart blocks) []
    (List.replicate (blocks.length - 1) .dedent ++ [.endOfText]) := by
  intro p fuel hfuel
  obtain ⟨fuel, rfl⟩ : ∃ n, fuel = n + 1 :=
    ⟨fuel - 1, by simp [Layout.need, Layout.lineStart] at hfuel; omega⟩
  refine ⟨_, rfl, ?_⟩
  simp [Layout.scan, Layout.lineStart, layoutToken]

/-! ### Blocks -/

/-- In the innermost of the blocks the text is cut into tokens of the given kinds, and all blocks
that are open inside of it end in front of the text. -/
def YieldsOutside (blocks : List Indent) (cs : List Char) (kinds : List Kind) : Prop :=
  ∀ inner : List Indent, (∀ i ∈ inner, ∀ b ∈ blocks.head?, b.wide < i.wide) →
    Yields (.lineStart (inner ++ blocks)) cs (List.replicate inner.length .dedent ++ kinds)

namespace YieldsOutside

theorem outside (h : YieldsOutside blocks cs kinds) : Yields (.lineStart blocks) cs kinds :=
  h [] (by simp)

/-- In one more block. -/
theorem inside {inner outer : Nat} {below : List Indent}
    (h : YieldsOutside (⟨outer, outer⟩ :: below) cs kinds)
    (hinner : outer < inner) :
    YieldsOutside (⟨inner, inner⟩ :: ⟨outer, outer⟩ :: below) cs (.dedent :: kinds) := by
  intro more hmore
  have hall : ∀ i ∈ more ++ [⟨inner, inner⟩], ∀ b ∈ (Indent.mk outer outer :: below).head?,
      b.wide < i.wide := by
    rintro i hi b ⟨⟩
    rcases List.mem_append.1 hi with hi | hi
    · exact hinner.trans (hmore i hi _ rfl)
    · obtain rfl := List.mem_singleton.1 hi
      exact hinner
  have := h _ hall
  rw [List.length_append, List.length_singleton, List.replicate_add, List.append_assoc,
    List.append_assoc] at this
  exact this

theorem nil (h : blocks ≠ []) : YieldsOutside blocks []
    (List.replicate (blocks.length - 1) .dedent ++ [.endOfText]) := by
  intro inner _
  have hpos := List.length_pos_iff.2 h
  have hlength : (inner ++ blocks).length - 1 = inner.length + (blocks.length - 1) := by
    rw [List.length_append]
    omega
  have hend : Yields (.lineStart (inner ++ blocks)) [] _ := .nil
  rwa [hlength, List.replicate_add, List.append_assoc] at hend

theorem emptyLine (h : YieldsOutside blocks rest kinds) : YieldsOutside blocks ('\n' :: rest) kinds :=
  fun inner hinner => (h inner hinner).emptyLine

end YieldsOutside

/-- A line closes the blocks that stand further to the right. -/
theorem closeBlocks_append {width : Nat} (below : List Indent) {inner : List Indent}
    (h : ∀ i ∈ inner, width < i.wide) :
    closeBlocks ⟨width, width⟩ (inner ++ ⟨width, width⟩ :: below) =
      some (⟨width, width⟩ :: below, inner.length) := by
  induction inner with
  | nil => simp [closeBlocks]
  | cons i inner ih =>
    rw [List.forall_mem_cons] at h
    rw [List.cons_append, closeBlocks, if_neg (by simpa using h.1.ne), if_pos h.1, ih h.2]
    rfl

/-- A line in the innermost block. -/
theorem YieldsOutside.line {width : Nat} {below : List Indent} (hcs : StartsLine cs)
    (hrest : Yields (.inLine [] (⟨width, width⟩ :: below)) cs kinds) :
    YieldsOutside (⟨width, width⟩ :: below) (Text.blanks width ++ cs) kinds := by
  intro inner hinner
  have hinner : ∀ i ∈ inner, width < i.wide := fun i hi => hinner i hi _ rfl
  have hclose := closeBlocks_append below hinner
  refine .line hcs ?_ hrest
  cases inner with
  | nil =>
    rw [List.nil_append] at hclose ⊢
    rw [changeBlocks, if_neg (Nat.lt_irrefl width), hclose]
    rfl
  | cons i inner =>
    have hi : width < i.wide := hinner i List.mem_cons_self
    rw [List.cons_append] at hclose ⊢
    rw [changeBlocks, if_neg (Nat.lt_asymm hi), hclose]
    rfl

/-- A line that starts a block. -/
theorem Yields.indent {width outer : Nat} {below : List Indent} (hcs : StartsLine cs)
    (hwidth : outer < width) (hdepth : below.length + 1 < maxBlocks)
    (hrest : Yields (.inLine [] (⟨width, width⟩ :: ⟨outer, outer⟩ :: below)) cs kinds) :
    Yields (.lineStart (⟨outer, outer⟩ :: below)) (Text.blanks width ++ cs) (.indent :: kinds) := by
  show Yields _ _ ([.indent] ++ kinds)
  refine .line hcs ?_ hrest
  rw [changeBlocks, if_pos hwidth]
  simp [hwidth, hdepth]

/-! ### Whole texts -/

theorem withLineFeeds_eq (h : '\r' ∉ cs) : Text.withLineFeeds cs = cs := by
  induction cs with
  | nil => rfl
  | cons c cs ih =>
    simp only [List.mem_cons, not_or] at h
    rw [Text.withLineFeeds, ih h.2, if_neg (by simpa using Ne.symm h.1)]
    rintro rest rfl -
    exact h.1 rfl

theorem mem_endLastLine {c : Char} (h : c ∈ cs) : c ∈ endLastLine cs := by
  rw [endLastLine]
  split
  · exact h
  · exact List.mem_append_left _ h

theorem length_endLastLine_le (cs : List Char) : (endLastLine cs).length ≤ cs.length + 1 := by
  rw [endLastLine]
  split <;> simp

theorem preparedText_eq (h : '\r' ∉ cs) : preparedText cs = endLastLine cs := by
  rw [preparedText, withLineFeeds_eq h, if_neg]
  intro hsuffix
  exact h ((List.isSuffixOf_iff_suffix.1 hsuffix).subset List.mem_cons_self)

/-- The tokens of a whole text. -/
theorem scanAll_of_yields {source : List Char}
    (h : Yields (.lineStart [⟨0, 0⟩]) (preparedText source) kinds) :
    (scanAll source).isComplete = true ∧ (scanAll source).tokens.map (·.kind) = kinds := by
  obtain ⟨ts, hscan, hkinds⟩ := h ⟨1, 0⟩ (2 * (preparedText source).length + 2) le_rfl
  have hscan : scanAll source = ⟨ts, true⟩ := hscan
  rw [hscan]
  exact ⟨rfl, hkinds⟩

end Token

end ServiceStubs
