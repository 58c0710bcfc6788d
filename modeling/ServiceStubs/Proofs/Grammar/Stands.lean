import ServiceStubs.Proofs.Grammar.Lines

/-!
# Statements in their places

A statement of generated code fills whole lines. In the block that it stands in, they are cut into
the same tokens whatever follows, and a reader of statements takes them as one statement. What is
known of a statement is put together from what is known of its lines and of the statements in its
body.

A block is one step of indentation inside another. How many blocks a statement holds inside each
other is known from its text, and so is the depth that its reader needs.

## Main definitions

* `Grammar.Lined`: whole lines of a block and their tokens
* `Grammar.Stands`: lines, their tokens and the statement that a reader makes of them

## Main statements

* `Grammar.lined_line`, `Grammar.lined_block`: a line, and a line with a block behind it
* `Grammar.stands_definition`: definitions
* `Grammar.readModule_of_stands`: a text of one statement
-/

namespace ServiceStubs

namespace Grammar

open ServiceStubs.Tree Reader Token

variable {kinds kinds' rest : List Token.Kind} {depth width : Nat} {text text' : List Char}

/-! ### Lines of a block -/

/-- Whole lines, the first of which starts at the margin of the block that they stand in. With at
most `depth` blocks inside each other they are cut into tokens of these kinds. -/
def Lined (depth width : Nat) (text : List Char) (kinds : List Token.Kind) : Prop :=
  ∃ content, text = Text.blanks width ++ content ∧ StartsLine content ∧
    ∀ below rest out, below.length + depth < maxBlocks →
      YieldsOutside (⟨width, width⟩ :: below) rest out →
      Yields (.inLine [] (⟨width, width⟩ :: below)) (content ++ rest) (kinds ++ out)

theorem startsLine_append {content : List Char} (h : StartsLine content) (rest : List Char) :
    StartsLine (content ++ rest) := by
  obtain ⟨c, hc, hlayout⟩ := h
  exact ⟨c, List.mem_head?_append_of_mem_head? hc, hlayout⟩

namespace Lined

theorem mono {depth' : Nat} (h : Lined depth width text kinds) (hdepth : depth ≤ depth') :
    Lined depth' width text kinds := by
  obtain ⟨content, htext, hstarts, hyields⟩ := h
  exact ⟨content, htext, hstarts, fun below rest out hbelow => hyields below rest out (by omega)⟩

/-- Lines in a block and what follows them there. -/
theorem outside {below : List Indent} {rest : List Char} {out : List Token.Kind}
    (h : Lined depth width text kinds) (hbelow : below.length + depth < maxBlocks)
    (hrest : YieldsOutside (⟨width, width⟩ :: below) rest out) :
    YieldsOutside (⟨width, width⟩ :: below) (text ++ rest) (kinds ++ out) := by
  obtain ⟨content, rfl, hstarts, hyields⟩ := h
  rw [List.append_assoc]
  exact .line (startsLine_append hstarts rest) (hyields below rest out hbelow hrest)

theorem append (h : Lined depth width text kinds) (h' : Lined depth width text' kinds') :
    Lined depth width (text ++ text') (kinds ++ kinds') := by
  obtain ⟨content, rfl, hstarts, hyields⟩ := h
  refine ⟨content ++ text', List.append_assoc .., startsLine_append hstarts text',
    fun below rest out hbelow hrest => ?_⟩
  rw [List.append_assoc, List.append_assoc]
  exact hyields below _ _ hbelow (h'.outside hbelow hrest)

/-- Lines and an empty line. -/
theorem emptyLine (h : Lined depth width text kinds) : Lined depth width (text ++ ['\n']) kinds := by
  obtain ⟨content, rfl, hstarts, hyields⟩ := h
  refine ⟨content ++ ['\n'], List.append_assoc .., startsLine_append hstarts _,
    fun below rest out hbelow hrest => ?_⟩
  rw [List.append_assoc]
  exact hyields below _ _ hbelow hrest.emptyLine

/-- Lines and empty lines. -/
theorem emptyLines {gap : List String} (h : Lined depth width text kinds)
    (hgap : ∀ line ∈ gap, line = "") :
    Lined depth width (text ++ Code.text width gap) kinds := by
  induction gap generalizing text with
  | nil => simpa [Code.text_nil] using h
  | cons line gap ih =>
    rw [List.forall_mem_cons] at hgap
    obtain ⟨rfl, hgap⟩ := hgap
    have hlines : text ++ Code.text width ("" :: gap) = text ++ ['\n'] ++ Code.text width gap := by
      rw [Code.text_cons]
      simp [Text.withMargin]
    rw [hlines]
    exact ih h.emptyLine hgap

end Lined

/-- One line. -/
theorem lined_line {line : List Char} (hscans : Scans 0 line kinds) (hstarts : StartsLine line) :
    Lined depth width (Text.blanks width ++ line ++ ['\n']) (kinds ++ [Kind.newline]) := by
  refine ⟨line ++ ['\n'], List.append_assoc .., startsLine_append hstarts _,
    fun below rest out _ hrest => ?_⟩
  rw [List.append_assoc, List.append_assoc]
  exact hscans [] _ _ _ le_rfl (delimited_cons rfl _) hrest.outside.newline

/-- A line and a block behind it. -/
theorem lined_block {line body : List Char} (hscans : Scans 0 line kinds) (hstarts : StartsLine line)
    (hbody : Lined depth (width + 4) body kinds') :
    Lined (depth + 1) width (Text.blanks width ++ line ++ '\n' :: body)
      (kinds ++ Kind.newline :: Kind.indent :: (kinds' ++ [Kind.dedent])) := by
  refine ⟨line ++ '\n' :: body, List.append_assoc .., startsLine_append hstarts _,
    fun below rest out hbelow hrest => ?_⟩
  obtain ⟨content, rfl, hstarts', hyields⟩ := hbody
  have hinside := hyields (⟨width, width⟩ :: below) rest (.dedent :: out) (by simp; omega)
    (hrest.inside (Nat.lt_add_of_pos_right (by decide)))
  have hopen := Yields.indent (startsLine_append hstarts' rest) (Nat.lt_add_of_pos_right (by decide))
    (by omega) hinside
  have hline := hscans [] (⟨width, width⟩ :: below) _ _ le_rfl (delimited_cons rfl _) hopen.newline
  simpa [List.append_assoc] using hline

/-! ### Statements -/

/-- A statement in its place: lines at a margin that are cut into tokens of these kinds, with at
most `depth` blocks inside each other, and a reader that goes deep enough makes one statement of
them. -/
structure Stands (depth width : Nat) (lines : List String) (kinds : List Token.Kind) (P : Stmt → Prop) :
    Prop where
  plain : IsPlain (Code.text width lines)
  lined : Lined depth width (Code.text width lines) kinds
  starts : ∃ first others, kinds = first :: others ∧ first ≠ .dedent ∧ first ≠ .endOfText
  reads : ∀ k, IsAmple (Code.text width lines).length k → ∀ n, depth ≤ n → ∀ rest,
    Reads (statement k (block k (statements k n))) (kinds ++ rest) rest fun ss => ∃ s, ss = [s] ∧ P s

theorem Stands.mono {lines : List String} {P Q : Stmt → Prop} (h : Stands depth width lines kinds P)
    (hPQ : ∀ s, P s → Q s) : Stands depth width lines kinds Q :=
  ⟨h.plain, h.lined, h.starts, fun k hk n hn rest =>
    (h.reads k hk n hn rest).mono fun _ ⟨s, hs, hP⟩ => ⟨s, hs, hPQ s hP⟩⟩

theorem Stands.deeper {depth' : Nat} {lines : List String} {P : Stmt → Prop}
    (h : Stands depth width lines kinds P) (hdepth : depth ≤ depth') :
    Stands depth' width lines kinds P :=
  ⟨h.plain, h.lined.mono hdepth, h.starts, fun k hk n hn => h.reads k hk n (hdepth.trans hn)⟩

/-- A line as it stands in a text. -/
theorem text_line {line : String} (h : line ≠ "") :
    Code.text width [line] = Text.blanks width ++ line.toList ++ ['\n'] := by
  have hne : line.toList ≠ [] := by simpa using h
  rw [Code.text_cons, Code.text_nil, Text.withMargin, if_neg hne]

theorem isPlain_blanks (width : Nat) : IsPlain (Text.blanks width) := by
  intro c hc
  obtain rfl := List.eq_of_mem_replicate hc
  decide

theorem isPlain_text {lines : List String} (h : ∀ line ∈ lines, IsPlain line.toList) :
    IsPlain (Code.text width lines) := by
  intro c hc
  obtain ⟨line, hline, hc⟩ := List.mem_flatMap.1 hc
  have hmargin : IsPlain (Text.withMargin width line.toList) := by
    rw [Text.withMargin]
    split
    · exact isPlain_nil
    · exact (isPlain_blanks width).append (h line hline)
  exact hmargin.append (isPlain_nil.cons (by decide)) c hc

/-- A line that is read as one simple statement. -/
theorem stands_line {line : String} {first : Token.Kind} {others : List Token.Kind} {P : Stmt → Prop}
    (hplain : IsPlain line.toList) (hstarts : StartsLine line.toList)
    (hscans : Scans 0 line.toList (first :: others)) (hfirst : startsLine first = true)
    (h : ∀ k, IsAmple (line.toList.length + 1) k → ∀ rest,
      Reads (simpleStatements k) (first :: (others ++ .newline :: rest)) rest
        fun ss => ∃ s, ss = [s] ∧ P s) :
    Stands 0 width [line] (first :: (others ++ [Kind.newline])) P := by
  have hne : line ≠ "" := by
    rintro rfl
    obtain ⟨c, hc, -⟩ := hstarts
    cases hc
  refine ⟨isPlain_text (by simpa using hplain), ?_, ⟨first, _, rfl, ?_, ?_⟩, fun k hk n _ rest => ?_⟩
  · rw [text_line hne]
    exact lined_line hscans hstarts
  · rintro rfl
    cases hfirst
  · rintro rfl
    cases hfirst
  · have hline := h k (hk.mono (by rw [text_line hne]; simp)) rest
    rw [List.append_cons] at hline
    exact reads_statement_line hfirst hline

/-- The kind of the token of a docstring at a margin. -/
def docstringKind (width : Nat) (docstring : String) : Token.Kind :=
  .string ⟨false, false, false, false,
    Text.literalText width (Text.lines (Text.docstringBody docstring.toList))⟩

/-- The statement that a docstring at a margin is. -/
def IsDocstring (width : Nat) (docstring : String) (s : Stmt) : Prop :=
  s.node = .expression (.constant (.text
    (String.ofList (Text.literalText width (Text.lines docstring.toList))) false))

theorem isPlain_docstringLines {docstring : String} (hnull : '\x00' ∉ docstring.toList) :
    ∀ line ∈ Text.docstringLines docstring, IsPlain line.toList := by
  have hlines : ∀ line ∈ Text.lines (Text.docstringBody docstring.toList), IsPlain line := by
    intro line hline c hc
    obtain ⟨hboundary, hmem⟩ := Text.of_mem_lines hline hc
    refine ⟨?_, ?_⟩
    · rintro rfl
      cases hboundary
    · rintro rfl
      exact hnull ((Text.escaped_docstringBody _).mem hmem (by decide))
  have hquotes : IsPlain "\"\"\"".toList := isPlain_of_all (by decide)
  have hwritten : ∀ line ∈ (Text.lines (Text.docstringBody docstring.toList)).map String.ofList,
      IsPlain line.toList := by
    intro line hline
    obtain ⟨l, hl, rfl⟩ := List.mem_map.1 hline
    rw [String.toList_ofList]
    exact hlines l hl
  intro line hline
  unfold Text.docstringLines at hline
  split at hline
  · obtain rfl := List.mem_singleton.1 hline
    exact isPlain_of_all (by decide)
  · next first hsplit =>
    obtain rfl := List.mem_singleton.1 hline
    rw [hsplit, List.forall_mem_singleton] at hwritten
    rw [String.toList_append, String.toList_append]
    exact (hquotes.append hwritten).append hquotes
  · next first others _ hsplit =>
    rw [hsplit, List.forall_mem_cons] at hwritten
    rcases List.mem_append.1 hline with hline | hline
    · rcases List.mem_cons.1 hline with rfl | hline
      · rw [String.toList_append]
        exact hquotes.append hwritten.1
      · exact hwritten.2 line hline
    · obtain rfl := List.mem_singleton.1 hline
      exact hquotes

/-- **A docstring that closes stands in its place.** -/
theorem stands_docstring {docstring : String} (hnull : '\x00' ∉ docstring.toList)
    (hcloses : Text.Closes docstring.toList) :
    Stands 0 width (Text.docstringLines docstring) [docstringKind width docstring, .newline]
      (IsDocstring width docstring) := by
  have hescaped := Text.escaped_literalText hcloses width
  refine ⟨isPlain_text (isPlain_docstringLines hnull), ?_, ⟨_, _, rfl, by simp [docstringKind],
    by simp [docstringKind]⟩, fun k hk n _ rest => ?_⟩
  · rw [Code.text_docstringLines]
    refine ⟨['"', '"', '"'] ++ Text.literalText width
      (Text.lines (Text.docstringBody docstring.toList)) ++
      ['"', '"', '"', '\n'], by simp, ⟨'"', rfl, rfl⟩, fun below rest out _ hrest => ?_⟩
    have hline := Yields.docstring hescaped hrest.outside.newline
    simpa [docstringKind, List.append_assoc] using hline
  · have hsize : 1 < (Code.text width (Text.docstringLines docstring)).length := by
      rw [Code.text_docstringLines]
      simp
      omega
    obtain ⟨k', rfl, hk'⟩ := (hk.mono hsize).exists_deeper
    refine reads_statement_line rfl (reads_atomLine rfl fun c hc rest => ?_)
    exact reads_atom_text (Text.unescape_of_escaped hescaped) hc rest hk'.1

/-! ### Bodies -/

section Bodies

variable {ι : Type} {lines : ι → List String} {tokens : ι → List Token.Kind} {P : ι → Stmt → Prop}
  {items : List ι} {gap : List String}

theorem text_intercalate (i j : ι) (items : List ι) :
    Code.text width (List.intercalate gap ((i :: j :: items).map lines)) = Code.text width (lines i) ++
      Code.text width gap ++ Code.text width (List.intercalate gap ((j :: items).map lines)) := by
  rw [List.map_cons, List.map_cons, List.intercalate_cons_cons, Code.text_append, Code.text_append]

theorem lined_intercalate (hgap : ∀ line ∈ gap, line = "") (hne : items ≠ [])
    (h : ∀ i ∈ items, Lined depth width (Code.text width (lines i)) (tokens i)) :
    Lined depth width (Code.text width (List.intercalate gap (items.map lines)))
    (items.flatMap tokens) := by
  induction items with
  | nil => exact absurd rfl hne
  | cons i items ih =>
    rw [List.forall_mem_cons] at h
    cases items with
    | nil => simpa using h.1
    | cons j items =>
      rw [text_intercalate, List.flatMap_cons]
      exact (h.1.emptyLines hgap).append (ih (by simp) h.2)

theorem isPlain_intercalate (hgap : ∀ line ∈ gap, line = "")
    (h : ∀ i ∈ items, IsPlain (Code.text width (lines i))) :
    IsPlain (Code.text width (List.intercalate gap (items.map lines))) := by
  induction items with
  | nil => exact isPlain_nil
  | cons i items ih =>
    rw [List.forall_mem_cons] at h
    cases items with
    | nil => simpa using h.1
    | cons j items =>
      have hempty : IsPlain (Code.text width gap) := isPlain_text fun line hline => by
        rw [hgap line hline]
        exact isPlain_nil
      rw [text_intercalate]
      exact (h.1.append hempty).append (ih h.2)

theorem length_le_intercalate (h : ∀ i ∈ items, Code.text width (lines i) ≠ []) :
    items.length ≤ (Code.text width (List.intercalate gap (items.map lines))).length ∧
      ∀ i ∈ items, (Code.text width (lines i)).length ≤
        (Code.text width (List.intercalate gap (items.map lines))).length := by
  induction items with
  | nil => simp
  | cons i items ih =>
    rw [List.forall_mem_cons] at h
    have hpos := List.length_pos_iff.2 h.1
    cases items with
    | nil =>
      rw [List.map_singleton, List.intercalate_singleton]
      exact ⟨hpos, by simp⟩
    | cons j items =>
      obtain ⟨hcount, hlength⟩ := ih h.2
      rw [text_intercalate]
      simp only [List.length_append, List.length_cons] at hcount ⊢
      refine ⟨by omega, fun a ha => ?_⟩
      rcases List.mem_cons.1 ha with rfl | ha
      · omega
      · have := hlength a ha
        omega

/-- The statements of a body, up to its end. -/
theorem reads_body (h : ∀ i ∈ items, Stands depth width (lines i) (tokens i) (P i)) {k : Nested}
    (hk : IsAmple (Code.text width (List.intercalate gap (items.map lines))).length k) {n : Nat}
    (hn : depth < n) {last : Token.Kind} (hlast : last = .dedent ∨ last = .endOfText) :
    Reads (statements k n) (items.flatMap tokens ++ last :: rest) (last :: rest)
      (List.Forall₂ P items) := by
  obtain ⟨n, rfl⟩ : ∃ m, n = m + 1 := ⟨n - 1, by omega⟩
  have hne : ∀ i ∈ items, Code.text width (lines i) ≠ [] := by
    intro i hi htext
    obtain ⟨content, hcontent, ⟨c, hc, -⟩, -⟩ := (h i hi).lined
    rw [htext] at hcontent
    obtain ⟨-, rfl⟩ := List.append_eq_nil_iff.1 hcontent.symm
    cases hc
  obtain ⟨hcount, hlength⟩ := length_le_intercalate hne
  refine reads_statements tokens items (hcount.trans hk.1) (fun i hi => ?_) hlast
  obtain ⟨first, others, htokens, hdedent, hend⟩ := (h i hi).starts
  refine ⟨first, others, htokens, hdedent, hend, fun rest => ?_⟩
  exact (h i hi).reads k (hk.mono (hlength i hi)) n (Nat.le_of_lt_succ hn) rest

end Bodies

end Grammar

end ServiceStubs
