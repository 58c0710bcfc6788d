import ServiceStubs.Proofs.Grammar.Stands

/-!
# Functions and classes in their places

A definition stands in its place if its decorators, the line behind them and its body do. The line
of a function is a signature, that of a class a list of bases.

## Main definitions

* `Grammar.PlacedDecorator`: a decorator in its place

## Main statements

* `Grammar.stands_definition`: a definition behind its decorators
* `Grammar.stands_stub`, `Grammar.stands_documented`: functions without and with a docstring
* `Grammar.stands_class`: classes
* `Grammar.readModule_of_stands`: a text of one statement
-/

namespace ServiceStubs

namespace Grammar

open ServiceStubs.Tree Reader Token

variable {kinds kinds' rest : List Token.Kind} {depth width : Nat}

/-! ### Decorators -/

/-- A decorator in its place. Behind its sign it is cut into tokens of these kinds, and a reader
takes them up to the end of the line. -/
structure PlacedDecorator (text : List Char) (kinds : List Token.Kind) (P : Decorator → Prop) :
    Prop where
  plain : IsPlain text
  scans : Scans 0 ('@' :: text) (.sign "@" :: kinds)
  reads : ∀ k, IsAmple (text.length + 1) k → ∀ rest,
    Reads (decoratorExpr k k.bound) (kinds ++ .newline :: rest) (.newline :: rest) P

theorem PlacedDecorator.mono {text : List Char} {P Q : Decorator → Prop}
    (h : PlacedDecorator text kinds P)
    (hPQ : ∀ d, P d → Q d) : PlacedDecorator text kinds Q :=
  ⟨h.plain, h.scans, fun k hk rest => (h.reads k hk rest).mono hPQ⟩

theorem Reads.orElse_right {α : Type} {r s : Reader α} {P : α → Prop} (hr : Fails r kinds)
    (hs : Reads s kinds rest P) : Reads (Reader.orElse r fun _ => s) kinds rest P := by
  intro ts line hts
  obtain ⟨p, hp⟩ := hr ts line hts
  obtain ⟨a, ts', line', hread, hrest, ha⟩ := hs ts line hts
  exact ⟨a, ts', line', by simp only [Reader.orElse, hp, hread], hrest, ha⟩

theorem fails_sign {s : String} {first : Token.Kind} (h : first ≠ .sign s) :
    Fails (sign s) (first :: kinds) := by
  refine reads_peek.bind_fails fun a ha => ?_
  subst ha
  rw [if_neg (by simpa using h)]
  exact fun ts line _ => ⟨_, rfl⟩

/-- A dotted name behind the sign of a decorator. -/
theorem placedDecorator_dotted (id : Token.FreeName) (path : List Token.FreeName) :
    PlacedDecorator (dottedText id path) (dottedKinds id path) (·.expr = dotted id path) := by
  refine ⟨isPlain_dottedText id path,
    fun brackets blocks rest out _ hrest hout => ?_, fun k hk rest => ?_⟩
  · have hname := yields_dotted id path hrest.endsWord hout
    show Yields _ (['@'] ++ (dottedText id path ++ rest)) _
    refine .sign "@" rfl (by decide) (fun c hc => ⟨fun hmem => ?_, by simp⟩) rfl hname
    -- only an equality sign goes on with the sign
    have hequals : continuations "@".toList = ['='] := by decide +kernel
    rw [hequals, List.mem_singleton] at hmem
    subst hmem
    obtain ⟨d, hd, -⟩ := (isWord_name id).start
    have hhead : (dottedText id path ++ rest).head? = some d := by
      rw [dottedText, List.append_assoc]
      exact List.mem_head?_append_of_mem_head? hd
    obtain rfl : d = '=' := Option.some.inj (hhead.symm.trans hc)
    exact absurd ((isWord_name id).nameChars _ (List.mem_of_mem_head? hd)) (by decide)
  · obtain ⟨k', rfl, hk'⟩ := hk.exists_deeper
    have hbound := (length_le_dottedText id path).trans hk'.1
    obtain ⟨bound, hpos⟩ : ∃ n, k'.deeper.bound = n + 1 := by
      refine ⟨k'.bound - 1, (Nat.sub_add_cancel ?_).symm⟩
      exact (List.length_pos_iff.2 (dottedText_ne_nil id path)).trans_le hk'.1
    have hexpression : Reads (namedExpression k'.deeper) (dottedKinds id path ++ .newline :: rest)
        (.newline :: rest) (· = dotted id path) := by
      have hdotted := reads_dotted (k := k') id path hbound (c := .newline) rfl rest
      refine reads_peek.after (reads_peekSecond.after ?_)
      cases path <;> exact hdotted
    have hclosed : Fails (sign "(") (dottedKinds id path ++ .newline :: rest) := fails_sign (by simp)
    rw [hpos]
    exact .orElse_right hclosed.bind
      ((reads_located rfl hexpression).bind fun r hr => .pure hr)

/-- The kinds of the tokens of decorators, each on its line. -/
def decoratorKinds {ι : Type} (tokens : ι → List Token.Kind) (items : List ι) : List Token.Kind :=
  items.flatMap fun i => .sign "@" :: (tokens i ++ [Kind.newline])

section Decorated

variable {ι : Type} {D : ι → Decorator → Prop} {text : ι → String} {tokens : ι → List Token.Kind}
  {items : List ι} {lines : List String}

theorem text_decorator (i : ι) (ls : List String) :
    Code.text width (Code.decorator (text i) [] :: ls) =
      Text.blanks width ++ '@' :: (text i).toList ++ ['\n'] ++ Code.text width ls := by
  rw [← List.singleton_append, Code.text_append, text_line (by simp [Code.decorator])]
  simp [Code.decorator]

theorem lined_decorators (h : ∀ i ∈ items, PlacedDecorator (text i).toList (tokens i) (D i))
    (hlined : Lined depth width (Code.text width lines) kinds) :
    Lined depth width (Code.text width ((items.map fun i => Code.decorator (text i) []) ++ lines))
      (decoratorKinds tokens items ++ kinds) := by
  induction items with
  | nil => exact hlined
  | cons i items ih =>
    rw [List.forall_mem_cons] at h
    rw [List.map_cons, List.cons_append, text_decorator, decoratorKinds, List.flatMap_cons,
      ← decoratorKinds, ← List.cons_append, List.append_assoc _ _ kinds]
    exact (lined_line h.1.scans ⟨'@', rfl, rfl⟩).append (ih h.2)

theorem isPlain_decorators (h : ∀ i ∈ items, PlacedDecorator (text i).toList (tokens i) (D i))
    (hplain : IsPlain (Code.text width lines)) :
    IsPlain (Code.text width ((items.map fun i => Code.decorator (text i) []) ++ lines)) := by
  induction items with
  | nil => exact hplain
  | cons i items ih =>
    rw [List.forall_mem_cons] at h
    rw [List.map_cons, List.cons_append, text_decorator]
    exact (((isPlain_blanks width).append (h.1.plain.cons (by decide))).append
      (isPlain_nil.cons (by decide))).append (ih h.2)

theorem length_le_decorators (width : Nat) (items : List ι) (text : ι → String) (lines : List String) :
    items.length + (Code.text width lines).length ≤
        (Code.text width ((items.map fun i => Code.decorator (text i) []) ++ lines)).length ∧
      ∀ i ∈ items, (text i).toList.length + 1 ≤
        (Code.text width ((items.map fun i => Code.decorator (text i) []) ++ lines)).length := by
  induction items with
  | nil => simp
  | cons i items ih =>
    rw [List.map_cons, List.cons_append, text_decorator]
    simp only [List.length_append, List.length_cons, List.length_nil]
    refine ⟨by omega, fun j hj => ?_⟩
    rcases List.mem_cons.1 hj with rfl | hj
    · omega
    · have := ih.2 j hj
      omega

/-- **A definition behind its decorators.** -/
theorem stands_definition {P : List Decorator → StmtNode → Prop} {first : Token.Kind}
    (hdecorators : ∀ i ∈ items, PlacedDecorator (text i).toList (tokens i) (D i))
    (hplain : IsPlain (Code.text width lines))
    (hlined : Lined depth width (Code.text width lines) (first :: kinds))
    (hfirst : first = .keyword "def" ∨ first = .keyword "class")
    (hreads : ∀ k, IsAmple (Code.text width lines).length k → ∀ n, depth ≤ n → ∀ ds rest,
      Reads (definition k ds (block k (statements k n))) (first :: (kinds ++ rest)) rest
        fun s => P ds s.node) :
    Stands depth width ((items.map fun i => Code.decorator (text i) []) ++ lines)
      (decoratorKinds tokens items ++ first :: kinds)
      fun s => ∃ ds, List.Forall₂ D items ds ∧ P ds s.node := by
  refine ⟨isPlain_decorators hdecorators hplain, lined_decorators hdecorators hlined, ?_,
    fun k hk n hn rest => ?_⟩
  · cases items with
    | nil => exact ⟨first, kinds, rfl, by rcases hfirst with rfl | rfl <;> simp⟩
    | cons i items => exact ⟨.sign "@", _, rfl, by simp, by simp⟩
  · obtain ⟨hcount, hlength⟩ := length_le_decorators width items text lines
    rw [List.append_assoc, List.cons_append]
    refine (reads_decorated (P := fun ds s => P ds s.node) tokens items (by have := hk.1; omega)
      (fun i hi rest => (hdecorators i hi).reads k (hk.mono (hlength i hi)) rest) hfirst fun ds _ =>
        hreads k (hk.mono (by omega)) n hn ds rest).mono fun ss hss => ?_
    obtain ⟨ds, s, rfl, hds, hs⟩ := hss
    exact ⟨s, rfl, ds, hds, hs⟩

end Decorated

/-! ### Bodies -/

section Bodies

variable {ι κ : Type} {D : ι → Decorator → Prop} {decorator : ι → String}
  {decoratorTokens : ι → List Token.Kind} {decorators : List ι} {head : String}
  {P : List Decorator → (List Stmt → Prop) → StmtNode → Prop}

/-- The body of a function that says nothing. -/
def IsEllipsis (body : List Stmt) : Prop := ∃ s, body = [s] ∧ s.node = .expression (.constant .ellipsis)

/-- A definition on one line, with an ellipsis as its body. -/
theorem stands_stub (hdecorators : ∀ i ∈ decorators,
      PlacedDecorator (decorator i).toList (decoratorTokens i) (D i))
    (hhead : PlacedHead head kinds P) :
    Stands 0 width ((decorators.map fun i => Code.decorator (decorator i) []) ++ [head ++ " ..."])
      (decoratorKinds decoratorTokens decorators ++ (kinds ++ [Kind.sign "...", Kind.newline]))
      fun s => ∃ ds, List.Forall₂ D decorators ds ∧ P ds IsEllipsis s.node := by
  have hline : (head ++ " ...").toList = head.toList ++ [' ', '.', '.', '.'] := by simp
  have htext : Code.text width [head ++ " ..."] =
      Text.blanks width ++ (head.toList ++ [' ', '.', '.', '.']) ++ ['\n'] := by
    rw [text_line (by simp), hline]
  have hscans : Scans 0 (head.toList ++ [' ', '.', '.', '.']) (kinds ++ [Kind.sign "..."]) := by
    intro brackets blocks rest out hbrackets _ hout
    have hdots : Yields (.inLine brackets blocks) (['.', '.', '.'] ++ rest) (.sign "..." :: out) :=
      .sign "..." rfl (by decide) (endsSign_of_nil (by decide +kernel) _) rfl hout
    have hall := hhead.scans brackets blocks _ _ hbrackets (delimited_cons rfl _) hdots.blank
    simpa [List.append_assoc] using hall
  obtain ⟨first, others, rfl, hfirst⟩ := hhead.first
  refine stands_definition (P := fun ds => P ds IsEllipsis) hdecorators ?_ ?_ hfirst
    fun k hk n _ ds rest => ?_
  · refine isPlain_text (by
      rw [List.forall_mem_singleton, hline]
      exact hhead.plain.append (isPlain_of_all (by decide)))
  · rw [htext]
    have hlined : Lined 0 width _ _ := lined_line hscans (startsLine_append hhead.startsLine _)
    simpa [List.append_assoc] using hlined
  · rw [htext] at hk
    have hsize : head.toList.length + 2 ≤
        (Text.blanks width ++ (head.toList ++ [' ', '.', '.', '.']) ++ ['\n']).length := by
      simp only [List.length_append, List.length_cons, List.length_nil]
      omega
    have hread := hhead.reads k (hk.mono (by omega)) ds (block k (statements k n))
      (.sign "..." :: .newline :: rest) rest IsEllipsis ?_
    · simpa [List.append_assoc] using hread
    · obtain ⟨k', rfl, -⟩ := (hk.mono
        (hsize.trans' (by omega : 1 ≤ head.toList.length + 2))).exists_deeper
      exact reads_block_line (by simp) (reads_atomLine rfl fun c _ rest => reads_atom_ellipsis c rest)

/-- A definition with the statements of its body on lines of their own, and perhaps empty lines
between them. -/
theorem stands_block (gap : List String) (lines : κ → List String) (items : List κ)
    {tokens : κ → List Token.Kind} {Q : κ → Stmt → Prop} (hgap : ∀ line ∈ gap, line = "")
    (hdecorators : ∀ i ∈ decorators, PlacedDecorator (decorator i).toList (decoratorTokens i) (D i))
    (hhead : PlacedHead head kinds P) (hne : items ≠ [])
    (hitems : ∀ i ∈ items, Stands depth (width + 4) (lines i) (tokens i) (Q i)) :
    Stands (depth + 1) width ((decorators.map fun i => Code.decorator (decorator i) []) ++
        head :: Code.indent (List.intercalate gap (items.map lines)))
      (decoratorKinds decoratorTokens decorators ++
        (kinds ++ Kind.newline :: Kind.indent :: (items.flatMap tokens ++ [Kind.dedent])))
      fun s => ∃ ds, List.Forall₂ D decorators ds ∧ P ds (List.Forall₂ Q items) s.node := by
  have hne' : head ≠ "" := by
    rintro rfl
    obtain ⟨c, hc, -⟩ := hhead.startsLine
    cases hc
  have htext : Code.text width (head :: Code.indent (List.intercalate gap (items.map lines))) =
      Text.blanks width ++ head.toList ++
        '\n' :: Code.text (width + 4) (List.intercalate gap (items.map lines)) := by
    rw [Code.text_cons, Code.text_indent, Text.withMargin, if_neg (by simpa using hne')]
  obtain ⟨first, others, rfl, hfirst⟩ := hhead.first
  refine stands_definition (P := fun ds => P ds (List.Forall₂ Q items)) hdecorators ?_ ?_ hfirst
    fun k hk n hn ds rest => ?_
  · rw [htext]
    exact ((isPlain_blanks width).append hhead.plain).append
      ((isPlain_intercalate hgap fun i hi => (hitems i hi).plain).cons (by decide))
  · rw [htext]
    exact lined_block hhead.scans hhead.startsLine (lined_intercalate hgap hne fun i hi =>
      (hitems i hi).lined)
  · rw [htext] at hk
    have hample : IsAmple (Code.text (width + 4) (List.intercalate gap (items.map lines))).length k := by
      refine hk.mono ?_
      simp only [List.length_append, List.length_cons]
      omega
    have hbody : Reads (statements k n) (items.flatMap tokens ++ Kind.dedent :: rest) (.dedent :: rest)
        (List.Forall₂ Q items) := reads_body hitems hample hn (.inl rfl)
    have hread := hhead.reads k (hk.mono ?_) ds (block k (statements k n))
      (.newline :: .indent :: (items.flatMap tokens ++ Kind.dedent :: rest)) rest _
        (reads_block_indented hbody)
    · simpa [List.append_assoc] using hread
    · simp only [List.length_append, List.length_cons]
      omega

/-- What stands behind the colon of a function of an interface: its docstring on lines of its own,
if it has one. -/
def IsDocumentation (width : Nat) : Option String → List Stmt → Prop
  | none, body => IsEllipsis body
  | some docstring, body => ∃ s, body = [s] ∧ IsDocstring width docstring s

/-- **A function of which nothing but a docstring is given stands in its place.** -/
theorem stands_function {name : String} {params : List String} {returns docstring : Option String}
    (hdecorators : ∀ i ∈ decorators, PlacedDecorator (decorator i).toList (decoratorTokens i) (D i))
    (hhead : PlacedHead (signatureText name params (returns.getD "None")) kinds P)
    (hdocstring : ∀ d ∈ docstring, '\x00' ∉ d.toList ∧ Text.Closes d.toList) :
    ∃ kinds', Stands 1 width ((decorators.map fun i => Code.decorator (decorator i) []) ++
        Code.function name params returns ((docstring.map Text.docstringLines).getD [])) kinds'
      fun s => ∃ ds, List.Forall₂ D decorators ds ∧
        P ds (IsDocumentation (width + 4) docstring) s.node := by
  cases docstring with
  | none => exact ⟨_, (stands_stub hdecorators hhead).deeper (Nat.zero_le 1)⟩
  | some d =>
    obtain ⟨hnull, hcloses⟩ := hdocstring d rfl
    have hne : (Text.docstringLines d).isEmpty = false := by
      unfold Text.docstringLines
      split <;> rfl
    have hblock : Stands 1 width _ _ _ := stands_block [] (fun _ : Unit => Text.docstringLines d) [()]
      (by simp) hdecorators hhead (by simp) fun _ _ => stands_docstring hnull hcloses
    rw [List.map_singleton, List.intercalate_singleton, forall₂_unit] at hblock
    rw [Option.map_some, Option.getD_some, Code.function, hne]
    exact ⟨_, hblock⟩

end Bodies

/-! ### Texts -/

theorem toList_joinLines {lines : List String} (hne : lines ≠ []) :
    (Text.joinLines lines ++ "\n").toList = Code.text 0 lines := by
  induction lines with
  | nil => exact absurd rfl hne
  | cons line lines ih =>
    cases lines with
    | nil => simp [Text.joinLines, Code.text_cons, Text.withMargin_zero]
    | cons second lines =>
      have ih := ih (by simp)
      rw [Code.text_cons, ← ih, Text.withMargin_zero]
      simp [Text.joinLines, String.toList_intercalate]

theorem isPlain_source {source : List Char} {lines : List String} {P : Stmt → Prop}
    (hsource : endLastLine source = Code.text 0 lines) (h : Stands depth 0 lines kinds P) :
    IsPlain source := fun c hc => h.plain c (hsource ▸ mem_endLastLine hc)

/-- The tokens of a text that is one statement. The end of its last line may be missing. -/
theorem scanAll_of_stands {source : List Char} {lines : List String} {P : Stmt → Prop}
    (hsource : endLastLine source = Code.text 0 lines) (h : Stands depth 0 lines kinds P)
    (hdepth : depth < maxBlocks) : (scanAll source).isComplete = true ∧
      (scanAll source).tokens.map (·.kind) = kinds ++ [Kind.endOfText] := by
  refine scanAll_of_yields ?_
  rw [preparedText_eq fun hmem => (isPlain_source hsource h _ hmem).1 rfl, hsource]
  have houtside : YieldsOutside [⟨0, 0⟩] (Code.text 0 lines ++ []) (kinds ++ [Kind.endOfText]) :=
    h.lined.outside (by simpa using hdepth) (YieldsOutside.nil (by simp))
  simpa using houtside.outside

/-- **A text that is one statement is read as that statement.** The end of its last line may be
missing. -/
theorem readModule_of_ended {source : List Char} {lines : List String} {P : Stmt → Prop}
    (hsource : endLastLine source = Code.text 0 lines) (h : Stands depth 0 lines kinds P)
    (hdepth : depth < maxBlocks) : ∃ s, readModule source = .ok [s] ∧ P s := by
  have hplain := isPlain_source hsource h
  have hnull : source.contains '\x00' = false := by
    rw [List.contains_eq_mem, decide_eq_false_iff_not]
    exact fun hmem => (hplain _ hmem).2 rfl
  have hreturn : '\r' ∉ source := fun hmem => (hplain _ hmem).1 rfl
  have hlength : (Code.text 0 lines).length ≤ source.length + 1 := hsource ▸ length_endLastLine_le source
  obtain ⟨hcomplete, htokens⟩ := scanAll_of_stands hsource h hdepth
  set bound := source.length + (scanAll source).tokens.length + 2
  have hample : IsAmple (Code.text 0 lines).length (.ofDepth bound bound) :=
    ⟨by rw [bound_ofDepth]; omega, bound, by omega, by rw [bound_ofDepth]⟩
  have hbody : Reads (statements (.ofDepth bound bound) (maxBlocks + 1)) (kinds ++ [Kind.endOfText])
      [Kind.endOfText] fun ss => ∃ s, ss = [s] ∧ P s := by
    have hsize : IsAmple (Code.text 0 (List.intercalate [] ([()].map fun _ => lines))).length
        (.ofDepth bound bound) := by simpa using hample
    have hread : Reads (statements (.ofDepth bound bound) (maxBlocks + 1))
        ([()].flatMap (fun _ => kinds) ++ [Kind.endOfText]) [Kind.endOfText]
          (List.Forall₂ (fun _ => P) [()]) :=
      reads_body (fun _ _ => h) hsize (by omega) (.inr rfl)
    rw [forall₂_unit] at hread
    simpa using hread
  obtain ⟨ss, ts, line, hread, hrest, s, rfl, hs⟩ := hbody (scanAll source).tokens 0 htokens
  obtain ⟨t, rfl, ht⟩ : ∃ t, ts = [t] ∧ t.kind = .endOfText := by
    obtain ⟨t, others, rfl, ht, hothers⟩ := List.map_eq_cons_iff.1 hrest
    obtain rfl := List.map_eq_nil_iff.1 hothers
    exact ⟨t, rfl, ht⟩
  refine ⟨s, ?_, hs⟩
  have hrun : (statements (.ofDepth bound bound) (maxBlocks + 1)).run ⟨(scanAll source).tokens, 0⟩ =
      .ok ([s], ⟨[t], line⟩) := hread
  rw [readModule, hnull]
  simp only [Bool.false_eq_true, if_false, withLineFeeds_eq hreturn]
  rw [hrun]
  show (if (t.kind == .endOfText && (scanAll source).isComplete) = true then _ else _) = Except.ok [s]
  rw [ht, hcomplete]
  rfl

/-- **The text of a statement that stands in its place is read as that statement.** -/
theorem readModule_of_stands {lines : List String} {P : Stmt → Prop} (h : Stands depth 0 lines kinds P)
    (hdepth : depth < maxBlocks) :
    ∃ s, readModule (Text.joinLines lines ++ "\n").toList = .ok [s] ∧ P s := by
  obtain ⟨content, hcontent, ⟨first, hfirst, -⟩, -⟩ := h.lined
  have hne : lines ≠ [] := by
    rintro rfl
    obtain ⟨-, rfl⟩ := List.append_eq_nil_iff.1 hcontent.symm
    cases hfirst
  refine readModule_of_ended ?_ h hdepth
  rw [← toList_joinLines hne, endLastLine]
  simp

end Grammar

end ServiceStubs
