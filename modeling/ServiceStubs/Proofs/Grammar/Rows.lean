import ServiceStubs.Proofs.Grammar.Spans

/-!
# The lines of statements

The statements of a module stand one behind the other on the lines of the text. Simple statements
may share a line. A statement that has blocks ends where its last line ends, and a decorator fills
lines, so a definition has lines of its own: it starts on a fresh one, and so does what follows it.

## Main definitions

* `Tree.Stmt.firstLine`: the line that a statement starts on, its decorators included
* `Grammar.Trails`: two statements, one behind the other
* `Grammar.Rows`, `Grammar.Laid`: statements between two lines, and what that says of classes

## Main statements

* `Grammar.rows_of_statements`: the statements of a block
* `Grammar.rows_of_readModule`, `Grammar.laid_of_readModule`: the statements of a module
-/

namespace ServiceStubs

open ServiceStubs.Tree

/-! ### The first line of a statement -/

namespace Tree.Stmt

/-- The decorators in front of a definition. -/
def decorators (s : Stmt) : List Decorator :=
  match s.node with
  | .function _ _ _ _ ds _ | .classDef _ _ _ ds _ => ds
  | _ => []

/-- The line that a statement starts on, its decorators included. -/
def firstLine (s : Stmt) : ℕ :=
  s.decorators.foldl (fun line d => min line d.span.start.line) s.start.line

theorem lt_firstLine_iff {s : Stmt} {line : ℕ} : line < s.firstLine ↔
    line < s.start.line ∧ ∀ d ∈ s.decorators, line < d.span.start.line := by
  have hfold (ds : List Decorator) (first : ℕ) :
      line < ds.foldl (fun first d => min first d.span.start.line) first ↔
        line < first ∧ ∀ d ∈ ds, line < d.span.start.line := by
    induction ds generalizing first with
    | nil => simp
    | cons d ds ih => rw [List.foldl_cons, ih, lt_min_iff, List.forall_mem_cons, and_assoc]
  exact hfold s.decorators s.start.line

theorem firstLine_le (s : Stmt) : s.firstLine ≤ s.start.line :=
  not_lt.mp fun h => lt_irrefl _ (lt_firstLine_iff.mp h).1

/-- Only definitions have decorators. -/
theorem firstLine_of_plain {s : Stmt} (h : Grammar.isDefinition s.node = false) :
    s.firstLine = s.start.line := by
  have hdecorators : s.decorators = [] := by
    unfold decorators
    split <;> simp_all [Grammar.isDefinition]
  rw [firstLine, hdecorators, List.foldl_nil]

end Tree.Stmt

namespace Grammar

open Reader

variable {n b : ℕ} {fresh : Bool}

/-! ### Statements one behind the other -/

/-- If the statement is a class, then it and its decorators start behind a line. -/
def Behind (line : ℕ) (s : Stmt) : Prop :=
  ∀ name bases keywords ds body, s.node = .classDef name bases keywords ds body →
    line < s.start.line ∧ ∀ d ∈ ds, line < d.span.start.line

/-- If the statement is a class, then no line comes before the line that it starts on, and its
decorators are in front of it. -/
def Shaped (s : Stmt) : Prop :=
  ∀ name bases keywords ds body, s.node = .classDef name bases keywords ds body →
    s.start.line ≤ s.endLine ∧
      ∀ d ∈ ds, d.span.start.line ≤ d.span.endLine ∧ d.span.endLine < s.start.line

/-- Statements that stand one behind the other between two lines, as far as classes are concerned:
a class and its decorators have lines of their own. -/
structure Laid (line last : ℕ) (body : List Stmt) : Prop where
  ordered : body.Pairwise fun s t => Behind s.endLine t
  behind : ∀ s ∈ body, Behind line s
  shaped : ∀ s ∈ body, Shaped s
  last : ∀ s ∈ body, s.endLine ≤ last

/-- The second statement starts below the lines of the first one, or neither is a definition and it
starts on the last one of them. -/
def Trails (s t : Stmt) : Prop :=
  s.endLine < t.firstLine ∨
    s.endLine = t.firstLine ∧ isDefinition s.node = false ∧ isDefinition t.node = false

/-- Statements that stand one behind the other between two lines. -/
structure Rows (line last : ℕ) (body : List Stmt) : Prop where
  trails : body.Pairwise Trails
  fresh : ∀ s ∈ body, line < s.firstLine
  ordered : ∀ s ∈ body, s.firstLine ≤ s.endLine
  shaped : ∀ s ∈ body, Shaped s
  last : ∀ s ∈ body, s.endLine ≤ last

theorem behind_of_lt {s : Stmt} {line : ℕ} (h : line < s.firstLine) : Behind line s := by
  intro name bases keywords ds body hnode
  have hdecorators : s.decorators = ds := by rw [Stmt.decorators, hnode]
  have hlt := Stmt.lt_firstLine_iff.mp h
  rwa [hdecorators] at hlt

theorem shaped_of_plain {s : Stmt} (h : isDefinition s.node = false) : Shaped s := by
  intro name bases keywords ds body hnode
  rw [hnode] at h
  cases h

namespace Rows

theorem nil (line last : ℕ) : Rows line last [] := ⟨.nil, by simp, by simp, by simp, by simp⟩

theorem append {line mid last : ℕ} {ss ts : List Stmt} (hs : Rows line mid ss)
    (ht : Rows mid last ts) (hline : line ≤ mid) (hlast : mid ≤ last) :
    Rows line last (ss ++ ts) := by
  refine ⟨List.pairwise_append.mpr ⟨hs.trails, ht.trails, fun s hss t htt => .inl ?_⟩, ?_, ?_, ?_,
    ?_⟩
  · exact Nat.lt_of_le_of_lt (hs.last s hss) (ht.fresh t htt)
  · exact List.forall_mem_append.mpr ⟨hs.fresh, fun t htt => Nat.lt_of_le_of_lt hline (ht.fresh t htt)⟩
  · exact List.forall_mem_append.mpr ⟨hs.ordered, ht.ordered⟩
  · exact List.forall_mem_append.mpr ⟨hs.shaped, ht.shaped⟩
  · exact List.forall_mem_append.mpr ⟨fun s hss => Nat.le_trans (hs.last s hss) hlast, ht.last⟩

/-- A statement that is no definition. -/
theorem of_plain {line last : ℕ} {s : Stmt} (hs : isDefinition s.node = false)
    (hspan : SpanIn true line last s.span) : Rows line last [s] := by
  have hfirst := Stmt.firstLine_of_plain hs
  refine ⟨List.pairwise_singleton _ _, ?_, ?_, ?_, ?_⟩ <;> refine List.forall_mem_singleton.mpr ?_
  · exact hfirst ▸ hspan.fresh rfl
  · exact hfirst ▸ hspan.stop
  · exact shaped_of_plain hs
  · exact hspan.last

/-- As far as classes are concerned. -/
theorem laid {line last : ℕ} {body : List Stmt} (h : Rows line last body) : Laid line last body := by
  refine ⟨h.trails.imp fun {s t} hst => ?_, fun s hs => behind_of_lt (h.fresh s hs), h.shaped, h.last⟩
  rcases hst with hlt | ⟨-, -, hplain⟩
  · exact behind_of_lt hlt
  · intro name bases keywords ds body hnode
    rw [hnode] at hplain
    cases hplain

end Rows

/-! ### Statements of one line -/

theorem exists_of_run_map {α β : Type} {r : Reader α} {f : α → β} {input rest : Input} {x : β}
    (h : (f <$> r).run input = .ok (x, rest)) : ∃ a, r.run input = .ok (a, rest) ∧ f a = x := by
  rw [map_eq_pure_bind] at h
  obtain ⟨a, mid, hr, hpure⟩ := exists_of_run_bind h
  cases hpure
  exact ⟨a, hr, rfl⟩

theorem exists_of_run_optional {α : Type} {r : Reader α} {input rest : Input} {a : α}
    (h : (optional r).run input = .ok (some a, rest)) : r.run input = .ok (a, rest) := by
  have h : (Reader.orElse (some <$> r) fun _ => pure none).run input = .ok (some a, rest) := h
  rcases run_of_orElse h with h | h
  · obtain ⟨a', ha', heq⟩ := exists_of_run_map h
    rwa [← Option.some.inj heq]
  · cases h

theorem gives_plain (k : Nested) :
    Gives (fun s => isDefinition s.node = false) (asStatement (simpleNode k)) :=
  gives_asStatement (gives_simpleNode k) fun _ _ h => h

/-- A statement has a span between the tokens before and behind it. -/
theorem spanIn_of_asStatement {node : Reader StmtNode} (hnode : Eats node) {input rest : Input}
    {s : Stmt} (h : (asStatement node).run input = .ok (s, rest)) (hs : input.Steady n b fresh) :
    SpanIn fresh (input.floor b) (rest.floor b) s.span := by
  obtain ⟨⟨m, span⟩, mid, hlocated, h⟩ := exists_of_run_bind h
  cases h
  exact spanIn_of_located hnode hlocated hs

/-- Simple statements that stand one behind the other, the first of them behind a line that need not
be over. -/
structure InLine (line last : ℕ) (body : List Stmt) : Prop where
  plain : ∀ s ∈ body, isDefinition s.node = false
  spans : ∀ s ∈ body, SpanIn false line last s.span
  ordered : body.Pairwise fun s t => s.endLine ≤ t.start.line

theorem InLine.cons {line mid last : ℕ} {s : Stmt} {ss : List Stmt}
    (hs : isDefinition s.node = false) (hspan : SpanIn false line mid s.span)
    (hss : InLine mid last ss) (hlast : mid ≤ last) : InLine line last (s :: ss) where
  plain := List.forall_mem_cons.mpr ⟨hs, hss.plain⟩
  spans := List.forall_mem_cons.mpr ⟨hspan.mono (Nat.le_refl _) hlast, fun t ht =>
    (hss.spans t ht).mono (Nat.le_trans hspan.start (Nat.le_trans hspan.stop hspan.last))
      (Nat.le_refl _)⟩
  ordered := List.pairwise_cons.mpr
    ⟨fun t ht => Nat.le_trans hspan.last (hss.spans t ht).start, hss.ordered⟩

/-- The further statements of a line. -/
theorem inLine_of_repeated {bound depth times : ℕ} {input rest : Input} {ss : List Stmt}
    (h : (repeated times do
      if ← atSign ";" then optional (sign ";" *> asStatement (simpleNode (.ofDepth bound depth)))
      else pure none).run input = .ok (ss, rest)) (hs : input.Steady n b false) :
    InLine (input.floor b) (rest.floor b) ss := by
  induction times generalizing input ss with
  | zero =>
    cases h
    exact ⟨by simp, by simp, .nil⟩
  | succ times ih =>
    rw [repeated] at h
    obtain ⟨o, mid, hstep, hrest⟩ := exists_of_run_bind h
    have hmid := ((Reader.takes _ hstep).steady hs).1
    cases o with
    | none =>
      cases hrest
      exact ⟨by simp, by simp, .nil⟩
    | some s =>
      obtain ⟨others, last, hmore, hpure⟩ := exists_of_run_bind hrest
      cases hpure
      obtain ⟨semicolon, input', hat, hread⟩ := exists_of_run_bind hstep
      obtain ⟨input', hsign, hs'⟩ : ∃ input', input.Leads input' ∧
          (asStatement (simpleNode (.ofDepth bound depth))).run input' = .ok (s, mid) := by
        split at hread
        · have hone := exists_of_run_optional hread
          rw [seqRight_eq_bind] at hone
          obtain ⟨_, input'', hsign, hone⟩ := exists_of_run_bind hone
          exact ⟨input'', (Reader.takes _ hat).trans (Reader.takes _ hsign), hone⟩
        · cases hread
      have hspan := spanIn_of_asStatement (eats_simpleNode bound depth) hs' (hsign.steady hs).1
      exact .cons (gives_plain _ hs') (hspan.mono (hsign.floor_le hs) (Nat.le_refl _)) (ih hmore hmid)
        ((Reader.takes _ hmore).floor_le hmid)

theorem rows_of_simpleStatements {bound depth : ℕ} {input rest : Input} {ss : List Stmt}
    (h : (simpleStatements (.ofDepth bound depth)).run input = .ok (ss, rest))
    (hs : input.Steady n b true) : Rows (input.floor b) (rest.floor b) ss := by
  obtain ⟨first, mid, hfirst, h₁⟩ := exists_of_run_bind h
  obtain ⟨others, mid', hothers, h₂⟩ := exists_of_run_bind h₁
  obtain ⟨_, mid'', hsign, h₃⟩ := exists_of_run_bind h₂
  obtain ⟨_, last, hnewline, h₄⟩ := exists_of_run_bind h₃
  cases h₄
  have hmid := ((Reader.takes _ hfirst).steady (hs.relax false)).1
  have hmid' := ((Reader.takes _ hothers).steady hmid).1
  have hmore := ((Reader.takes _ hsign).trans (Reader.takes _ hnewline)).floor_le hmid'
  have hspan := spanIn_of_asStatement (eats_simpleNode bound depth) hfirst hs
  have hline := InLine.cons (gives_plain _ hfirst) ⟨hspan.start, nofun, hspan.stop, hspan.last⟩
    (inLine_of_repeated hothers hmid) ((Reader.takes _ hothers).floor_le hmid)
  -- the first statement starts a line, so all of them stand behind the lines before
  have hfresh : ∀ s ∈ first :: others, input.floor b < s.start.line := by
    refine List.forall_mem_cons.mpr ⟨hspan.fresh rfl, fun s hmem => ?_⟩
    exact Nat.lt_of_lt_of_le (hspan.fresh rfl)
      (Nat.le_trans hspan.stop ((List.pairwise_cons.mp hline.ordered).1 s hmem))
  refine ⟨hline.ordered.imp_of_mem fun {s t} hs ht hst => ?_, fun s hs => ?_, fun s hs => ?_,
    fun s hs => shaped_of_plain (hline.plain s hs),
    fun s hs => Nat.le_trans (hline.spans s hs).last hmore⟩
  · rw [Trails, Stmt.firstLine_of_plain (hline.plain t ht)]
    exact (Nat.lt_or_eq_of_le hst).imp_right fun heq => ⟨heq, hline.plain s hs, hline.plain t ht⟩
  · exact (Stmt.firstLine_of_plain (hline.plain s hs)).symm ▸ hfresh s hs
  · exact (Stmt.firstLine_of_plain (hline.plain s hs)).symm ▸ (hline.spans s hs).stop

/-! ### Definitions and other statements with blocks -/

theorem gives_decorators (k : Nested) (ds : List Decorator) (body : Reader (List Stmt)) :
    Gives (fun s => s.decorators = ds) (definition k ds body) := by
  have hfunction (isAsync : Bool) :
      Gives (fun m => Stmt.decorators (.stmt ⟨⟨0, 0⟩, 0⟩ m) = ds) (functionNode k isAsync ds body) :=
    .after fun _ => .after fun _ => .after fun _ => .after fun _ => .after fun _ => .after fun _ =>
      .pure rfl
  have hclass : Gives (fun m => Stmt.decorators (.stmt ⟨⟨0, 0⟩, 0⟩ m) = ds) (classNode k ds body) :=
    .after fun _ => .after fun _ => .after fun _ => .pure rfl
  exact gives_asStatement (.after fun _ => .ite hclass (.after fun _ => .ite
    (.after fun _ => hfunction true) (.after fun _ => hfunction false))) fun _ _ h => h

/-- A definition stands behind its decorators. -/
theorem rows_of_definition {k : Nested} {ds : List Decorator} {body : Reader (List Stmt)}
    {input rest : Input} {s : Stmt} {line : ℕ}
    (h : (definition k ds body).run input = .ok (s, rest)) (hs : input.Steady n b true)
    (hline : line ≤ input.floor b) (hds : ∀ d ∈ ds, SpanIn true line (input.floor b) d.span) :
    Rows line (rest.floor b) [s] := by
  have hspan : SpanIn true (input.floor b) (rest.floor b) s.span :=
    spanIn_of_asStatement (.kind? (.kind? ((Eats.kind _).bind _))) h hs
  have hdecorators : s.decorators = ds := gives_decorators k ds body h
  refine ⟨List.pairwise_singleton _ _, ?_, ?_, ?_, ?_⟩ <;> refine List.forall_mem_singleton.mpr ?_
  · rw [Stmt.lt_firstLine_iff, hdecorators]
    exact ⟨Nat.lt_of_le_of_lt hline (hspan.fresh rfl), fun d hd => (hds d hd).fresh rfl⟩
  · exact Nat.le_trans s.firstLine_le hspan.stop
  · intro name bases keywords ds' inner heq
    obtain rfl : ds' = ds := by rw [← hdecorators, Stmt.decorators, heq]
    exact ⟨hspan.stop, fun d hd => ⟨(hds d hd).stop,
      Nat.lt_of_le_of_lt (hds d hd).last (hspan.fresh rfl)⟩⟩
  · exact hspan.last

theorem rows_of_compound {bound depth : ℕ} {body : Reader (List Stmt)} {input rest : Input}
    {s : Stmt} (h : (compound (.ofDepth bound depth) body).run input = .ok (some s, rest))
    (hs : input.Steady n b true) : Rows (input.floor b) (rest.floor b) [s] := by
  have hplain {node : Reader StmtNode} (heats : Eats node) (hnode : Gives (isDefinition · = false) node)
      (hrun : (asStatement node).run input = .ok (s, rest)) :
      Rows (input.floor b) (rest.floor b) [s] := by
    have hgives : Gives (fun s => isDefinition s.node = false) (asStatement node) :=
      gives_asStatement hnode fun _ _ h => h
    exact .of_plain (hgives hrun) (spanIn_of_asStatement heats hrun hs)
  have hafter {node : Reader StmtNode} (hnode : Gives (isDefinition · = false) node)
      (hrun : (some <$> asStatement (discard next *> node)).run input = .ok (some s, rest)) :
      Rows (input.floor b) (rest.floor b) [s] := by
    obtain ⟨s', hs', heq⟩ := exists_of_run_map hrun
    obtain rfl := Option.some.inj heq
    exact hplain (Eats.next.seqRight _) (.seqRight hnode) hs'
  have hdefinition
      (hrun : (some <$> definition (.ofDepth bound depth) [] body).run input = .ok (some s, rest)) :
      Rows (input.floor b) (rest.floor b) [s] := by
    obtain ⟨s', hs', heq⟩ := exists_of_run_map hrun
    obtain rfl := Option.some.inj heq
    exact rows_of_definition hs' hs (Nat.le_refl _) (by simp)
  obtain ⟨kind, input', hpeek, hread⟩ := exists_of_run_bind h
  obtain ⟨-, rfl⟩ := eq_of_peek hpeek
  split at hread
  · obtain ⟨ds, mid, hds, hdef⟩ := exists_of_run_bind hread
    obtain ⟨s', last, hs', hpure⟩ := exists_of_run_bind hdef
    cases hpure
    exact rows_of_definition hs' (keeps_decorators _ hds hs) ((Reader.takes _ hds).floor_le hs)
      (spanIn_of_decorators hds hs)
  · exact hdefinition hread
  · exact hdefinition hread
  · exact hafter (.after fun _ => .after fun _ => .after fun _ => .pure rfl) hread
  · exact hafter (.after fun _ => .after fun _ => .after fun _ => .pure rfl) hread
  · exact hafter (gives_forLoop _ false body) hread
  · exact hafter (gives_withBlock _ false body) hread
  · exact hafter (gives_tryBlock _ body) hread
  · obtain ⟨second, input', hsecond, hread'⟩ := exists_of_run_bind hread
    rw [eq_of_peekSecond hsecond] at hread'
    split at hread'
    · exact hafter (.seqRight (gives_forLoop _ true body)) hread'
    · exact hafter (.seqRight (gives_withBlock _ true body)) hread'
    · exact hdefinition hread'
  · split at hread
    next => exact hplain (eats_matchOn _ body) (gives_matchOn _ body) (exists_of_run_optional hread)
    next => cases hread
  · cases hread

/-! ### Blocks and modules -/

theorem rows_of_statement {bound depth : ℕ} {body : Reader (List Stmt)} (hbody : EndsLine body)
    {input rest : Input} {ss : List Stmt}
    (h : (statement (.ofDepth bound depth) body).run input = .ok (ss, rest))
    (hs : input.Steady n b true) : Rows (input.floor b) (rest.floor b) ss := by
  obtain ⟨o, mid, hcompound, hrest⟩ := exists_of_run_bind h
  cases o with
  | some s =>
    cases hrest
    exact rows_of_compound hcompound hs
  | none =>
    have hmid := keeps_compound _ hbody hcompound hs
    have hle := (Reader.takes _ hcompound).floor_le hs
    have hrows := rows_of_simpleStatements hrest hmid
    exact ⟨hrows.trails, fun s hs => Nat.lt_of_le_of_lt hle (hrows.fresh s hs), hrows.ordered,
      hrows.shaped, hrows.last⟩

/-- **The statements of a block** stand between what is read before and behind them. -/
theorem rows_of_statements {bound depth blocks : ℕ} {input rest : Input} {ss : List Stmt}
    (h : (statements (.ofDepth bound depth) blocks).run input = .ok (ss, rest))
    (hs : input.Steady n b true) : Rows (input.floor b) (rest.floor b) ss := by
  cases blocks with
  | zero => cases h
  | succ blocks =>
    obtain ⟨groups, mid, hgroups, hpure⟩ := exists_of_run_bind h
    cases hpure
    have hblock := keeps_block (.ofDepth bound depth) (keeps_statements (.ofDepth bound depth) blocks)
    refine of_repeated (Q := fun line last groups => Rows line last groups.flatten)
      (keeps_group _ hblock) (fun line last _ => .nil line last) ?_ hgroups hs
    intro input mid ss hstep hsteady last groups hlast hrows
    obtain ⟨kind, input', hpeek, hread⟩ := exists_of_run_bind hstep
    obtain ⟨-, rfl⟩ := eq_of_peek hpeek
    split at hread
    · cases hread
    · cases hread
    · obtain ⟨ss', mid', hstatement, hpure⟩ := exists_of_run_bind hread
      cases hpure
      exact (rows_of_statement hblock hstatement hsteady).append hrows
        ((Reader.takes _ hstatement).floor_le hsteady) hlast

theorem rows_of_inOrder {source : List Char} {body : List Stmt}
    (h : readModule source = .ok body) (hb : b ≤ (Text.lines source).length)
    (htokens : Token.InOrder (Text.lines source).length true b (Token.scanAll source).tokens) :
    Rows b (Text.lines source).length body := by
  unfold readModule at h
  obtain ⟨-, h⟩ := not_of_check (by rintro u ⟨⟩) h
  obtain ⟨⟨body', rest⟩, hread, h⟩ := exists_of_bind h
  have hbody : body' = body := by
    dsimp only at h
    split at h
    · split at h
      · simpa [pure, Except.pure] using h
      · cases h
    · cases h
  subst hbody
  have hfloor : Input.floor b ⟨(Token.scanAll source).tokens, 0⟩ = b := Nat.max_eq_left (Nat.zero_le b)
  have hsteady : Input.Steady (Text.lines source).length b true ⟨(Token.scanAll source).tokens, 0⟩ :=
    ⟨by rwa [hfloor], by rwa [hfloor]⟩
  have hrows := rows_of_statements hread hsteady
  rw [hfloor] at hrows
  have hrest := (keeps_statements _ _ hread hsteady).within
  exact ⟨hrows.trails, hrows.fresh, hrows.ordered, hrows.shaped,
    fun s hs => Nat.le_trans (hrows.last s hs) hrest⟩

/-- **The statements of a module** stand one behind the other on the lines of the text, and a
definition and its decorators have lines of their own. -/
theorem rows_of_readModule {source : List Char} {body : List Stmt}
    (h : readModule source = .ok body) : Rows 0 (Text.lines source).length body :=
  rows_of_inOrder h (Nat.zero_le _) (Token.inOrder_scanAll source)

/-- If the text starts with a comment, no statement starts on its first line. -/
theorem rows_of_readModule_comment {rest : List Char} {body : List Stmt}
    (h : readModule ('#' :: rest) = .ok body) : Rows 1 (Text.lines ('#' :: rest)).length body := by
  refine rows_of_inOrder h ?_ (Token.inOrder_scanAll_of_comment rest)
  rw [Text.lines_cons_of_not_isBoundary (by decide)]
  cases Text.lines rest <;> simp [Text.consLine]

theorem laid_of_readModule {source : List Char} {body : List Stmt}
    (h : readModule source = .ok body) : Laid 0 (Text.lines source).length body :=
  (rows_of_readModule h).laid

end Grammar

end ServiceStubs
