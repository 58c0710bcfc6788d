import ServiceStubs.Proofs.Grammar.Identifiers
import ServiceStubs.Proofs.Token.Ordering

/-!
# Where what is read stands

The tokens of a text stand one behind the other, and so does what is read from them: it starts where
its first token stands, and it ends on the line of its last one.

Whether the line of the last token is over is known before and after each reader. A reader may leave
that open (`Grammar.Keeps`), and most do. What counts is that blocks and lines of statements end
with the end of a line.

## Main definitions

* `Grammar.Input.Steady`: the tokens to be read stand behind those that were taken
* `Grammar.Keeps`: whether the line is over behind a reader
* `Grammar.Eats`: readers that take a token
* `Grammar.SpanIn`: spans between two lines

## Main statements

* `Grammar.eats_expression`, `Grammar.eats_simpleNode`: expressions and statements take a token
* `Grammar.keeps_statement`: a statement ends with the end of a line
* `Grammar.spanIn_of_located`, `Grammar.spanIn_of_decorators`: where what is read stands
-/

namespace ServiceStubs

namespace Grammar

open ServiceStubs.Tree Reader

variable {n b : ℕ} {fresh : Bool}

/-! ### Tokens to be read -/

/-- The line behind which the next token stands. Tokens may be known to stand behind the line `b`
from the start. -/
def Input.floor (b : ℕ) (input : Input) : ℕ := max b input.lastLine

/-- The tokens stand one behind the other, up to the line `n`, behind those that were taken. If
`fresh`, the line of those is over. -/
structure Input.Steady (n b : ℕ) (fresh : Bool) (input : Input) : Prop where
  within : input.floor b ≤ n
  inOrder : Token.InOrder n fresh (input.floor b) input.tokens

theorem Input.Steady.relax {input : Input} (h : input.Steady n b true) (fresh : Bool) :
    input.Steady n b fresh := ⟨h.within, h.inOrder.relax fresh⟩

/-- The next token is taken, and it is visible. -/
theorem Input.Steady.visible {t : Token} {ts : List Token} {line : ℕ}
    (h : Input.Steady n b fresh ⟨t :: ts, line⟩) (ht : t.isVisible = true) :
    line ≤ t.span.start.line ∧ max b line ≤ t.span.start.line ∧
      (fresh = true → max b line < t.span.start.line) ∧ t.span.start.line ≤ t.span.endLine ∧
      Input.Steady n b false ⟨ts, t.span.endLine⟩ := by
  have horder := h.inOrder
  simp only [Token.InOrder, ht, if_true, Input.floor] at horder
  obtain ⟨hle, hlt, hspan, hn, hrest⟩ := horder
  have hfloor : Input.floor b ⟨ts, t.span.endLine⟩ = t.span.endLine := by
    simp only [Input.floor]
    omega
  exact ⟨by omega, hle, hlt, hspan, by omega, by rwa [hfloor]⟩

/-- The next token is taken, and it is part of the layout. -/
theorem Input.Steady.layout {t : Token} {ts : List Token} {line : ℕ}
    (h : Input.Steady n b fresh ⟨t :: ts, line⟩) (ht : t.isVisible = false) :
    Input.Steady n b (fresh || t.kind == .newline) ⟨ts, line⟩ := by
  have horder := h.inOrder
  simp only [Token.InOrder, ht, Bool.false_eq_true, if_false] at horder
  exact ⟨h.within, horder⟩

/-- Some tokens are taken. -/
theorem Input.Leads.steady {input rest : Input} (h : input.Leads rest)
    (hs : input.Steady n b false) : rest.Steady n b false ∧ input.lastLine ≤ rest.lastLine := by
  induction h with
  | refl => exact ⟨hs, Nat.le_refl _⟩
  | @tail t ts line rest h ih =>
    rw [Input.lineBehind] at ih
    cases ht : t.isVisible with
    | true =>
      obtain ⟨hle, -, -, hspan, hrest⟩ := hs.visible ht
      rw [ht] at ih
      obtain ⟨hsteady, hline⟩ := ih hrest
      exact ⟨hsteady, by simp only [if_true] at hline ⊢; omega⟩
    | false =>
      rw [ht] at ih
      have hrest := hs.layout ht
      refine ih ?_
      cases hkind : t.kind == .newline
      · simpa [hkind] using hrest
      · rw [hkind, Bool.or_true] at hrest
        exact hrest.relax false

theorem Input.floor_mono {input rest : Input} (h : input.lastLine ≤ rest.lastLine) :
    input.floor b ≤ rest.floor b := by
  unfold Input.floor
  omega

/-! ### Single tokens -/

/-- The first token of the input is of some kind, and the rest of the input is behind it. -/
def TakesKind (k : Token.Kind) (input rest : Input) : Prop :=
  ∃ t ts, input.tokens = t :: ts ∧ t.kind = k ∧ rest = ⟨ts, Input.lineBehind input.lastLine t⟩

theorem takesKind_of_next {input rest : Input} {k : Token.Kind}
    (h : next.run input = .ok (k, rest)) : TakesKind k input rest := by
  obtain ⟨_ | ⟨t, ts⟩, line⟩ := input
  · cases h
  · cases h
    exact ⟨t, ts, rfl, rfl, rfl⟩

theorem eq_of_peek {input rest : Input} {k : Token.Kind} (h : peek.run input = .ok (k, rest)) :
    k = input.firstKind ∧ rest = input := by
  cases h
  exact ⟨rfl, rfl⟩

theorem eq_of_peekSecond {input rest : Input} {k : Token.Kind}
    (h : peekSecond.run input = .ok (k, rest)) : rest = input := by
  cases h
  rfl

theorem TakesKind.firstKind {k : Token.Kind} {input rest : Input} (h : TakesKind k input rest) :
    input.firstKind = k := by
  obtain ⟨t, ts, htokens, hkind, -⟩ := h
  rw [Input.firstKind, htokens]
  exact hkind

theorem exists_of_discard_next {input rest : Input} {u : PUnit}
    (h : (discard next).run input = .ok (u, rest)) : TakesKind input.firstKind input rest := by
  have h : (next >>= fun _ => pure PUnit.unit).run input = .ok (u, rest) := h
  obtain ⟨k, mid, hnext, hpure⟩ := exists_of_run_bind h
  cases hpure
  have htakes := takesKind_of_next hnext
  rwa [htakes.firstKind]

theorem takesKind_of_kind {k : Token.Kind} {input rest : Input} {u : Unit}
    (h : (kind k).run input = .ok (u, rest)) : TakesKind k input rest := by
  obtain ⟨k', mid, hpeek, h⟩ := exists_of_run_bind h
  obtain ⟨rfl, rfl⟩ := eq_of_peek hpeek
  split at h
  next hk =>
    have htakes := exists_of_discard_next h
    rwa [eq_of_beq hk] at htakes
  next => cases h

/-- A token that may stand here is taken, or nothing happens. -/
theorem cases_of_kind? {k : Token.Kind} {input rest : Input} {found : Bool}
    (h : (kind? k).run input = .ok (found, rest)) :
    (found = true ∧ TakesKind k input rest) ∨ (found = false ∧ rest = input) := by
  obtain ⟨k', mid, hpeek, h⟩ := exists_of_run_bind h
  obtain ⟨rfl, rfl⟩ := eq_of_peek hpeek
  split at h
  next hk =>
    obtain ⟨u, mid, htake, hpure⟩ := exists_of_run_bind h
    cases hpure
    have htakes := exists_of_discard_next htake
    rw [eq_of_beq hk] at htakes
    exact .inl ⟨rfl, htakes⟩
  next =>
    cases h
    exact .inr ⟨rfl, rfl⟩

theorem TakesKind.length_lt {k : Token.Kind} {input rest : Input} (h : TakesKind k input rest) :
    rest.tokens.length < input.tokens.length := by
  obtain ⟨t, ts, htokens, -, rfl⟩ := h
  rw [htokens]
  exact Nat.lt_succ_self _

/-! ### Readers that take a token -/

/-- The reader takes a token. -/
def Eats {α : Type} (r : Reader α) : Prop :=
  ∀ ⦃input a rest⦄, r.run input = .ok (a, rest) → rest.tokens.length < input.tokens.length

theorem Input.Leads.length_le {input rest : Input} (h : input.Leads rest) :
    rest.tokens.length ≤ input.tokens.length := by
  induction h with
  | refl => exact Nat.le_refl _
  | tail _ ih => exact Nat.le_succ_of_le ih

namespace Eats

variable {α β : Type}

theorem bind {r : Reader α} (h : Eats r) (f : α → Reader β) : Eats (r >>= f) := by
  intro input x rest hrun
  obtain ⟨a, mid, hr, hf⟩ := exists_of_run_bind hrun
  exact Nat.lt_of_le_of_lt ((f a).takes hf).length_le (h hr)

theorem after {r : Reader α} {f : α → Reader β} (h : ∀ a, Eats (f a)) : Eats (r >>= f) := by
  intro input x rest hrun
  obtain ⟨a, mid, hr, hf⟩ := exists_of_run_bind hrun
  exact Nat.lt_of_lt_of_le (h a hf) (r.takes hr).length_le

theorem seqRight {r : Reader α} (h : Eats r) (s : Reader β) : Eats (r *> s) := by
  rw [seqRight_eq_bind]
  exact h.bind _

theorem failure : Eats (Alternative.failure : Reader α) := by
  intro input a rest h
  cases h

theorem next : Eats (discard Reader.next) :=
  fun _ _ _ h => (exists_of_discard_next h).length_lt

theorem kind (k : Token.Kind) : Eats (Reader.kind k) :=
  fun _ _ _ h => (takesKind_of_kind h).length_lt

/-- What is read where a token may stand takes one, if what is read without it does. -/
theorem kind? {k : Token.Kind} {f : Bool → Reader α} (h : Eats (f false)) :
    Eats (Reader.kind? k >>= f) := by
  intro input x rest hrun
  obtain ⟨found, mid, hfound, hf⟩ := exists_of_run_bind hrun
  rcases cases_of_kind? hfound with ⟨rfl, htakes⟩ | ⟨rfl, rfl⟩
  · exact Nat.lt_of_le_of_lt ((f true).takes hf).length_le htakes.length_lt
  · exact h hf

end Eats

/-! ### Expressions take a token -/

theorem eats_literals (k : Nested) : Eats (literals k) := by
  intro input e rest hrun
  obtain ⟨ls, mid, hls, hvalue⟩ := exists_of_run_bind hrun
  cases hbound : k.bound with
  | zero =>
    rw [hbound] at hls
    cases hls
    cases hvalue
  | succ bound =>
    rw [hbound, repeated] at hls
    obtain ⟨l, first, hfirst, hmore⟩ := exists_of_run_bind hls
    obtain ⟨kind, input', hpeek, htake⟩ := exists_of_run_bind hfirst
    obtain ⟨-, rfl⟩ := eq_of_peek hpeek
    split at htake
    next =>
      -- the first literal is a token, and nothing gives one back
      have hlt := (Eats.next.bind _) htake
      have hmid := (Reader.takes _ hmore).length_le
      have hrest := (Reader.takes _ hvalue).length_le
      omega
    next =>
      cases htake
      cases hmore
      cases hvalue

theorem eats_atom (k : Nested) : Eats (atom k) := by
  refine .after fun kind => ?_
  split
  · exact Eats.next.bind _
  · exact Eats.next.bind _
  · exact eats_literals k
  · exact Eats.next.bind _
  · exact Eats.next.bind _
  · exact Eats.next.bind _
  · exact Eats.next.bind _
  · exact Eats.next.bind _
  · exact Eats.next.bind _
  · exact Eats.next.bind _
  · exact .failure

theorem eats_primary (k : Nested) : Eats (primary k) := (eats_atom k).bind _

theorem eats_factor (k : Nested) : Eats (factor k) := by
  have hpower : Eats (power k) := by
    refine Eats.bind (Eats.kind? ?_) _
    exact eats_primary k
  exact .kind? (.kind? (.kind? hpower))

theorem eats_leftGrouped (k : Nested) (operators : List (String × BinaryOp)) {operand : Reader Expr}
    (h : Eats operand) : Eats (leftGrouped k operators operand) := h.bind _

theorem eats_joined (k : Nested) (word : String) (op : BoolOp) {operand : Reader Expr}
    (h : Eats operand) : Eats (joined k word op operand) := h.bind _

theorem eats_disjunction (k : Nested) : Eats (disjunction k) := by
  have hbitOr : Eats (bitOr k) :=
    eats_leftGrouped k _ (eats_leftGrouped k _ (eats_leftGrouped k _ (eats_leftGrouped k _
      (eats_leftGrouped k _ (eats_leftGrouped k _ (eats_factor k))))))
  have hinversion : Eats (inversion k) := .kind? (hbitOr.bind _)
  exact eats_joined k _ _ (eats_joined k _ _ hinversion)

/-- **An expression takes a token.** -/
theorem eats_expression (k : Nested) : Eats (expression k) :=
  .kind? ((eats_disjunction k).bind _)

theorem eats_nested (bound depth : ℕ) : Eats (Nested.ofDepth bound depth).expression := by
  cases depth with
  | zero => exact .failure
  | succ depth => exact eats_expression _

theorem eats_namedExpression (bound depth : ℕ) :
    Eats (namedExpression (.ofDepth bound depth)) := by
  refine .after fun first => .after fun second => ?_
  split
  · exact Eats.next.bind _
  · exact eats_nested bound depth

theorem eats_starExpressions (bound depth : ℕ) :
    Eats (starExpressions (.ofDepth bound depth)) := by
  have hitem : Eats (starExpression (.ofDepth bound depth)) := .kind? (eats_nested bound depth)
  exact (hitem.bind _).bind _

theorem eats_yieldExpression (k : Nested) : Eats (yieldExpression k) := (Eats.kind _).bind _

/-! ### Statements take a token -/

/-- **A statement on one line takes a token.** -/
theorem eats_simpleNode (bound depth : ℕ) : Eats (simpleNode (.ofDepth bound depth)) := by
  refine .after fun kind => ?_
  split
  · exact Eats.next.bind _
  · exact Eats.next.bind _
  · exact Eats.next.bind _
  · exact Eats.next.bind _
  · exact Eats.next.seqRight _
  · exact Eats.next.seqRight _
  · exact Eats.next.seqRight _
  · exact Eats.next.bind _
  · exact (eats_yieldExpression _).bind _
  · exact Eats.next.bind _
  · exact Eats.next.bind _
  · exact Eats.next.bind _
  · exact .after fun _ => (eats_starExpressions bound depth).bind _

theorem eats_matchOn (k : Nested) (body : Reader (List Stmt)) : Eats (matchOn k body) := by
  refine Eats.bind (Eats.after fun found => ?_) _
  split
  · exact Eats.next
  · exact .failure

/-! ### Ends of lines -/

/-- If the line is over or not as `fresh` says, then behind the reader it is over if `ended` says so
of what was read. -/
def Keeps {α : Type} (fresh : Bool) (r : Reader α) (ended : α → Bool) : Prop :=
  ∀ ⦃n b input a rest⦄, r.run input = .ok (a, rest) → input.Steady n b fresh →
    rest.Steady n b (ended a)

/-- The reader ends with the end of a line. -/
abbrev EndsLine {α : Type} (r : Reader α) : Prop := Keeps false r fun _ => true

/-- The reader ends with the end of a line if it starts behind one. -/
abbrev KeepsLine {α : Type} (r : Reader α) : Prop := Keeps true r fun _ => true

theorem TakesKind.steady_layout {k : Token.Kind} {input rest : Input} (h : TakesKind k input rest)
    (hk : k = .indent ∨ k = .dedent) (hs : input.Steady n b true) : rest.Steady n b true := by
  obtain ⟨t, ts, htokens, rfl, rfl⟩ := h
  have ht : t.isVisible = false := by rcases hk with hk | hk <;> simp [Token.isVisible, hk]
  obtain ⟨tokens, line⟩ := input
  obtain rfl : tokens = t :: ts := htokens
  simpa [Input.lineBehind, ht] using hs.layout ht

theorem TakesKind.steady_newline {input rest : Input} (h : TakesKind .newline input rest)
    (hs : input.Steady n b fresh) : rest.Steady n b true := by
  obtain ⟨t, ts, htokens, hk, rfl⟩ := h
  have ht : t.isVisible = false := by simp [Token.isVisible, hk]
  obtain ⟨tokens, line⟩ := input
  obtain rfl : tokens = t :: ts := htokens
  simpa [Input.lineBehind, ht, hk] using hs.layout ht

namespace Keeps

variable {α β : Type} {ended : α → Bool} {ended' : β → Bool}

theorem any (r : Reader α) : Keeps false r fun _ => false :=
  fun _ _ _ _ _ h hs => ((r.takes h).steady hs).1

theorem relax {r : Reader α} (h : Keeps false r ended) : Keeps true r ended :=
  fun _ _ _ _ _ hrun hs => h hrun (hs.relax false)

theorem pure (fresh : Bool) (a : α) : Keeps fresh (Pure.pure a) fun _ => fresh := by
  intro n b input a' rest h hs
  cases h
  exact hs

theorem failure : Keeps fresh (Alternative.failure : Reader α) ended := by
  intro n b input a rest h
  cases h

theorem bind {r : Reader α} {f : α → Reader β} (hr : Keeps fresh r ended)
    (hf : ∀ a, Keeps (ended a) (f a) ended') : Keeps fresh (r >>= f) ended' := by
  intro n b input x rest hrun hs
  obtain ⟨a, mid, hmid, hrest⟩ := exists_of_run_bind hrun
  exact hf a hrest (hr hmid hs)

/-- What is read first may leave open whether the line is over. -/
theorem after {r : Reader α} {f : α → Reader β} (hf : ∀ a, Keeps false (f a) ended') :
    Keeps false (r >>= f) ended' := (any r).bind hf

theorem seqRight {r : Reader α} {s : Reader β} (hs : Keeps false s ended') :
    Keeps false (r *> s) ended' := by
  rw [seqRight_eq_bind]
  exact after fun _ => hs

theorem map {r : Reader α} (hr : Keeps fresh r fun _ => true) (f : α → β) :
    Keeps fresh (f <$> r) fun _ => true := by
  rw [map_eq_pure_bind]
  exact hr.bind fun a => pure true (f a)

theorem orElse {r : Reader α} {s : Unit → Reader α} (hr : Keeps fresh r ended)
    (hs : Keeps fresh (s ()) ended) : Keeps fresh (Reader.orElse r s) ended := by
  intro n b input a rest h hsteady
  rcases run_of_orElse h with h | h
  · exact hr h hsteady
  · exact hs h hsteady

theorem optional {r : Reader α} (hr : KeepsLine r) : KeepsLine (optional r) := by
  show KeepsLine (Reader.orElse (some <$> r) fun _ => Pure.pure none)
  exact orElse (hr.map some) (pure true none)

theorem ite {c : Prop} [Decidable c] {r s : Reader α} (hr : Keeps fresh r ended)
    (hs : Keeps fresh s ended) : Keeps fresh (if c then r else s) ended := by
  split
  · exact hr
  · exact hs

/-- A check in between makes no difference. -/
theorem check {c : Prop} [Decidable c] {f : PUnit → Reader β}
    (hf : ∀ u, Keeps fresh (f u) ended') :
    Keeps fresh (if c then (do let u ← (Alternative.failure : Reader PUnit); f u) else f ())
      ended' := by
  split
  · intro n b input a rest h
    cases h
  · exact hf ()

/-- A look ahead takes nothing. -/
theorem look (g : Input → Option α) (hg) : Keeps fresh (Reader.look g hg) fun _ => fresh := by
  intro n b input a rest h hs
  dsimp only [Reader.look] at h
  split at h
  · cases h
    exact hs
  · cases h

/-- Where a token of the text may stand, the line is not over if it does. -/
theorem kind? (k : Token.Kind) : Keeps fresh (Reader.kind? k) fun found => !found && fresh := by
  intro n b input found rest h hs
  rcases cases_of_kind? h with ⟨rfl, htakes⟩ | ⟨rfl, rfl⟩
  · cases fresh with
    | true => exact any (Reader.kind? k) h (hs.relax false)
    | false => exact any (Reader.kind? k) h hs
  · exact hs

/-- Changes of the indentation stand behind the end of a line. -/
theorem layout {k : Token.Kind} (hk : k = .indent ∨ k = .dedent) : KeepsLine (kind k) :=
  fun _ _ _ _ _ h hs => (takesKind_of_kind h).steady_layout hk hs

theorem newline : EndsLine (kind .newline) :=
  fun _ _ _ _ _ h hs => (takesKind_of_kind h).steady_newline hs

theorem newline? : Keeps false (Reader.kind? .newline) id := by
  intro n b input found rest h hs
  rcases cases_of_kind? h with ⟨rfl, htakes⟩ | ⟨rfl, rfl⟩
  · exact htakes.steady_newline hs
  · exact hs

theorem dedent? : KeepsLine (Reader.kind? .dedent) := by
  intro n b input found rest h hs
  rcases cases_of_kind? h with ⟨rfl, htakes⟩ | ⟨rfl, rfl⟩
  · exact htakes.steady_layout (.inr rfl) hs
  · exact hs

theorem repeated {step : Reader (Option α)} (h : KeepsLine step) (bound : ℕ) :
    KeepsLine (Reader.repeated bound step) := by
  induction bound with
  | zero => exact pure true _
  | succ bound ih =>
    refine h.bind fun o => ?_
    cases o with
    | none => exact pure true _
    | some a => exact ih.bind fun as => pure true _

end Keeps

/-! ### Statements end with the end of a line -/

theorem keeps_atKeyword (word : String) : Keeps fresh (atKeyword word) fun _ => fresh :=
  (Keeps.look _ _).bind fun _ => .pure fresh _

theorem keeps_asStatement {node : Reader StmtNode} (h : EndsLine node) :
    EndsLine (asStatement node) :=
  Keeps.bind (.after fun _ => h.bind fun _ => (Keeps.look _ _).bind fun _ => .pure true _)
    fun _ => .pure true _

theorem keeps_simpleStatements (k : Nested) : EndsLine (simpleStatements k) :=
  .after fun _ => .after fun _ => .after fun _ => Keeps.newline.bind fun _ => .pure true _

theorem keeps_block (k : Nested) {indented : Reader (List Stmt)} (h : KeepsLine indented) :
    EndsLine (block k indented) := by
  refine Keeps.newline?.bind fun found => ?_
  cases found with
  | true =>
    exact (Keeps.layout (.inl rfl)).bind fun _ => h.bind fun _ =>
      (Keeps.layout (.inr rfl)).bind fun _ => .pure true _
  | false => exact keeps_simpleStatements k

section Suites

variable {body : Reader (List Stmt)} (hbody : EndsLine body)

include hbody

theorem keeps_suite : EndsLine (suite body) := .seqRight hbody

theorem keeps_optionalSuite (word : String) : KeepsLine (optionalSuite word body) := by
  refine (Keeps.kind? _).bind fun found => ?_
  cases found with
  | true => exact keeps_suite hbody
  | false => exact .pure true _

theorem keeps_elseBranches (k : Nested) (bound : ℕ) : KeepsLine (elseBranches k body bound) := by
  induction bound with
  | zero => exact .failure
  | succ bound ih =>
    refine (keeps_atKeyword _).bind fun found => .ite (Keeps.relax ?_) (keeps_optionalSuite hbody _)
    refine Keeps.bind (keeps_asStatement ?_) fun _ => .pure true _
    exact .after fun _ => .after fun _ => (keeps_suite hbody).bind fun _ => ih.bind fun _ =>
      .pure true _

theorem keeps_forLoop (k : Nested) (isAsync : Bool) : EndsLine (forLoop k isAsync body) :=
  .after fun _ => .after fun _ => .after fun _ => (keeps_suite hbody).bind fun _ =>
    (keeps_optionalSuite hbody _).bind fun _ => .pure true _

theorem keeps_withBlock (k : Nested) (isAsync : Bool) : EndsLine (withBlock k isAsync body) :=
  .after fun _ => (keeps_suite hbody).bind fun _ => .pure true _

theorem keeps_handler (k : Nested) : EndsLine (handler k body) := by
  refine .after fun _ => .after fun grouped => .after fun colon => .ite ?_ ?_
  · exact (keeps_suite hbody).bind fun _ => .pure true _
  · exact .after fun _ => .after fun _ => (keeps_suite hbody).bind fun _ => .pure true _

theorem keeps_tryBlock (k : Nested) : EndsLine (tryBlock k body) := by
  have hhandler : KeepsLine (do
      if ← atKeyword "except" then some <$> handler k body else pure none) :=
    (keeps_atKeyword _).bind fun _ => .ite ((keeps_handler hbody k).map some).relax (.pure true _)
  refine (keeps_suite hbody).bind fun _ => (Keeps.repeated hhandler _).bind fun handlers => ?_
  refine (Keeps.ite (.pure true _) (keeps_optionalSuite hbody _)).bind fun _ => ?_
  exact (keeps_optionalSuite hbody _).bind fun _ => .check fun _ => .check fun _ => .pure true _

theorem keeps_matchCase (k : Nested) : EndsLine (matchCase k body) :=
  .after fun _ => .after fun _ => .after fun _ => (keeps_suite hbody).bind fun _ => .pure true _

theorem keeps_matchOn (k : Nested) : EndsLine (matchOn k body) := by
  have hcase := keeps_matchCase hbody k
  have hmore : KeepsLine (do
      if ← kind? .dedent then pure none else some <$> matchCase k body) :=
    Keeps.dedent?.bind fun _ => .ite (.pure true _) (hcase.map some).relax
  have hcases (items : List Expr) (comma : Bool) : EndsLine (α := StmtNode) (do
      sign ":"
      kind .newline
      kind .indent
      let first ← matchCase k body
      let others ← repeated k.bound do
        if ← kind? .dedent then pure none else some <$> matchCase k body
      return .matchOn (ofList items comma) (first :: others)) :=
    .after fun _ => Keeps.newline.bind fun _ => (Keeps.layout (.inl rfl)).bind fun _ =>
      hcase.relax.bind fun _ => (Keeps.repeated hmore _).bind fun _ => .pure true _
  refine .after fun _ => .after fun items => ?_
  obtain ⟨items, comma⟩ := items
  dsimp only
  split
  · exact .after fun _ => hcases _ _
  · exact hcases _ _

theorem keeps_definition (k : Nested) (ds : List Decorator) : EndsLine (definition k ds body) := by
  have hfunction (isAsync : Bool) : EndsLine (functionNode k isAsync ds body) :=
    .after fun _ => .after fun _ => .after fun _ => .after fun _ => .after fun _ =>
      (keeps_suite hbody).bind fun _ => .pure true _
  have hclass : EndsLine (classNode k ds body) :=
    .after fun _ => .after fun _ => (keeps_suite hbody).bind fun _ => .pure true _
  refine keeps_asStatement (.after fun _ => .ite hclass (.after fun _ => .ite ?_ ?_))
  · exact .after fun _ => hfunction true
  · exact .after fun _ => hfunction false

end Suites

theorem keeps_decorator (k : Nested) : KeepsLine (do
    if ← sign? "@" then
      let d ← decoratorExpr k k.bound
      kind .newline
      return some d
    else return none) := by
  refine (Keeps.kind? _).bind fun found => ?_
  cases found with
  | true => exact .after fun _ => Keeps.newline.bind fun _ => .pure true _
  | false => exact .pure true _

theorem keeps_decorators (k : Nested) : KeepsLine (decorators k) :=
  .repeated (keeps_decorator k) _

theorem keeps_compound (k : Nested) {body : Reader (List Stmt)} (hbody : EndsLine body) :
    KeepsLine (compound k body) := by
  have hsome {r : Reader Stmt} (h : EndsLine r) : KeepsLine (some <$> r) := (h.map some).relax
  have hafter {node : Reader StmtNode} (h : EndsLine node) :
      KeepsLine (some <$> asStatement (discard next *> node)) :=
    hsome (keeps_asStatement (.seqRight h))
  have hdefinition := keeps_definition hbody k []
  refine (Keeps.look _ _).bind fun kind => ?_
  split
  · exact (keeps_decorators k).bind fun ds => (keeps_definition hbody k ds).relax.bind fun _ =>
      .pure true _
  · exact hsome hdefinition
  · exact hsome hdefinition
  · exact hafter (.after fun _ => (keeps_suite hbody).bind fun _ =>
      (keeps_elseBranches hbody k _).bind fun _ => .pure true _)
  · exact hafter (.after fun _ => (keeps_suite hbody).bind fun _ =>
      (keeps_optionalSuite hbody _).bind fun _ => .pure true _)
  · exact hafter (keeps_forLoop hbody k false)
  · exact hafter (keeps_withBlock hbody k false)
  · exact hafter (keeps_tryBlock hbody k)
  · refine (Keeps.look _ _).bind fun second => ?_
    split
    · exact hafter (.seqRight (keeps_forLoop hbody k true))
    · exact hafter (.seqRight (keeps_withBlock hbody k true))
    · exact hsome hdefinition
  · exact .ite (.optional (keeps_asStatement (keeps_matchOn hbody k)).relax) (.pure true _)
  · exact .pure true _

/-- **A statement ends with the end of a line**, if it starts behind one. -/
theorem keeps_statement (k : Nested) {body : Reader (List Stmt)} (hbody : EndsLine body) :
    KeepsLine (statement k body) := by
  refine (keeps_compound k hbody).bind fun o => ?_
  cases o with
  | none => exact (keeps_simpleStatements k).relax
  | some s => exact .pure true _

theorem keeps_group (k : Nested) {body : Reader (List Stmt)} (hbody : EndsLine body) :
    KeepsLine (do
      match ← peek with
      | .dedent | .endOfText => return none
      | _ => return some (← statement k body)) := by
  refine (Keeps.look _ _).bind fun kind => ?_
  split
  · exact .pure true _
  · exact .pure true _
  · exact (keeps_statement k hbody).bind fun _ => .pure true _

theorem keeps_statements (k : Nested) (depth : ℕ) : KeepsLine (statements k depth) := by
  induction depth with
  | zero => exact .failure
  | succ depth ih =>
    exact (Keeps.repeated (keeps_group k (keeps_block k ih)) _).bind fun _ => .pure true _

/-! ### Spans -/

/-- A span between two lines: behind the first one, which may be over, and up to the second. -/
structure SpanIn (fresh : Bool) (line last : ℕ) (span : Span) : Prop where
  start : line ≤ span.start.line
  fresh : fresh = true → line < span.start.line
  stop : span.start.line ≤ span.endLine
  last : span.endLine ≤ last

theorem SpanIn.mono {line line' last last' : ℕ} {span : Span} (h : SpanIn fresh line last span)
    (hline : line' ≤ line) (hlast : last ≤ last') : SpanIn fresh line' last' span :=
  ⟨Nat.le_trans hline h.start, fun hf => Nat.lt_of_le_of_lt hline (h.fresh hf), h.stop,
    Nat.le_trans h.last hlast⟩

/-- What was taken stands between what was taken before and what is taken later. -/
theorem Input.Leads.floor_le {input rest : Input} (h : input.Leads rest)
    (hs : input.Steady n b fresh) : input.floor b ≤ rest.floor b := by
  have hs : input.Steady n b false := by
    cases fresh with
    | true => exact hs.relax false
    | false => exact hs
  exact Input.floor_mono (h.steady hs).2

theorem exists_of_place {input rest : Input} {start : Position}
    (h : place.run input = .ok (start, rest)) :
    rest = input ∧ ∃ t ts, input.tokens = t :: ts ∧ t.isVisible = true ∧ start = t.span.start := by
  obtain ⟨_ | ⟨t, ts⟩, line⟩ := input
  · cases h
  · dsimp only [place, look, Input.start?] at h
    split at h
    next start' hstart =>
      cases h
      split at hstart
      next ht => exact ⟨rfl, t, ts, rfl, ht, (Option.some.inj hstart).symm⟩
      next => cases hstart
    next => cases h

/-- What is read from one visible token to another has a span between the tokens before and behind
it. -/
theorem Input.Leads.spanIn {t : Token} {ts : List Token} {line : ℕ} {rest : Input}
    (h : Input.Leads ⟨t :: ts, line⟩ rest) (hlt : rest.tokens.length < (t :: ts).length)
    (ht : t.isVisible = true) (hs : Input.Steady n b fresh ⟨t :: ts, line⟩) :
    SpanIn fresh (Input.floor b ⟨t :: ts, line⟩) (rest.floor b) ⟨t.span.start, rest.lastLine⟩ := by
  cases h with
  | refl => exact absurd hlt (Nat.lt_irrefl _)
  | tail h =>
    rw [Input.lineBehind, if_pos ht] at h
    obtain ⟨-, hfloor, hfresh, hspan, hrest⟩ := hs.visible ht
    have hlast := (h.steady hrest).2
    exact ⟨hfloor, hfresh, Nat.le_trans hspan hlast, Nat.le_max_right _ _⟩

/-- What a reader reads that takes a token has a span between the tokens before and behind it. -/
theorem spanIn_of_located {α : Type} {r : Reader α} (hr : Eats r) {input rest : Input} {a : α}
    {span : Span} (h : (located r).run input = .ok ((a, span), rest))
    (hs : input.Steady n b fresh) : SpanIn fresh (input.floor b) (rest.floor b) span := by
  obtain ⟨start, input', hplace, h⟩ := exists_of_run_bind h
  obtain ⟨a', mid, hread, h⟩ := exists_of_run_bind h
  obtain ⟨line, mid', hlast, h⟩ := exists_of_run_bind h
  cases h
  cases hlast
  obtain ⟨rfl, t, ts, htokens, ht, rfl⟩ := exists_of_place hplace
  obtain ⟨tokens, line⟩ := input'
  obtain rfl : tokens = t :: ts := htokens
  exact (r.takes hread).spanIn (hr hread) ht hs

/-! ### Decorators -/

/-- What the reader yields has a span between the tokens before and behind it. -/
def Spans {α : Type} (span : α → Span) (r : Reader α) : Prop :=
  ∀ ⦃n b input a rest⦄, r.run input = .ok (a, rest) → input.Steady n b false →
    SpanIn false (input.floor b) (rest.floor b) (span a)

namespace Spans

variable {α β : Type} {span : α → Span} {span' : β → Span}

theorem located {r : Reader α} (hr : Eats r) : Spans (·.2) (Reader.located r) :=
  fun _ _ _ _ _ h hs => spanIn_of_located hr h hs

theorem after {r : Reader α} {f : α → Reader β} (hf : ∀ a, Spans span' (f a)) :
    Spans span' (r >>= f) := by
  intro n b input x rest hrun hs
  obtain ⟨a, mid, hmid, hrest⟩ := exists_of_run_bind hrun
  have hleads := r.takes hmid
  exact (hf a hrest (hleads.steady hs).1).mono (hleads.floor_le hs) (Nat.le_refl _)

/-- What is read later adds nothing to the span. -/
theorem bind {r : Reader α} {f : α → Reader β} (hr : Spans span r)
    (hf : ∀ a, Gives (fun x => span' x = span a) (f a)) : Spans span' (r >>= f) := by
  intro n b input x rest hrun hs
  obtain ⟨a, mid, hmid, hrest⟩ := exists_of_run_bind hrun
  have hsteady := ((r.takes hmid).steady hs).1
  rw [hf a hrest]
  exact (hr hmid hs).mono (Nat.le_refl _) (((f a).takes hrest).floor_le hsteady)

theorem orElse {r : Reader α} {s : Unit → Reader α} (hr : Spans span r) (hs : Spans span (s ())) :
    Spans span (Reader.orElse r s) := by
  intro n b input a rest h hsteady
  rcases run_of_orElse h with h | h
  · exact hr h hsteady
  · exact hs h hsteady

theorem ite {c : Prop} [Decidable c] {r s : Reader α} (hr : Spans span r) (hs : Spans span s) :
    Spans span (if c then r else s) := by
  split
  · exact hr
  · exact hs

end Spans

theorem spans_decoratorExpr (bound depth fuel : ℕ) :
    Spans (·.span) (decoratorExpr (.ofDepth bound depth) fuel) := by
  induction fuel with
  | zero =>
    intro n b input a rest h
    cases h
  | succ fuel ih =>
    have hplain : Spans (·.span) (do
        let e ← located (namedExpression (.ofDepth bound depth))
        return ⟨e.1, e.2⟩ : Reader Decorator) :=
      (Spans.located (eats_namedExpression bound depth)).bind fun _ => .pure rfl
    have hyield : Spans (·.span) (do
        let e ← located (yieldExpression (.ofDepth bound depth))
        return ⟨e.1, e.2⟩ : Reader Decorator) :=
      (Spans.located (eats_yieldExpression _)).bind fun _ => .pure rfl
    have horElse {r s : Reader Decorator} (hr : Spans (·.span) r) (hs : Spans (·.span) s) :
        Spans (·.span) (r <|> s) := Spans.orElse (s := fun _ => s) hr hs
    refine horElse (.after fun _ => ?_) hplain
    refine Spans.bind (.after fun _ => .ite hyield ih) fun d => .after fun _ => .after fun kind => ?_
    split
    · exact .pure rfl
    · exact .pure rfl
    · exact .failure

/-- Behind a visible token that starts a line, the line is a later one. -/
theorem TakesKind.floor_lt {word : String} {k : Token.Kind} {input rest : Input}
    (h : TakesKind k input rest) (hk : k = .sign word ∨ k = .keyword word)
    (hs : input.Steady n b true) : input.floor b < rest.floor b := by
  obtain ⟨t, ts, htokens, rfl, rfl⟩ := h
  have ht : t.isVisible = true := by rcases hk with hk | hk <;> simp [Token.isVisible, hk]
  obtain ⟨tokens, line⟩ := input
  obtain rfl : tokens = t :: ts := htokens
  obtain ⟨-, -, hlt, hspan, -⟩ := hs.visible ht
  have hlt := hlt rfl
  simp only [Input.floor, Input.lineBehind, ht, if_true]
  omega

/-- A decorator fills lines: it starts behind what was read before, and ends with the end of a
line. -/
theorem spanIn_of_decorator {bound depth fuel : ℕ} {input rest : Input} {o : Option Decorator}
    (h : (do
      if ← sign? "@" then
        let d ← decoratorExpr (.ofDepth bound depth) fuel
        kind .newline
        return some d
      else return none).run input = .ok (o, rest))
    (hs : input.Steady n b true) :
    ∀ d, o = some d → SpanIn true (input.floor b) (rest.floor b) d.span := by
  obtain ⟨found, mid, hfound, hread⟩ := exists_of_run_bind h
  rcases cases_of_kind? hfound with ⟨rfl, htakes⟩ | ⟨rfl, rfl⟩
  · have hlt := htakes.floor_lt (.inl rfl) hs
    have hsteady := (((sign? "@").takes hfound).steady (hs.relax false)).1
    have hspans : Spans (fun o : Option Decorator => (o.map (·.span)).getD ⟨⟨0, 0⟩, 0⟩) (do
        let d ← decoratorExpr (.ofDepth bound depth) fuel
        kind .newline
        return some d) :=
      (spans_decoratorExpr bound depth fuel).bind fun d => .after fun _ => .pure rfl
    rintro d rfl
    have hspan := hspans hread hsteady
    exact ⟨Nat.le_trans (Nat.le_of_lt hlt) hspan.start, fun _ => Nat.lt_of_lt_of_le hlt hspan.start,
      hspan.stop, hspan.last⟩
  · cases hread
    intro d hd
    cases hd

/-- What is read as long as there is something, each behind the end of a line. -/
theorem of_repeated {α : Type} {step : Reader (Option α)} {Q : ℕ → ℕ → List α → Prop}
    (hkeeps : KeepsLine step) (hnil : ∀ line last, line ≤ last → Q line last [])
    (hcons : ∀ {input mid : Input} {a : α}, step.run input = .ok (some a, mid) →
      input.Steady n b true → ∀ last as, mid.floor b ≤ last → Q (mid.floor b) last as →
        Q (input.floor b) last (a :: as)) {times : ℕ} {input rest : Input} {as : List α}
    (h : (repeated times step).run input = .ok (as, rest)) (hs : input.Steady n b true) :
    Q (input.floor b) (rest.floor b) as := by
  induction times generalizing input as with
  | zero =>
    cases h
    exact hnil _ _ (Nat.le_refl _)
  | succ times ih =>
    rw [repeated] at h
    obtain ⟨o, mid, hstep, hrest⟩ := exists_of_run_bind h
    have hmid := hkeeps hstep hs
    cases o with
    | none =>
      cases hrest
      exact hnil _ _ ((step.takes hstep).floor_le hs)
    | some a =>
      obtain ⟨as', last, hmore, hpure⟩ := exists_of_run_bind hrest
      cases hpure
      exact hcons hstep hs _ _ (((repeated times step).takes hmore).floor_le hmid) (ih hmore hmid)

theorem spanIn_of_decorators {bound depth : ℕ} {input rest : Input} {ds : List Decorator}
    (h : (decorators (.ofDepth bound depth)).run input = .ok (ds, rest))
    (hs : input.Steady n b true) :
    ∀ d ∈ ds, SpanIn true (input.floor b) (rest.floor b) d.span := by
  refine of_repeated (Q := fun line last ds => ∀ d ∈ ds, SpanIn true line last d.span)
    (keeps_decorator _) (by simp) ?_ h hs
  intro input mid d hstep hsteady last ds hlast hds
  have hspan := spanIn_of_decorator hstep hsteady d rfl
  refine List.forall_mem_cons.mpr ⟨hspan.mono (Nat.le_refl _) hlast, fun d' hd' => ?_⟩
  exact (hds d' hd').mono (Nat.le_trans hspan.start (Nat.le_trans hspan.stop hspan.last))
    (Nat.le_refl _)

end Grammar

end ServiceStubs
