import ServiceStubs.Proofs.Grammar.Signature

/-!
# Reading lines and blocks

Some statements fill one line: a docstring, an ellipsis, `pass`. A block is such a line behind a
colon, or lines in a block of their own.

## Main statements

* `Grammar.reads_atomLine`, `Grammar.reads_pass`: lines of one token
* `Grammar.reads_decorated`: definitions behind their decorators
* `Grammar.reads_block`, `Grammar.reads_statements`: the statements of a block
-/

namespace ServiceStubs

namespace Grammar

open ServiceStubs.Tree Reader Token

variable {kinds rest : List Token.Kind} {k : Nested}

/-! ### Lines of one token -/

/-- A token that is an expression and starts no other statement. -/
def isBareAtom : Token.Kind → Bool
  | .string _ => true
  | .sign s => s == "..."
  | _ => false

theorem reads_starExpression {t : Token.Kind} {e : Expr} (ht : isBareAtom t = true)
    {c : Token.Kind} (hc : isCloser c = true)
    (hatom : Reads (atom k) (t :: c :: rest) (c :: rest) (· = e)) :
    Reads (starExpression k.deeper) (t :: c :: rest) (c :: rest) (· = e) := by
  have hfirst : startsPrimary t = true := by
    cases t <;> first | rfl | cases ht | skip
    next s =>
      obtain rfl : s = "..." := by simpa [isBareAtom] using ht
      decide
  have hstar : t ≠ .sign "*" := by
    rintro rfl
    cases ht
  have hprimary : Reads (primary k) (t :: c :: rest) (c :: rest) (· = e) :=
    hatom.after ((reads_repeated_nil (reads_trailer_none hc)).after (.pure rfl))
  exact (reads_sign?_false hstar).test_false (reads_expression hfirst hc hprimary)

/-- A list of one item. -/
theorem reads_starExpressions {c : Token.Kind} {P : Expr → Prop} (hc : c ≠ .sign ",")
    (hitem : ∀ d ∈ [.sign ",", c], ∀ rest, Reads (starExpression k) (kinds ++ d :: rest) (d :: rest) P) :
    Reads (starExpressions k) (kinds ++ c :: rest) (c :: rest) P := by
  have hlist : Reads (commaList k.bound (starExpression k))
      (commaKinds ([()].map fun _ => kinds) ++ c :: rest) (c :: rest)
      fun r => List.Forall₂ (fun _ => P) [()] r.1 ∧ r.2 = false :=
    reads_commaList (fun _ => kinds) () [] (Nat.zero_le _) hc fun _ _ => hitem
  rw [List.map_singleton, commaKinds, List.flatMap_nil, List.append_nil] at hlist
  refine hlist.bind fun r hr => .pure ?_
  obtain ⟨items, comma⟩ := r
  rw [forall₂_unit] at hr
  obtain ⟨⟨e, rfl, he⟩, rfl⟩ : (∃ e, items = [e] ∧ P e) ∧ comma = false := hr
  exact he

/-- One statement on its line. -/
theorem reads_simpleStatements {first : Token.Kind} {P : StmtNode → Prop}
    (hfirst : Grammar.isLayout first = false)
    (h : Reads (simpleNode k) (first :: kinds) (.newline :: rest) P) :
    Reads (simpleStatements k) (first :: kinds) rest fun ss => ∃ s, ss = [s] ∧ P s.node := by
  refine (reads_asStatement hfirst h).bind fun s hs => ?_
  refine (reads_repeated_nil ((reads_atSign_false (by simp)).test_false (.pure rfl))).after ?_
  refine Reads.bind (P := fun _ => True) ((reads_sign?_false (by simp)).map fun _ _ => trivial)
    fun _ _ => ?_
  exact reads_kind.bind fun _ _ => .pure ⟨s, rfl, hs⟩

theorem reads_startsWithName {first : Token.Kind} :
    Reads (do match ← peek with | .name _ => return true | _ => return false : Reader Bool)
      (first :: kinds) (first :: kinds) fun _ => True := by
  refine reads_peek.after ?_
  split <;> exact .pure trivial

/-- An expression alone on its line. -/
theorem reads_bareExpression {first : Token.Kind} {P : Expr → Prop}
    (h : Reads (starExpressions k) (first :: kinds) (.newline :: rest) P) :
    Reads (expressionStatement k) (first :: kinds) (.newline :: rest)
      fun n => ∃ e, P e ∧ n = .expression e := by
  refine reads_startsWithName.bind fun startsWithName _ => ?_
  exact h.bind fun e he => reads_peek.after (.pure ⟨e, he, rfl⟩)

/-- A statement that starts with an expression. -/
theorem reads_simpleNode {first : Token.Kind} {P : StmtNode → Prop} (hfirst : ∀ w, first ≠ .keyword w)
    (h : Reads (expressionStatement k) (first :: kinds) rest P) :
    Reads (simpleNode k) (first :: kinds) rest P := by
  refine reads_peek.after ?_
  cases first with
  | keyword w => exact absurd rfl (hfirst w)
  | _ => exact h

/-- A line that is one expression of one token. -/
theorem reads_atomLine {t : Token.Kind} {e : Expr} (ht : isBareAtom t = true)
    (hatom : ∀ c, isCloser c = true → ∀ rest, Reads (atom k) (t :: c :: rest) (c :: rest) (· = e)) :
    Reads (simpleStatements k.deeper) (t :: .newline :: rest) rest
      fun ss => ∃ s, ss = [s] ∧ s.node = .expression e := by
  have hlist : Reads (starExpressions k.deeper) ([t] ++ Kind.newline :: rest) (.newline :: rest)
    (· = e) :=
    reads_starExpressions (by simp) fun d hd rest => by
      have hcloser : isCloser d = true := by
        simp only [List.mem_cons, List.not_mem_nil, or_false] at hd
        rcases hd with rfl | rfl <;> rfl
      exact reads_starExpression ht hcloser (hatom d hcloser rest)
  have hnode : Reads (simpleNode k.deeper) (t :: .newline :: rest) (.newline :: rest)
      (· = .expression e) := by
    refine reads_simpleNode (fun w => ?_) ((reads_bareExpression hlist).mono ?_)
    · rintro rfl
      cases ht
    · rintro n ⟨e, rfl, rfl⟩
      rfl
  refine reads_simpleStatements ?_ hnode
  cases t <;> first | rfl | cases ht

theorem reads_pass : Reads (simpleStatements k) (.keyword "pass" :: .newline :: rest) rest
    fun ss => ∃ s, ss = [s] ∧ s.node = .pass := by
  have hnode : Reads (simpleNode k) (.keyword "pass" :: .newline :: rest) (.newline :: rest)
    (· = .pass) :=
    reads_peek.after (reads_next.seqRight (.pure rfl))
  exact reads_simpleStatements rfl hnode

/-- The literal of a docstring is the text it stands for. -/
theorem reads_atom_text {body value : List Char} (hvalue : unescape body = some value) {c : Token.Kind}
    (hc : isCloser c = true) (rest : List Token.Kind) (hbound : 0 < k.bound) :
    Reads (atom k) (.string ⟨false, false, false, false, body⟩ :: c :: rest) (c :: rest)
      (· = .constant (.text (String.ofList value) false)) := by
  obtain ⟨bound, hk⟩ : ∃ n, k.bound = n + 1 := ⟨k.bound - 1, by omega⟩
  refine reads_peek.after (Reads.after (a := [⟨false, false, false, false, body⟩])
    (?_ : Reads _ _ (c :: rest) _) ?_)
  · rw [hk]
    refine Reads.after (a := some _) (reads_peek.after (reads_next.bind fun _ _ => .pure rfl)) ?_
    refine Reads.after (reads_repeated_nil (reads_peek.after ?_)) (.pure rfl)
    cases c <;> first | exact .pure rfl | cases hc
  · simp only [literalValue, List.head?_cons, Option.bind_eq_bind, Option.bind_some, textValue, hvalue,
      List.mapM_cons]
    exact .pure (by simp)

theorem reads_atom_ellipsis (c : Token.Kind) (rest : List Token.Kind) :
    Reads (atom k) (.sign "..." :: c :: rest) (c :: rest) (· = .constant .ellipsis) :=
  reads_peek.after (reads_next.bind fun _ _ => .pure rfl)

/-! ### Statements -/

/-- A token that starts no statement with blocks of its own. -/
def startsLine : Token.Kind → Bool
  | .keyword w => w == "pass"
  | .name id => id.written != "match"
  | .sign s => s != "@"
  | .string _ => true
  | _ => false

/-- A statement on one line. -/
theorem reads_statement_line {body : Reader (List Stmt)} {first : Token.Kind} {P : List Stmt → Prop}
    (hfirst : startsLine first = true) (h : Reads (simpleStatements k) (first :: kinds) rest P) :
    Reads (statement k body) (first :: kinds) rest P := by
  refine Reads.after (a := none) (reads_peek.after ?_) h
  cases first with
  | keyword w =>
    obtain rfl : w = "pass" := by simpa [startsLine] using hfirst
    exact .pure rfl
  | name id =>
    have hmatch : (id.written == "match") = false := by simpa [startsLine] using hfirst
    simp only [hmatch]
    exact .pure rfl
  | sign s =>
    have hat : s ≠ "@" := by simpa [startsLine] using hfirst
    split
    · next heq => exact absurd (Token.Kind.sign.inj heq) hat
    all_goals first | exact .pure rfl | contradiction
  | string literal => exact .pure rfl
  | _ => cases hfirst

/-- The decorators in front of a definition. -/
theorem reads_decorators {ι : Type} {R : ι → Decorator → Prop} (tokens : ι → List Token.Kind)
    (items : List ι) (hbound : items.length ≤ k.bound)
    (hitem : ∀ i ∈ items, ∀ rest,
      Reads (decoratorExpr k k.bound) (tokens i ++ .newline :: rest) (.newline :: rest) (R i))
    {first : Token.Kind} (hfirst : first ≠ .sign "@") :
    Reads (decorators k)
      ((items.flatMap fun i => Kind.sign "@" :: (tokens i ++ [Kind.newline])) ++ first :: rest)
      (first :: rest)
      (List.Forall₂ R items) := by
  refine reads_repeated _ hbound (fun i others hsuffix => ?_)
    ((reads_sign?_false hfirst).test_false (.pure rfl))
  rw [List.cons_append, List.append_assoc, List.singleton_append]
  refine reads_sign?_true.test_true ?_
  refine (hitem i (hsuffix.subset List.mem_cons_self) _).bind fun d hd => ?_
  exact reads_kind.bind fun _ _ => .pure ⟨d, rfl, hd⟩

/-- A definition behind its decorators. -/
theorem reads_decorated {ι : Type} {R : ι → Decorator → Prop} {body : Reader (List Stmt)}
    {P : List Decorator → Stmt → Prop} (tokens : ι → List Token.Kind) (items : List ι)
    (hbound : items.length ≤ k.bound)
    (hitem : ∀ i ∈ items, ∀ rest,
      Reads (decoratorExpr k k.bound) (tokens i ++ .newline :: rest) (.newline :: rest) (R i))
    {first : Token.Kind} (hfirst : first = .keyword "def" ∨ first = .keyword "class")
    (h : ∀ ds, List.Forall₂ R items ds → Reads (definition k ds body) (first :: kinds) rest (P ds)) :
    Reads (statement k body)
      ((items.flatMap fun i => Kind.sign "@" :: (tokens i ++ [Kind.newline])) ++ first :: kinds) rest
      fun ss => ∃ ds s, ss = [s] ∧ List.Forall₂ R items ds ∧ P ds s := by
  have hne : first ≠ .sign "@" := by
    rcases hfirst with rfl | rfl <;> simp
  have hcompound : Reads (compound k body)
      ((items.flatMap fun i => Kind.sign "@" :: (tokens i ++ [Kind.newline])) ++ first :: kinds) rest
      fun o => ∃ s, o = some s ∧ ∃ ds, List.Forall₂ R items ds ∧ P ds s := by
    cases items with
    | nil =>
      have hdefinition : Reads (some <$> definition k [] body) (first :: kinds) rest
          fun o => ∃ s, o = some s ∧ ∃ ds, List.Forall₂ R [] ds ∧ P ds s :=
        (h [] .nil).map fun s hs => ⟨s, rfl, [], .nil, hs⟩
      refine reads_peek.after ?_
      rcases hfirst with rfl | rfl <;> exact hdefinition
    | cons i items =>
      refine reads_peek.after ?_
      refine (reads_decorators tokens (i :: items) hbound hitem hne).bind fun ds hds => ?_
      exact (h ds hds).bind fun s hs => .pure ⟨s, rfl, ds, hds, hs⟩
  refine hcompound.bind fun o ho => ?_
  obtain ⟨s, rfl, ds, hds, hs⟩ := ho
  exact .pure ⟨ds, s, rfl, hds, hs⟩

/-! ### Blocks -/

/-- A block on the line of its colon. -/
theorem reads_block_line {indented : Reader (List Stmt)} {first : Token.Kind} {P : List Stmt → Prop}
    (hfirst : first ≠ .newline) (h : Reads (simpleStatements k) (first :: kinds) rest P) :
    Reads (block k indented) (first :: kinds) rest P :=
  (reads_kind?_false hfirst).test_false h

/-- A block of its own. -/
theorem reads_block_indented {indented : Reader (List Stmt)} {P : List Stmt → Prop}
    (h : Reads indented kinds (.dedent :: rest) P) :
    Reads (block k indented) (.newline :: .indent :: kinds) rest P := by
  refine reads_kind?_true.test_true (reads_kind.bind fun _ _ => ?_)
  exact h.bind fun body hbody => reads_kind.bind fun _ _ => .pure hbody

theorem forall₂_flatten {α β : Type} {R : α → β → Prop} {as : List α} {groups : List (List β)}
    (h : List.Forall₂ (fun a bs => ∃ b, bs = [b] ∧ R a b) as groups) :
    List.Forall₂ R as groups.flatten := by
  induction h with
  | nil => exact .nil
  | cons hgroup _ ih =>
    obtain ⟨b, rfl, hb⟩ := hgroup
    exact .cons hb ih

/-- The statements of a block, each on its own. -/
theorem reads_statements {ι : Type} {R : ι → Stmt → Prop} {depth : Nat} (tokens : ι → List Token.Kind)
    (items : List ι) (hbound : items.length ≤ k.bound)
    (hitem : ∀ i ∈ items, ∃ first others, tokens i = first :: others ∧ first ≠ .dedent ∧
      first ≠ .endOfText ∧ ∀ rest, Reads (statement k (block k (statements k depth))) (tokens i ++ rest)
        rest fun ss => ∃ s, ss = [s] ∧ R i s)
    {last : Token.Kind} (hlast : last = .dedent ∨ last = .endOfText) :
    Reads (statements k (depth + 1)) (items.flatMap tokens ++ last :: rest) (last :: rest)
      (List.Forall₂ R items) := by
  refine Reads.bind (P := List.Forall₂ (fun i ss => ∃ s, ss = [s] ∧ R i s) items)
    (?_ : Reads _ _ (last :: rest) _) fun groups hgroups => .pure (forall₂_flatten hgroups)
  refine reads_repeated tokens hbound (fun i others hsuffix => ?_) ?_
  · obtain ⟨first, more, htokens, hdedent, hend, hreads⟩ := hitem i (hsuffix.subset List.mem_cons_self)
    have hread := hreads (others.flatMap tokens ++ last :: rest)
    rw [htokens, List.cons_append] at hread ⊢
    refine reads_peek.after ?_
    split
    · exact absurd rfl hdedent
    · exact absurd rfl hend
    · exact hread.bind fun ss hss => .pure ⟨ss, rfl, hss⟩
  · refine reads_peek.after ?_
    rcases hlast with rfl | rfl <;> exact .pure rfl

end Grammar

end ServiceStubs
