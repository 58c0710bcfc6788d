import ServiceStubs.Grammar.Stmt
import ServiceStubs.Proofs.Grammar.Parameters

/-!
# Definitions are named by names

The name of a function or a class is taken from a name token, and such a token holds an identifier
that is no reserved word. So every definition at the top level of a module, and every function in
the body of such a class, is named by one. A reader of statements is followed only as far as the
kind of statement it makes.

## Main definitions

* `Grammar.Named`: statements that define nothing under another text

## Main statements

* `Grammar.named_of_readModule`: the statements of a module are such
-/

namespace ServiceStubs

namespace Grammar

open Tree Reader

/-! ### Statements -/

/-- Whether a statement defines a function or a class. -/
def isDefinition : StmtNode → Bool
  | .function _ _ _ _ _ _ | .classDef _ _ _ _ _ => true
  | _ => false

/-- If the statement is a definition, then a name names it, its parameters can be declared, and the
same holds of the statements in its body. -/
inductive Named : Stmt → Prop
  | function {span : Span} {isAsync : Bool} {name : String} {params : List Param}
    {returns : Option Expr} {decorators : List Decorator} {body : List Stmt}
    (hname : Token.IsName name) (hparams : Declarable params) (hbody : ∀ s ∈ body, Named s) :
    Named (.stmt span (.function isAsync name params returns decorators body))
  | classDef {span : Span} {name : String} {bases : List Expr} {keywords : List Keyword}
    {decorators : List Decorator} {body : List Stmt}
    (hname : Token.IsName name) (hbody : ∀ s ∈ body, Named s) :
    Named (.stmt span (.classDef name bases keywords decorators body))
  | other {span : Span} {node : StmtNode} (h : isDefinition node = false) : Named (.stmt span node)

theorem gives_asStatement {P : StmtNode → Prop} {Q : Stmt → Prop} {node : Reader StmtNode}
    (h : Gives P node) (hQ : ∀ span n, P n → Q (.stmt span n)) : Gives Q (asStatement node) := by
  refine Gives.bind (P := fun r => P r.1) ?_ fun r hr => .pure (hQ _ _ hr)
  exact .after fun _ => h.bind fun n hn => .after fun _ => .pure hn

theorem gives_importFrom (k : Nested) : Gives (isDefinition · = false) (importFrom k) := by
  refine .after fun level => .after fun module => .after fun _ => .after fun star => ?_
  split
  · exact .pure rfl
  · refine .after fun bracket => ?_
    split
    · exact .after fun _ => .after fun _ => .pure rfl
    · exact .after fun _ => .pure rfl

theorem gives_expressionStatement (k : Nested) :
    Gives (isDefinition · = false) (expressionStatement k) := by
  refine .after fun startsWithName => .after fun first => .after fun kind => ?_
  split
  · exact .check fun _ => .after fun _ => .after fun _ => .after fun _ => .pure rfl
  · refine .after fun others => .ite ?_ .failure
    split
    · exact .pure rfl
    · exact .failure
  · split
    · exact .check fun _ => .after fun _ => .after fun _ => .pure rfl
    · exact .pure rfl
  · exact .pure rfl

theorem gives_simpleNode (k : Nested) : Gives (isDefinition · = false) (simpleNode k) := by
  refine .after fun kind => ?_
  split
  · exact .after fun _ => .after fun _ => .pure rfl
  · exact .after fun _ => .after fun _ => .pure rfl
  · exact .after fun _ => gives_importFrom k
  · refine .after fun _ => .after fun error => ?_
    split
    · exact .pure rfl
    · exact .after fun _ => .ite (.after fun _ => .pure rfl) (.pure rfl)
  · exact .seqRight (.pure rfl)
  · exact .seqRight (.pure rfl)
  · exact .seqRight (.pure rfl)
  · exact .after fun _ => .after fun targets => .ite (.pure rfl) .failure
  · exact .after fun _ => .pure rfl
  · exact .after fun _ => .after fun _ => .after fun _ => .pure rfl
  · exact .after fun _ => .after fun _ => .pure rfl
  · exact .after fun _ => .after fun _ => .pure rfl
  · exact gives_expressionStatement k

theorem gives_simpleStatements (k : Nested) :
    Gives (fun ss => ∀ s ∈ ss, Named s) (simpleStatements k) := by
  have hone : Gives Named (asStatement (simpleNode k)) :=
    gives_asStatement (gives_simpleNode k) fun _ _ => .other
  have hmore : Gives (fun o => ∀ s, o = some s → Named s) (do
      if ← atSign ";" then optional (sign ";" *> asStatement (simpleNode k)) else pure none) :=
    .after fun _ => .ite (.optional (.seqRight hone)) (.pure nofun)
  refine hone.bind fun first hfirst => (Gives.repeated hmore k.bound).bind fun others hothers =>
    .after fun _ => .after fun _ => .pure ?_
  simpa using ⟨hfirst, hothers⟩

/-! ### Blocks -/

theorem gives_forLoop (k : Nested) (isAsync : Bool) (body : Reader (List Stmt)) :
    Gives (isDefinition · = false) (forLoop k isAsync body) :=
  .after fun _ => .after fun _ => .after fun _ => .after fun _ => .after fun _ => .pure rfl

theorem gives_withBlock (k : Nested) (isAsync : Bool) (body : Reader (List Stmt)) :
    Gives (isDefinition · = false) (withBlock k isAsync body) :=
  .after fun _ => .after fun _ => .pure rfl

theorem gives_tryBlock (k : Nested) (body : Reader (List Stmt)) :
    Gives (isDefinition · = false) (tryBlock k body) :=
  .after fun _ => .after fun _ => .after fun _ => .after fun _ => .check fun _ => .check fun _ =>
    .pure rfl

theorem gives_matchOn (k : Nested) (body : Reader (List Stmt)) :
    Gives (isDefinition · = false) (matchOn k body) := by
  have hcases (items : List Expr) (comma : Bool) :
      Gives (isDefinition · = false) (do
        sign ":"
        kind .newline
        kind .indent
        let first ← matchCase k body
        let others ← repeated k.bound do
          if ← kind? .dedent then pure none else some <$> matchCase k body
        return .matchOn (ofList items comma) (first :: others)) :=
    .after fun _ => .after fun _ => .after fun _ => .after fun _ => .after fun _ => .pure rfl
  refine .after fun _ => .after fun items => ?_
  obtain ⟨items, comma⟩ := items
  dsimp only
  split
  · exact .after fun _ => hcases _ _
  · exact hcases _ _

/-! ### Definitions -/

theorem gives_suite {body : Reader (List Stmt)} {P : List Stmt → Prop} (h : Gives P body) :
    Gives P (suite body) := .seqRight h

theorem gives_definition (k : Nested) (ds : List Decorator) {body : Reader (List Stmt)}
    (hbody : Gives (fun ss => ∀ s ∈ ss, Named s) body) : Gives Named (definition k ds body) := by
  have hfunction (isAsync : Bool) : Gives (fun n => ∀ span, Named (.stmt span n))
      (functionNode k isAsync ds body) := by
    refine .after fun id => .after fun _ => (gives_parameters k true ")").bind fun params hparams =>
      .after fun _ => .after fun returns => ?_
    exact (gives_suite hbody).bind fun body hbody => .pure fun span =>
      .function id.isName hparams hbody
  have hclass : Gives (fun n => ∀ span, Named (.stmt span n)) (classNode k ds body) := by
    refine .after fun id => .after fun arguments => ?_
    exact (gives_suite hbody).bind fun body hbody => .pure fun span =>
      .classDef id.isName hbody
  refine gives_asStatement (P := fun n => ∀ span, Named (.stmt span n)) ?_ fun span _ h => h span
  exact .after fun _ => .ite hclass <| .after fun _ => .ite (.after fun _ => hfunction true)
    (.after fun _ => hfunction false)

theorem gives_compound (k : Nested) {body : Reader (List Stmt)}
    (hbody : Gives (fun ss => ∀ s ∈ ss, Named s) body) :
    Gives (fun o => ∀ s, o = some s → Named s) (compound k body) := by
  have hsome {r : Reader Stmt} (h : Gives Named r) :
      Gives (fun o => ∀ s, o = some s → Named s) (some <$> r) :=
    h.map fun s hs s' hs' => Option.some.inj hs' ▸ hs
  have hother {node : Reader StmtNode} (h : Gives (isDefinition · = false) node) :
      Gives (fun o => ∀ s, o = some s → Named s) (some <$> asStatement node) :=
    hsome (gives_asStatement h fun _ _ => .other)
  refine .after fun kind => ?_
  split
  · refine .after fun ds => (gives_definition k ds hbody).bind fun s hs => .pure ?_
    exact fun s' hs' => Option.some.inj hs' ▸ hs
  · exact hsome (gives_definition k [] hbody)
  · exact hsome (gives_definition k [] hbody)
  · exact hother (.seqRight (.after fun _ => .after fun _ => .after fun _ => .pure rfl))
  · exact hother (.seqRight (.after fun _ => .after fun _ => .after fun _ => .pure rfl))
  · exact hother (.seqRight (gives_forLoop k false body))
  · exact hother (.seqRight (gives_withBlock k false body))
  · exact hother (.seqRight (gives_tryBlock k body))
  · refine .after fun second => ?_
    split
    · exact hother (.seqRight (.seqRight (gives_forLoop k true body)))
    · exact hother (.seqRight (.seqRight (gives_withBlock k true body)))
    · exact hsome (gives_definition k [] hbody)
  · refine .ite (.optional ?_) (.pure fun s h => by cases h)
    exact gives_asStatement (gives_matchOn k body) fun _ _ => .other
  · exact .pure fun s h => by cases h

theorem gives_statements (k : Nested) (depth : Nat) :
    Gives (fun ss => ∀ s ∈ ss, Named s) (statements k depth) := by
  induction depth with
  | zero => exact .failure
  | succ depth ih =>
    have hblock : Gives (fun ss => ∀ s ∈ ss, Named s) (block k (statements k depth)) :=
      .after fun _ => .ite
        (.after fun _ => ih.bind fun body hbody => .after fun _ => .pure hbody)
        (gives_simpleStatements k)
    have hstatement : Gives (fun ss => ∀ s ∈ ss, Named s)
        (statement k (block k (statements k depth))) := by
      refine (gives_compound k hblock).bind fun o ho => ?_
      cases o with
      | none => exact gives_simpleStatements k
      | some s => exact .pure (by simpa using ho s rfl)
    refine (Gives.repeated (P := fun ss => ∀ s ∈ ss, Named s) (.after fun kind => ?_) k.bound).bind
      fun groups hgroups => .pure fun s hs => ?_
    · have hend : Gives (fun o => ∀ ss, o = some ss → ∀ s ∈ ss, Named s)
          (return none : Reader (Option (List Stmt))) := .pure fun ss h => by cases h
      split
      · exact hend
      · exact hend
      · exact hstatement.bind fun ss hss => .pure fun ss' h => Option.some.inj h ▸ hss
    · obtain ⟨ss, hss, hs⟩ := List.mem_flatten.mp hs
      exact hgroups ss hss s hs

/-- **Every definition of a module is named by an identifier.** -/
theorem named_of_readModule {source : List Char} {body : List Stmt}
    (h : readModule source = .ok body) : ∀ s ∈ body, Named s := by
  unfold readModule at h
  obtain ⟨-, h⟩ := not_of_check (by rintro u ⟨⟩) h
  obtain ⟨⟨body', rest⟩, hread, h⟩ := exists_of_bind h
  have hnamed := gives_statements _ _ hread
  dsimp only at h
  split at h
  · split at h
    · obtain rfl : body' = body := by simpa [pure, Except.pure] using h
      exact hnamed
    · cases h
  · cases h

end Grammar

end ServiceStubs
