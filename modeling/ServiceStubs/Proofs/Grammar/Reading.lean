import Mathlib
import ServiceStubs.Grammar.Stmt

/-!
# What readers take

A reader is described by the kinds of the tokens in front of it and of those that it leaves. Spans
are left out: what is read does not depend on where it stands, apart from the places that are kept
with it.

An expression is read level by level, and each level looks for an operator of its own behind the
operand. So what ends an expression (`Grammar.IsCloser`) ends the operands of all levels, and a
primary expression in front of it is an expression.

## Main definitions

* `Grammar.Reads`: a reader takes tokens of given kinds and yields what it is to yield

## Main statements

* `Grammar.Reads.bind`, `Grammar.reads_repeated`: one reader after the other
* `Grammar.reads_expression`: a primary expression is an expression
-/

namespace ServiceStubs

namespace Grammar

open ServiceStubs.Tree Reader

/-- In front of tokens of the first kinds, the reader succeeds, leaves tokens of the other kinds,
and what it yields has the property. -/
def Reads {α : Type} (r : Reader α) (kinds rest : List Token.Kind) (P : α → Prop) : Prop :=
  ∀ ts line, ts.map (·.kind) = kinds →
    ∃ a ts' line', r.run ⟨ts, line⟩ = .ok (a, ⟨ts', line'⟩) ∧ ts'.map (·.kind) = rest ∧ P a

section Readers

variable {α β : Type} {P : α → Prop} {Q : β → Prop} {kinds mid rest : List Token.Kind}
  {k : Token.Kind} {r : Reader α}

namespace Reads

theorem mono {P' : α → Prop} (h : Reads r kinds rest P) (hP : ∀ a, P a → P' a) :
    Reads r kinds rest P' := by
  intro ts line hts
  obtain ⟨a, ts', line', hr, hrest, ha⟩ := h ts line hts
  exact ⟨a, ts', line', hr, hrest, hP a ha⟩

theorem pure {a : α} (h : P a) : Reads (Pure.pure a) kinds kinds P :=
  fun ts line hts => ⟨a, ts, line, rfl, hts, h⟩

theorem bind {f : α → Reader β} (hr : Reads r kinds mid P) (hf : ∀ a, P a → Reads (f a) mid rest Q) :
    Reads (r >>= f) kinds rest Q := by
  intro ts line hts
  obtain ⟨a, ts', line', hr, hmid, ha⟩ := hr ts line hts
  obtain ⟨b, ts'', line'', hb, hrest, hQ⟩ := hf a ha ts' line' hmid
  refine ⟨b, ts'', line'', ?_, hrest, hQ⟩
  rw [Reader.run_bind, hr]
  exact hb

/-- What is read first is known. -/
theorem after {a : α} {f : α → Reader β} (hr : Reads r kinds mid (· = a))
    (hf : Reads (f a) mid rest Q) : Reads (r >>= f) kinds rest Q :=
  hr.bind fun _ ha => ha ▸ hf

theorem map {f : α → β} (hr : Reads r kinds rest P) (hf : ∀ a, P a → Q (f a)) :
    Reads (f <$> r) kinds rest Q := by
  rw [map_eq_pure_bind]
  exact hr.bind fun a ha => pure (hf a ha)

theorem seqRight {s : Reader β} (hr : Reads r kinds mid P) (hs : Reads s mid rest Q) :
    Reads (r *> s) kinds rest Q := by
  rw [seqRight_eq_bind]
  exact hr.bind fun _ _ => hs

theorem orElse_left {s : Unit → Reader α} (hr : Reads r kinds rest P) :
    Reads (Reader.orElse r s) kinds rest P := by
  intro ts line hts
  obtain ⟨a, ts', line', hr, hrest, ha⟩ := hr ts line hts
  exact ⟨a, ts', line', by simp only [Reader.orElse, hr], hrest, ha⟩

theorem optional (hr : Reads r kinds rest P) :
    Reads (optional r) kinds rest fun o => ∃ a, o = some a ∧ P a := by
  show Reads (Reader.orElse (some <$> r) fun _ => Pure.pure none) _ _ _
  exact orElse_left (hr.map fun a ha => ⟨a, rfl, ha⟩)

/-- A test that comes out true. -/
theorem test_true {t : Reader Bool} {yes no : Reader β} (ht : Reads t kinds mid (· = true))
    (h : Reads yes mid rest Q) : Reads (t >>= fun b => if b then yes else no) kinds rest Q :=
  ht.bind fun b hb => by
    subst hb
    exact h

/-- A test that comes out false. -/
theorem test_false {t : Reader Bool} {yes no : Reader β} (ht : Reads t kinds mid (· = false))
    (h : Reads no mid rest Q) : Reads (t >>= fun b => if b then yes else no) kinds rest Q :=
  ht.bind fun b hb => by
    subst hb
    exact h

end Reads

/-! ### Single tokens -/

/-- A token that is part of the layout. -/
def isLayout : Token.Kind → Bool
  | .newline | .indent | .dedent | .endOfText => true
  | _ => false

theorem isVisible_eq (t : Token) : t.isVisible = !isLayout t.kind := by
  rw [Token.isVisible]
  cases t.kind <;> rfl

theorem reads_peek : Reads peek (k :: kinds) (k :: kinds) (· = k) := by
  rintro (_ | ⟨t, ts⟩) line hts
  · cases hts
  · obtain ⟨hk, hkinds⟩ := List.cons.inj hts
    exact ⟨t.kind, t :: ts, line, rfl, hts, hk⟩

theorem reads_peekSecond :
    Reads peekSecond (k :: kinds) (k :: kinds) (· = kinds.headD .endOfText) := by
  rintro (_ | ⟨t, _ | ⟨t', ts⟩⟩) line hts
  · cases hts
  · obtain rfl : [] = kinds := (List.cons.inj hts).2
    exact ⟨_, [t], line, rfl, hts, rfl⟩
  · obtain rfl := (List.cons.inj hts).2
    exact ⟨_, t :: t' :: ts, line, rfl, hts, rfl⟩

theorem reads_next : Reads (discard next) (k :: kinds) kinds fun _ => True := by
  rintro (_ | ⟨t, ts⟩) line hts
  · cases hts
  · exact ⟨_, ts, _, rfl, (List.cons.inj hts).2, trivial⟩

theorem reads_place (hk : isLayout k = false) : Reads place (k :: kinds) (k :: kinds) fun _ => True := by
  rintro (_ | ⟨t, ts⟩) line hts
  · cases hts
  · have hkind : t.kind = k := (List.cons.inj hts).1
    have hvisible : t.isVisible = true := by
      rw [isVisible_eq, hkind, hk]
      rfl
    refine ⟨t.span.start, t :: ts, line, ?_, hts, trivial⟩
    dsimp only [place, look, Input.start?]
    rw [hvisible]
    rfl

theorem reads_lastLine : Reads lastLine kinds kinds fun _ => True :=
  fun ts line hts => ⟨line, ts, line, rfl, hts, trivial⟩

theorem reads_kind : Reads (kind k) (k :: kinds) kinds fun _ => True := by
  refine reads_peek.after ?_
  rw [if_pos (beq_self_eq_true k)]
  exact reads_next

theorem reads_kind?_true : Reads (kind? k) (k :: kinds) kinds (· = true) := by
  refine reads_peek.after ?_
  rw [if_pos (beq_self_eq_true k)]
  exact reads_next.bind fun _ _ => .pure rfl

theorem reads_kind?_false {k' : Token.Kind} (h : k' ≠ k) :
    Reads (kind? k) (k' :: kinds) (k' :: kinds) (· = false) := by
  refine reads_peek.after ?_
  rw [if_neg (by simpa using h)]
  exact .pure rfl

theorem reads_sign {s : String} : Reads (sign s) (.sign s :: kinds) kinds fun _ => True := reads_kind

theorem reads_sign?_true {s : String} : Reads (sign? s) (.sign s :: kinds) kinds (· = true) :=
  reads_kind?_true

theorem reads_sign?_false {s : String} (h : k ≠ .sign s) :
    Reads (sign? s) (k :: kinds) (k :: kinds) (· = false) := reads_kind?_false h

theorem reads_keyword {w : String} :
    Reads (keyword w) (.keyword w :: kinds) kinds fun _ => True := reads_kind

theorem reads_keyword?_true {w : String} :
    Reads (keyword? w) (.keyword w :: kinds) kinds (· = true) := reads_kind?_true

theorem reads_keyword?_false {w : String} (h : k ≠ .keyword w) :
    Reads (keyword? w) (k :: kinds) (k :: kinds) (· = false) := reads_kind?_false h

theorem reads_atSign_true {s : String} :
    Reads (atSign s) (.sign s :: kinds) (.sign s :: kinds) (· = true) :=
  reads_peek.after (.pure (beq_self_eq_true _))

theorem reads_atSign_false {s : String} (h : k ≠ .sign s) :
    Reads (atSign s) (k :: kinds) (k :: kinds) (· = false) :=
  reads_peek.after (.pure (by simpa using h))

theorem reads_identifier {id : Token.Name} :
    Reads identifier (.name id :: kinds) kinds (· = id) :=
  reads_peek.after (reads_next.bind fun _ _ => .pure rfl)

theorem reads_name {id : Token.Name} : Reads name (.name id :: kinds) kinds (· = id.text) :=
  reads_identifier.map fun _ h => congrArg (·.text) h

theorem reads_located (hk : isLayout k = false) (h : Reads r (k :: kinds) rest P) :
    Reads (located r) (k :: kinds) rest fun a => P a.1 :=
  (reads_place hk).bind fun _ _ => h.bind fun _ ha => reads_lastLine.bind fun _ _ => .pure ha

/-! ### Repetition -/

/-- Items one after the other, as many as the bound allows. -/
theorem reads_repeated {ι : Type} {R : ι → α → Prop} {step : Reader (Option α)} {items : List ι}
    (tokens : ι → List Token.Kind) {bound : Nat} (hbound : items.length ≤ bound)
    (hstep : ∀ i others, i :: others <:+ items →
      Reads step (tokens i ++ (others.flatMap tokens ++ rest)) (others.flatMap tokens ++ rest)
        fun o => ∃ a, o = some a ∧ R i a)
    (hend : Reads step rest rest (· = none)) :
    Reads (repeated bound step) (items.flatMap tokens ++ rest) rest (List.Forall₂ R items) := by
  induction items generalizing bound with
  | nil =>
    cases bound with
    | zero => exact .pure .nil
    | succ bound => exact hend.after (.pure .nil)
  | cons i items ih =>
    obtain ⟨bound, rfl⟩ : ∃ n, bound = n + 1 := ⟨bound - 1, by simp at hbound; omega⟩
    rw [List.flatMap_cons, List.append_assoc]
    refine (hstep i items List.suffix_rfl).bind fun o ho => ?_
    obtain ⟨a, rfl, ha⟩ := ho
    refine (ih (by simpa using hbound) fun j others hsuffix => ?_).bind fun as has =>
      .pure (.cons ha has)
    exact hstep j others (hsuffix.trans (List.suffix_cons i items))

/-- Nothing to repeat. -/
theorem reads_repeated_nil {step : Reader (Option α)} {bound : Nat}
    (h : Reads step rest rest (· = none)) : Reads (repeated bound step) rest rest (· = []) := by
  cases bound with
  | zero => exact .pure rfl
  | succ bound => exact h.after (.pure rfl)

end Readers

/-! ### The levels of expressions -/

/-- What ends an expression: the end of the line, or a sign that is no operator. -/
def isCloser : Token.Kind → Bool
  | .newline => true
  | .sign s => [",", ")", "]", ":", "=", ":="].contains s
  | _ => false

/-- What a primary expression can start with. -/
def startsPrimary : Token.Kind → Bool
  | .keyword w => !(["lambda", "not", "await"].contains w)
  | .sign s => !(["+", "-", "~"].contains s)
  | _ => true

section Levels

variable {k : Nested} {P : Expr → Prop} {first c : Token.Kind} {kinds rest : List Token.Kind}

theorem ne_sign_of_isCloser (hc : isCloser c = true) {s : String}
    (hs : [",", ")", "]", ":", "=", ":="].contains s = false) : c ≠ .sign s := by
  rintro rfl
  simp_all [isCloser]

theorem ne_keyword_of_isCloser (hc : isCloser c = true) (w : String) : c ≠ .keyword w := by
  rintro rfl
  cases hc

theorem ne_sign_of_startsPrimary (h : startsPrimary c = true) {s : String}
    (hs : ["+", "-", "~"].contains s = true) : c ≠ .sign s := by
  rintro rfl
  simp_all [startsPrimary]

theorem ne_keyword_of_startsPrimary (h : startsPrimary c = true) {w : String}
    (hw : ["lambda", "not", "await"].contains w = true) : c ≠ .keyword w := by
  rintro rfl
  simp_all [startsPrimary]

/-- Operators of a level that none of the closers is one of. -/
theorem reads_leftGrouped {operators : List (String × BinaryOp)} {operand : Reader Expr}
    (hc : isCloser c = true)
    (hoperators : (operators.all fun o => !isCloser (.sign o.1)) = true)
    (h : Reads operand kinds (c :: rest) P) :
    Reads (leftGrouped k operators operand) kinds (c :: rest) P := by
  refine h.bind fun e he => (reads_repeated_nil (reads_peek.after ?_)).after (.pure he)
  cases c with
  | sign s =>
    have hlookup : operators.lookup s = none := by
      rw [List.lookup_eq_none_iff]
      intro o ho
      by_contra heq
      have hnot := List.all_eq_true.1 hoperators o ho
      obtain rfl : s = o.1 := by simpa using heq
      simp [hc] at hnot
    simp only [hlookup]
    exact .pure rfl
  | _ => exact .pure rfl

theorem reads_joined {word : String} {op : BoolOp} {operand : Reader Expr} (hc : isCloser c = true)
    (h : Reads operand kinds (c :: rest) P) :
    Reads (joined k word op operand) kinds (c :: rest) P := by
  refine h.bind fun e he => (reads_repeated_nil ?_).after (.pure he)
  exact (reads_keyword?_false (ne_keyword_of_isCloser hc word)).test_false (.pure rfl)

theorem reads_power (hfirst : startsPrimary first = true) (hc : isCloser c = true)
    (h : Reads (primary k) (first :: kinds) (c :: rest) P) :
    Reads (power k) (first :: kinds) (c :: rest) P := by
  refine Reads.bind (P := P) (.test_false ?_ h) fun e he => ?_
  · exact reads_keyword?_false (ne_keyword_of_startsPrimary hfirst rfl)
  · exact (reads_sign?_false (ne_sign_of_isCloser hc rfl)).test_false (.pure he)

theorem reads_factor (hfirst : startsPrimary first = true)
    (h : Reads (power k) (first :: kinds) (c :: rest) P) :
    Reads (factor k) (first :: kinds) (c :: rest) P := by
  refine (reads_sign?_false (ne_sign_of_startsPrimary hfirst rfl)).test_false ?_
  refine (reads_sign?_false (ne_sign_of_startsPrimary hfirst rfl)).test_false ?_
  exact (reads_sign?_false (ne_sign_of_startsPrimary hfirst rfl)).test_false h

theorem reads_bitOr (hc : isCloser c = true)
    (h : Reads (factor k) kinds (c :: rest) P) : Reads (bitOr k) kinds (c :: rest) P := by
  have hterm : Reads (term k) kinds (c :: rest) P := reads_leftGrouped hc rfl h
  have hsum : Reads (sum k) kinds (c :: rest) P := reads_leftGrouped hc rfl hterm
  have hshift : Reads (shift k) kinds (c :: rest) P := reads_leftGrouped hc rfl hsum
  exact reads_leftGrouped hc rfl (reads_leftGrouped hc rfl (reads_leftGrouped hc rfl hshift))

theorem reads_compareOp (hc : isCloser c = true) :
    Reads compareOp (c :: rest) (c :: rest) (· = none) := by
  refine reads_peek.after (reads_peekSecond.after ?_)
  cases c with
  | sign s =>
    split <;> first | exact .pure rfl | simp_all [isCloser]
  | newline => exact .pure rfl
  | _ => cases hc

theorem reads_comparison (hc : isCloser c = true) (h : Reads (bitOr k) kinds (c :: rest) P) :
    Reads (comparison k) kinds (c :: rest) P := by
  refine h.bind fun e he => (reads_repeated_nil ?_).after (.pure he)
  refine (reads_compareOp hc).after ?_
  exact .pure rfl

theorem reads_disjunction (hfirst : startsPrimary first = true) (hc : isCloser c = true)
    (h : Reads (comparison k) (first :: kinds) (c :: rest) P) :
    Reads (disjunction k) (first :: kinds) (c :: rest) P := by
  have hinversion : Reads (inversion k) (first :: kinds) (c :: rest) P :=
    (reads_keyword?_false (ne_keyword_of_startsPrimary hfirst rfl)).test_false h
  exact reads_joined hc (reads_joined hc hinversion)

/-- **A primary expression in front of a closer is an expression.** -/
theorem reads_expression (hfirst : startsPrimary first = true) (hc : isCloser c = true)
    (h : Reads (primary k) (first :: kinds) (c :: rest) P) :
    Reads (expression k) (first :: kinds) (c :: rest) P := by
  refine (reads_keyword?_false (ne_keyword_of_startsPrimary hfirst rfl)).test_false ?_
  have hfactor := reads_factor hfirst (reads_power hfirst hc h)
  have hvalue := reads_disjunction hfirst hc (reads_comparison hc (reads_bitOr hc hfactor))
  refine hvalue.bind fun e he => ?_
  exact (reads_keyword?_false (ne_keyword_of_isCloser hc _)).test_false (.pure he)

end Levels

end Grammar

end ServiceStubs
