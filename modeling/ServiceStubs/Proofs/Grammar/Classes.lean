import ServiceStubs.Proofs.Grammar.Definitions

/-!
# Headers of classes in their places

The header of a class is its name and, in parentheses, its arguments: bases and then keywords. If
each of them is placed, so is the header. What the arguments are is not said, as long as a class can
have them in that order.

## Main definitions

* `Grammar.IsBase`, `Grammar.IsKeyword`: the two sorts of arguments of a class

## Main statements

* `Grammar.placed_base`: an expression as a base
* `Grammar.placed_class`: the header of a class
-/

namespace ServiceStubs

namespace Grammar

open ServiceStubs.Tree Reader Token

variable {kinds rest : List Token.Kind} {room : Nat}

/-! ### Arguments -/

/-- The argument is a base. -/
def IsBase : Argument → Prop
  | .positional _ | .unpacked _ => True
  | _ => False

/-- The argument is a keyword. -/
def IsKeyword : Argument → Prop
  | .keyword _ | .unpackedMapping _ => True
  | _ => False

theorem inOrder_keywords {arguments : List Argument} (h : ∀ a ∈ arguments, IsKeyword a) (stage : Nat) :
    inOrder stage arguments = true := by
  induction arguments generalizing stage with
  | nil => rfl
  | cons a arguments ih =>
    rw [List.forall_mem_cons] at h
    cases a with
    | keyword w => exact ih h.2 _
    | unpackedMapping w => exact ih h.2 _
    | _ => exact h.1.elim

/-- Bases and then keywords are in order. -/
theorem inOrder_append {bases keywords : List Argument} (hbases : ∀ a ∈ bases, IsBase a)
    (hkeywords : ∀ a ∈ keywords, IsKeyword a) : inOrder 0 (bases ++ keywords) = true := by
  induction bases with
  | nil => exact inOrder_keywords hkeywords 0
  | cons a bases ih =>
    rw [List.forall_mem_cons] at hbases
    cases a with
    | positional e => exact ih hbases.2
    | unpacked e => exact ih hbases.2
    | _ => exact hbases.1.elim

/-- No argument starts with the parenthesis that closes the list. -/
theorem fails_argument {k : Nested} : Fails (argument k.deeper) (.sign ")" :: kinds) := by
  refine (reads_sign?_false (by simp)).test_fails ((reads_sign?_false (by simp)).test_fails ?_)
  refine reads_peek.bind_fails fun a ha => reads_peekSecond.bind_fails fun b _ => ?_
  subst ha
  refine Fails.bind (reads_peek.bind_fails fun a ha => reads_peekSecond.bind_fails fun b _ => ?_)
  subst ha
  exact fails_expression (by decide)

theorem Placed.ne_close {text : List Char} {P : Argument → Prop}
    (h : Placed room argument itemEnds text kinds P) :
    ∃ first others, kinds = first :: others ∧ first ≠ .sign ")" := by
  have hk : IsAmple (text.length + 1) (.ofDepth (text.length + 1) (text.length + 1)) :=
    ⟨(bound_ofDepth _ _).ge, text.length + 1, le_rfl, by rw [bound_ofDepth]⟩
  have hreads := h.reads _ hk (.sign ")") (by decide) []
  obtain ⟨k', hdeeper, -⟩ := hk.exists_deeper
  rw [hdeeper] at hreads
  cases kinds with
  | nil => exact absurd fails_argument hreads.not_fails
  | cons first others =>
    refine ⟨first, others, rfl, ?_⟩
    rintro rfl
    exact hreads.not_fails fails_argument

/-- Arguments of a call or of a class, and the parenthesis behind them. -/
theorem reads_arguments {ι : Type} {R : ι → Argument → Prop} {k : Nested} {ofCall : Bool}
    (tokens : ι → List Token.Kind) (i : ι) (items : List ι) (hbound : items.length ≤ k.bound)
    (hfirst : ∃ first others, tokens i = first :: others ∧ first ≠ .sign ")")
    (hitem : ∀ j ∈ i :: items, ∀ c ∈ itemEnds, ∀ rest,
      Reads (argument k) (tokens j ++ c :: rest) (c :: rest) (R j))
    (horder : ∀ read, List.Forall₂ R (i :: items) read → inOrder 0 read = true) :
    Reads (arguments k ofCall) (commaKinds ((i :: items).map tokens) ++ .sign ")" :: rest) rest
      fun r => ∃ read, List.Forall₂ R (i :: items) read ∧
        r = (plainArguments read, keywordArguments read) := by
  have hlist : Reads (commaList k.bound (argument k))
      (commaKinds ((i :: items).map tokens) ++ .sign ")" :: rest) (.sign ")" :: rest)
      fun r => List.Forall₂ R (i :: items) r.1 ∧ r.2 = false :=
    reads_commaList tokens i items hbound (by simp) hitem
  have hopen : Reads (sign? ")") (commaKinds ((i :: items).map tokens) ++ .sign ")" :: rest)
      (commaKinds ((i :: items).map tokens) ++ .sign ")" :: rest) (· = false) := by
    obtain ⟨first, others, htokens, hfirst⟩ := hfirst
    rw [List.map_cons, htokens, commaKinds, List.cons_append, List.cons_append]
    exact reads_sign?_false hfirst
  refine hopen.test_false (hlist.bind fun r hr => reads_sign.bind fun _ _ => ?_)
  obtain ⟨read, comma⟩ := r
  have hinOrder := horder read hr.1
  dsimp only
  split
  · cases hinOrder
  · rw [if_pos hinOrder]
    exact .pure ⟨read, hr.1, rfl⟩

/-- An expression as an argument. -/
theorem placed_argument {text : List Char} {P : Expr → Prop}
    (h : Placed room (·.expression) expressionEnds text kinds P) :
    Placed room argument itemEnds text kinds fun a => ∃ e, P e ∧ a = .positional e := by
  refine ⟨h.plain, h.nonempty, h.scans, fun k hk c hc rest => ?_⟩
  obtain ⟨first, others, rfl, hfirst, -⟩ := h.exists_first
  have hends : ∀ c ∈ itemEnds, c ∈ expressionEnds ∧ c ≠ .sign ":=" ∧ c ≠ .sign "=" ∧
      c ≠ .keyword "for" ∧ c ≠ .keyword "async" := by decide
  obtain ⟨hends, hassigned, hequals, hfor, hasync⟩ := hends c hc
  have hnamed : Reads (namedExpression k) (first :: (others ++ c :: rest)) (c :: rest) P := by
    refine reads_peek.after (reads_peekSecond.after ?_)
    split
    · next hsecond => exact absurd hsecond (h.second_ne rfl rfl hassigned)
    · exact h.reads k hk c hends rest
  have hclauses : Reads (clauses k) (c :: rest) (c :: rest) (· = []) := by
    refine reads_repeated_nil (.test_false (reads_peek.after ?_) (.pure rfl))
    split
    · exact absurd rfl hfor
    · exact absurd rfl hasync
    · exact .pure rfl
  refine (reads_sign?_false (hfirst "*" (by decide))).test_false ?_
  refine (reads_sign?_false (hfirst "**" (by decide))).test_false ?_
  refine reads_peek.after (reads_peekSecond.after ?_)
  split
  · next hsecond => exact absurd hsecond (h.second_ne rfl rfl hequals)
  · exact hnamed.bind fun e he => hclauses.after (.pure ⟨e, he, rfl⟩)

/-- An expression as a base. -/
theorem placed_base {text : List Char} {P : Expr → Prop}
    (h : Placed room (·.expression) expressionEnds text kinds P) :
    Placed room argument itemEnds text kinds IsBase := by
  refine (placed_argument h).mono ?_
  rintro a ⟨e, -, rfl⟩
  trivial

/-! ### Headers -/

/-- A class of that name, of whose body something is known. -/
def IsClass (id : Token.FreeName) (ds : List Decorator) (R : List Stmt → Prop) (n : StmtNode) : Prop :=
  ∃ bases keywords body, n = .classDef id.text bases keywords ds body ∧ R body

/-- The kinds of the tokens of a class in front of its body. -/
def classKinds (id : Token.FreeName) (arguments : List Token.Kind) : List Token.Kind :=
  .keyword "class" :: .name id :: .sign "(" :: (arguments ++ [Kind.sign ")", Kind.sign ":"])

/-- A class in front of its body, and the body. -/
theorem reads_class {k : Nested} {ds : List Decorator} {body : Reader (List Stmt)}
    {R : List Stmt → Prop} (id : Token.FreeName) {args behind : List Token.Kind}
    (hargs : ∀ rest, Reads (arguments k false) (args ++ .sign ")" :: rest) rest fun _ => True)
    (hbody : Reads body behind rest R) :
    Reads (definition k ds body)
    (classKinds id args ++ behind) rest fun s => IsClass id ds R s.node := by
  have hnode : Reads (classNode k ds body)
      (.name id :: .sign "(" :: (args ++ .sign ")" :: .sign ":" :: behind)) rest (IsClass id ds R) := by
    refine reads_identifier.after ?_
    refine Reads.bind (P := fun _ => True) (reads_sign?_true.test_true (hargs _)) fun r _ => ?_
    obtain ⟨bases, keywords⟩ := r
    refine (reads_sign.seqRight hbody).bind fun statements hstatements => .pure ?_
    exact ⟨bases, keywords, statements, rfl, hstatements⟩
  simp only [classKinds, List.cons_append, List.append_assoc, List.nil_append]
  exact reads_asStatement rfl (reads_keyword?_true.test_true hnode)

theorem scans_class {texts : List Char} {args : List Token.Kind} (id : Token.FreeName)
    (h : Scans 1 texts args) :
    Scans 0 ("class".toList ++ ' ' :: (id.text.toList ++ '(' :: (texts ++ [')', ':'])))
    (classKinds id args) := by
  intro brackets blocks rest out hbrackets hrest hout
  obtain rfl : brackets = [] := List.eq_nil_of_length_eq_zero (Nat.le_zero.1 hbrackets)
  have hword : IsWord "class".toList (.keyword "class") :=
    ⟨by decide, List.all_eq_true.1 (by decide), 'c', rfl, rfl⟩
  have hitems := h [")"] blocks _ _ le_rfl (delimited_cons rfl _)
    (yields_close (yields_finalColon hrest hout))
  have hname := Yields.name id (endsWord_cons (by decide) _) (yields_open (by simp [maxBrackets]) hitems)
  have hline := Yields.keyword hword (endsWord_cons (by decide) _) hname.blank
  simpa [classKinds, List.append_assoc] using hline

/-- **The header of a class with placed arguments is placed.** -/
theorem placed_class {ι : Type} {R : ι → Argument → Prop} (id : Token.FreeName) (text : ι → String)
    (tokens : ι → List Token.Kind) (i : ι) (items : List ι)
    (hitems : ∀ j ∈ i :: items, Placed 1 argument itemEnds (text j).toList (tokens j) (R j))
    (horder : ∀ read, List.Forall₂ R (i :: items) read → inOrder 0 read = true) :
    PlacedHead (Code.classHeader id.text ((i :: items).map text))
      (classKinds id (commaKinds ((i :: items).map tokens))) fun ds R => IsClass id ds R := by
  have hlist := listText_of_placed hitems
  have htext : (Code.classHeader id.text ((i :: items).map text)).toList =
      "class".toList ++ ' ' :: (id.text.toList ++ '(' ::
        ((Code.commaSeparated ((i :: items).map text)).toList ++ [')', ':'])) := by
    simp [Code.classHeader]
  refine ⟨?_, ⟨'c', by rw [htext]; rfl, rfl⟩, ⟨_, _, rfl, .inr rfl⟩, ?_,
    fun k hk ds body behind rest R hbody => ?_⟩
  · rw [htext]
    refine (isPlain_of_all (by decide) : IsPlain "class".toList).append (.cons (by decide) ?_)
    exact (isPlain_name id).append (.cons (by decide) (hlist.plain.append (isPlain_of_all (by decide))))
  · rw [htext]
    exact scans_class id hlist.scans
  · have hsize : (Code.commaSeparated ((i :: items).map text)).toList.length + 2 ≤
        (Code.classHeader id.text ((i :: items).map text)).toList.length := by
      rw [htext]
      simp only [List.length_append, List.length_cons]
      omega
    refine reads_class id (fun rest => (reads_arguments tokens i items ?_
      (hitems i List.mem_cons_self).ne_close
        (fun j hj c hc rest => ?_) horder).mono fun _ _ => trivial) hbody
    · have hcount := hlist.count
      have hbound := hk.1
      rw [List.length_cons] at hcount
      omega
    · refine (hitems j hj).reads k (hk.mono ?_) c hc rest
      have := hlist.length j hj
      omega

end Grammar

end ServiceStubs
