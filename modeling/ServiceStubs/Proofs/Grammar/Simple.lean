import ServiceStubs.Proofs.Grammar.Classes

/-!
# Calls and assignments in their places

A call of a dotted name is an expression, and so is a list of names in parentheses, with a comma
behind the name if there is only one. In front of the end of a line such an expression is a
statement, and two of them with an equality sign between them are an assignment.

## Main statements

* `Grammar.placed_call`: calls
* `Grammar.placed_tupleTarget`: names in parentheses
* `Grammar.stands_expression`, `Grammar.stands_assignment`: lines made of such expressions
-/

namespace ServiceStubs

namespace Grammar

open ServiceStubs.Tree Reader Token

variable {kinds rest ends : List Token.Kind} {room width : Nat} {k : Nested}

/-- What stands behind an expression on a line of its own. -/
def lineEnds : List Token.Kind := .newline :: expressionEnds

theorem isCloser_of_mem_lineEnds {c : Token.Kind} (h : c ∈ lineEnds) : isCloser c = true := by
  rcases List.mem_cons.1 h with rfl | h
  · rfl
  · exact isCloser_of_mem_expressionEnds h

/-! ### Calls -/

/-- The text of a call of a dotted name. -/
def callText (id : Token.FreeName) (path : List Token.FreeName) (texts : List (List Char)) : List Char :=
  dottedText id path ++ '(' :: (commaText texts ++ [')'])

/-- The kinds of the tokens of a call of a dotted name. -/
def callKinds (id : Token.FreeName) (path : List Token.FreeName) (args : List (List Token.Kind)) :
    List Token.Kind :=
  dottedKinds id path ++ Kind.sign "(" :: (commaKinds args ++ [Kind.sign ")"])

/-- Positional arguments are in order, and none of them is a keyword. -/
theorem arguments_of_positional {ι : Type} {E : ι → Expr → Prop} {items : List ι} {read : List Argument}
    (h : List.Forall₂ (fun i a => ∃ e, E i e ∧ a = .positional e) items read) :
    inOrder 0 read = true ∧ List.Forall₂ E items (plainArguments read) ∧ keywordArguments read = [] := by
  induction h with
  | nil => exact ⟨rfl, .nil, rfl⟩
  | cons hread _ ih =>
    obtain ⟨e, he, rfl⟩ := hread
    exact ⟨ih.1, .cons he ih.2.1, ih.2.2⟩

/-- The arguments of a call, and the parentheses around them. -/
theorem reads_callTrailer {ι : Type} {E : ι → Expr → Prop} (tokens : ι → List Token.Kind)
    (items : List ι)
    (hbound : items.length ≤ k.bound)
    (hfirst : ∀ i ∈ items, ∃ first others, tokens i = first :: others ∧ first ≠ .sign ")")
    (hitem : ∀ i ∈ items, ∀ c ∈ itemEnds, ∀ rest,
      Reads (argument k) (tokens i ++ c :: rest) (c :: rest) fun a => ∃ e, E i e ∧ a = .positional e) :
    Reads (trailer k) (.sign "(" :: (commaKinds (items.map tokens) ++ .sign ")" :: rest)) rest
      fun o => ∃ t, o = some t ∧ ∃ es, List.Forall₂ E items es ∧ t = .call es [] := by
  refine (reads_sign?_false (by simp)).test_false (reads_sign?_true.test_true ?_)
  have hargs : Reads (arguments k true) (commaKinds (items.map tokens) ++ .sign ")" :: rest) rest
      fun r => List.Forall₂ E items r.1 ∧ r.2 = [] := by
    cases items with
    | nil => exact reads_sign?_true.test_true (.pure ⟨.nil, rfl⟩)
    | cons i items =>
      refine (reads_arguments tokens i items (Nat.le_of_succ_le hbound)
        (hfirst i List.mem_cons_self) hitem
        fun read hread => (arguments_of_positional hread).1).mono ?_
      rintro r ⟨read, hread, rfl⟩
      exact (arguments_of_positional hread).2
  refine hargs.bind fun r hr => ?_
  obtain ⟨es, keywords⟩ := r
  obtain ⟨hes, rfl⟩ : List.Forall₂ E items es ∧ keywords = [] := hr
  exact .pure ⟨_, rfl, es, hes, rfl⟩

/-- **A call of a dotted name is an expression.** -/
theorem placed_call {ι : Type} {E : ι → Expr → Prop} (hends : ∀ c ∈ ends, isCloser c = true)
    (hroom : room < maxBrackets) (id : Token.FreeName) (path : List Token.FreeName)
    (text : ι → List Char)
    (tokens : ι → List Token.Kind) (items : List ι)
    (h : ∀ i ∈ items, Placed (room + 1) (·.expression) expressionEnds (text i) (tokens i) (E i)) :
    Placed room (·.expression) ends (callText id path (items.map text))
    (callKinds id path (items.map tokens))
      fun e => ∃ es, List.Forall₂ E items es ∧ e = .call (dotted id path) es [] := by
  have hplain : IsPlain (commaText (items.map text)) := isPlain_commaText fun t ht => by
    obtain ⟨i, hi, rfl⟩ := List.mem_map.1 ht
    exact (h i hi).plain
  obtain ⟨hcount, hlength⟩ := length_le_commaText (items.map text) fun t ht => by
    obtain ⟨i, hi, rfl⟩ := List.mem_map.1 ht
    exact (h i hi).nonempty
  have hscans := scans_parenthesized hroom (scans_commaText text tokens fun i hi => (h i hi).scans)
  refine (placed_trailed (T := fun t => ∃ es, List.Forall₂ E items es ∧ t = .call es [])
    hends id path rfl
    ((hplain.append (isPlain_nil.cons (by decide))).cons (by decide)) hscans fun k hk rest => ?_).mono ?_
  · have hsize : (commaText (items.map text)).length + 1 ≤
        ('(' :: (commaText (items.map text) ++ [')'])).length := by simp
    have hbound : items.length ≤ k.bound := by
      rw [List.length_map] at hcount
      exact hcount.trans (Nat.le_of_succ_le (hsize.trans hk.1))
    have hkinds : Kind.sign "(" :: (commaKinds (items.map tokens) ++ [Kind.sign ")"]) ++ rest =
        .sign "(" :: (commaKinds (items.map tokens) ++ Kind.sign ")" :: rest) := by simp
    rw [hkinds]
    exact reads_callTrailer tokens items hbound
      (fun i hi => (placed_argument (h i hi)).ne_close) fun i hi => (placed_argument (h i hi)).reads k
        (hk.mono ((Nat.succ_le_succ (hlength _ (List.mem_map_of_mem hi))).trans hsize))
  · rintro e ⟨t, ⟨es, hes, rfl⟩, rfl⟩
    exact ⟨es, hes, rfl⟩

/-! ### Names in parentheses -/

/-- What an optional reader that fails yields. -/
theorem reads_optional_none {α : Type} {r : Reader α} (h : Fails r kinds) :
    Reads (optional r) kinds kinds (· = none) := by
  show Reads (Reader.orElse (some <$> r) fun _ => pure none) _ _ _
  refine .orElse_right ?_ (.pure rfl)
  rw [map_eq_pure_bind]
  exact h.bind

theorem reads_starNamed_name {id : Token.FreeName} {c : Token.Kind} (hc : isCloser c = true)
    (hassigned : c ≠ .sign ":=") :
    Reads (starNamed k.deeper) (.name id :: c :: rest) (c :: rest) (· = .name id.text) := by
  refine (reads_sign?_false (by simp)).test_false (reads_peek.after (reads_peekSecond.after ?_))
  split
  · next hsecond => exact absurd hsecond hassigned
  · exact reads_expression_name hc

/-- A name, a comma and what follows them, in parentheses. -/
theorem reads_tuple {id : Token.FreeName} {behind : List Token.Kind} {others : List Expr} {comma : Bool}
    (hmore : (others.isEmpty && !comma) = false)
    (htail : Reads (commaTail k.bound (starNamed k.deeper)) (.sign "," :: behind) (.sign ")" :: rest)
      (· = (others, comma))) :
    Reads (parenthesized k.deeper) (.name id :: .sign "," :: behind) rest
      (· = .tuple (.name id.text :: others)) := by
  refine (reads_sign?_false (by simp)).test_false ?_
  refine (reads_peek.after (.pure rfl) : Reads (atKeyword "yield") _ (.name id :: .sign "," :: behind)
    (· = false)).test_false ?_
  refine (reads_starNamed_name rfl (by simp)).after ?_
  refine Reads.after (a := false) (reads_peek.after (.pure rfl)) ?_
  refine Reads.after (a := true) (reads_peek.after (.pure rfl)) ?_
  refine Reads.after htail (reads_sign.bind fun _ _ => ?_)
  rw [hmore]
  exact .pure rfl

/-- The comma at the end of a list. -/
theorem reads_commaTail_last {α : Type} {item : Reader α} {bound : Nat} (h : Fails item kinds) :
    Reads (commaTail bound item) (.sign "," :: kinds) kinds (· = ([], true)) := by
  have hitem : Fails (sign "," *> item) (.sign "," :: kinds) := by
    rw [seqRight_eq_bind]
    exact reads_sign.bind_fails fun _ _ => h
  refine (reads_repeated_nil (reads_atSign_true.test_true (reads_optional_none hitem))).after ?_
  exact reads_sign?_true.after (.pure rfl)

/-- The kinds of the tokens between the parentheses. -/
def tupleKinds : List Token.FreeName → List Token.Kind
  | [id] => [.name id, .sign ","]
  | ids => commaKinds (ids.map fun id : Token.FreeName => [.name id])

/-- One name and a comma. -/
theorem placed_single (hends : ∀ c ∈ ends, isCloser c = true) (hroom : room < maxBrackets)
    (id : Token.FreeName) :
    Placed room (·.expression) ends ('(' :: (id.text.toList ++ [','] ++ [')']))
      (.sign "(" :: (tupleKinds [id] ++ [Kind.sign ")"]))
      (· = .tuple [.name id.text]) := by
  refine placed_parenthesized hends hroom ((isPlain_name id).append (isPlain_nil.cons (by decide)))
    (fun brackets blocks rest out _ _ hout => ?_) fun k _ rest => ?_
  · rw [List.append_assoc]
    exact .name id (endsWord_cons (by decide) _)
      (.sign "," rfl (by decide) (endsSign_of_nil (by decide +kernel) _) rfl hout)
  · have hclose : Fails (starNamed k.deeper) (.sign ")" :: rest) := by
      refine (reads_sign?_false (by simp)).test_fails ?_
      refine reads_peek.bind_fails fun a ha => reads_peekSecond.bind_fails fun b _ => ?_
      subst ha
      exact fails_expression (by decide)
    exact reads_tuple rfl (reads_commaTail_last hclose)

/-- Names with commas between them. -/
theorem placed_names (hends : ∀ c ∈ ends, isCloser c = true) (hroom : room < maxBrackets)
    (id id' : Token.FreeName) (ids : List Token.FreeName) :
    Placed room (·.expression) ends
      ('(' :: (commaText ((id :: id' :: ids).map (·.text.toList)) ++ [')']))
      (.sign "(" :: (tupleKinds (id :: id' :: ids) ++ [Kind.sign ")"]))
      (· = .tuple ((id :: id' :: ids).map fun id => .name id.text)) := by
  have hkinds : tupleKinds (id :: id' :: ids) =
      commaKinds ((id :: id' :: ids).map fun id : Token.FreeName => [Kind.name id]) :=
    rfl
  have hname : ∀ i ∈ id :: id' :: ids, Scans (room + 1) i.text.toList [Kind.name i] :=
    fun i _ => scans_name i
  have hscans := scans_commaText (fun i : Token.FreeName => i.text.toList)
    (fun i : Token.FreeName => [Kind.name i]) hname
  rw [hkinds]
  refine placed_parenthesized hends hroom (isPlain_commaText fun t ht => ?_) hscans fun k hk rest => ?_
  · obtain ⟨i, -, rfl⟩ := List.mem_map.1 ht
    exact isPlain_name i
  · obtain ⟨hcount, -⟩ := length_le_commaText ((id :: id' :: ids).map (·.text.toList)) fun t ht => by
      obtain ⟨i, -, rfl⟩ := List.mem_map.1 ht
      simpa [dottedText] using dottedText_ne_nil i []
    rw [List.length_map, List.length_cons] at hcount
    have htail : Reads (commaTail k.bound (starNamed k.deeper))
        (((id' :: ids).flatMap fun id : Token.FreeName => Kind.sign "," :: [Kind.name id]) ++
          .sign ")" :: rest)
        (.sign ")" :: rest)
        fun r => List.Forall₂ (fun id e => e = .name id.text) (id' :: ids) r.1 ∧ r.2 = false := by
      refine reads_commaTail _ _ ((Nat.le_of_succ_le hcount).trans hk.1) (by simp)
        fun id _ d hd rest => ?_
      simp only [List.mem_cons, List.not_mem_nil, or_false] at hd
      rcases hd with rfl | rfl <;> exact reads_starNamed_name rfl (by simp)
    have hothers := htail.mono fun r hr =>
      show r = ((id' :: ids).map fun id => .name id.text, false) from
      Prod.ext (eq_map_of_forall₂ hr.1) hr.2
    rw [List.map_cons, commaKinds, List.flatMap_map]
    exact reads_tuple rfl hothers

/-- **Names in parentheses are a tuple**, also a single one with its comma. -/
theorem placed_tupleTarget (hends : ∀ c ∈ ends, isCloser c = true) (hroom : room < maxBrackets)
    {ids : List Token.FreeName} (hne : ids ≠ []) :
    Placed room (·.expression) ends (Code.tupleTarget (ids.map (·.text))).toList
      (.sign "(" :: (tupleKinds ids ++ [Kind.sign ")"]))
      (· = .tuple (ids.map fun id => .name id.text)) := by
  match ids, hne with
  | [id], _ =>
    have htext : (Code.tupleTarget ([id].map (·.text))).toList =
        '(' :: (id.text.toList ++ [','] ++ [')']) := by simp [Code.tupleTarget]
    exact htext ▸ placed_single hends hroom id
  | id :: id' :: ids, _ =>
    have htext : (Code.tupleTarget ((id :: id' :: ids).map (·.text))).toList =
        '(' :: (commaText ((id :: id' :: ids).map (·.text.toList)) ++ [')']) := by
      have hnames : ∀ name ∈ (id :: id' :: ids).map (·.text), name ≠ "" := by
        intro name hname
        obtain ⟨i, -, rfl⟩ := List.mem_map.1 hname
        simpa [dottedText] using dottedText_ne_nil i []
      show ("(" ++ Code.commaSeparated ((id :: id' :: ids).map (·.text)) ++ ")").toList = _
      rw [String.toList_append, String.toList_append, toList_commaSeparated hnames, List.map_map]
      rfl
    exact htext ▸ placed_names hends hroom id id' ids

/-! ### Lines -/

/-- A token that an expression starts with and no other statement. -/
def startsExpression : Token.Kind → Bool
  | .name id => id.written != "match"
  | .sign s => s == "("
  | _ => false

section Lines

variable {first : Token.Kind} {others : List Token.Kind} {P Q : Expr → Prop}

theorem startsLine_of_startsExpression (h : startsExpression first = true) :
    startsLine first = true ∧ Grammar.isLayout first = false ∧ first ≠ .sign "*" ∧
      ∀ w, first ≠ .keyword w := by
  cases first with
  | name id => exact ⟨h, rfl, by simp, by simp⟩
  | sign s =>
    obtain rfl : s = "(" := by simpa [startsExpression] using h
    exact ⟨by decide, rfl, by simp, by simp⟩
  | _ => cases h

/-- An expression that fills a line, or one side of an assignment. -/
theorem Placed.reads_side {text : List Char}
    (h : Placed room (·.expression) lineEnds text (first :: others) P) (hfirst : first ≠ .sign "*")
    (hk : IsAmple (text.length + 1) k) {c : Token.Kind} (hc : c = .newline ∨ c = .sign "=")
    (rest : List Token.Kind) :
    Reads (starExpressions k) (first :: (others ++ c :: rest)) (c :: rest) P := by
  have hmem : ∀ d ∈ [.sign ",", c], d ∈ lineEnds := by
    intro d hd
    simp only [List.mem_cons, List.not_mem_nil, or_false] at hd
    rcases hc with rfl | rfl <;> rcases hd with rfl | rfl <;> decide
  have hcomma : c ≠ .sign "," := by rcases hc with rfl | rfl <;> simp
  have hlist : Reads (starExpressions k) (first :: others ++ c :: rest) (c :: rest) P :=
    reads_starExpressions hcomma fun d hd rest =>
      (reads_sign?_false hfirst).test_false (h.reads k hk d (hmem d hd) rest)
  exact hlist

/-- **An expression on a line of its own.** -/
theorem stands_expression {line : String} (hstarts : StartsLine line.toList)
    (hfirst : startsExpression first = true)
    (h : Placed 0 (·.expression) lineEnds line.toList (first :: others) P) :
    Stands 0 width [line] (first :: (others ++ [Kind.newline]))
      fun s => ∃ e, P e ∧ s.node = .expression e := by
  obtain ⟨hline, hlayout, hstar, hkeyword⟩ := startsLine_of_startsExpression hfirst
  refine stands_line h.plain hstarts h.scans hline fun k hk rest => ?_
  refine reads_simpleStatements hlayout (reads_simpleNode hkeyword (reads_bareExpression ?_))
  exact h.reads_side hstar hk (.inl rfl) rest

/-- One value for one target. -/
theorem reads_assignment {first' : Token.Kind} {others' : List Token.Kind} (hbound : 0 < k.bound)
    (htarget : ∀ rest,
      Reads (starExpressions k) (first :: (others ++ .sign "=" :: rest)) (.sign "=" :: rest) P)
    (hassignable : ∀ e, P e → isTarget e = true) (hyield : first' ≠ .keyword "yield")
    (hvalue : Reads (starExpressions k) (first' :: (others' ++ .newline :: rest)) (.newline :: rest) Q) :
    Reads (expressionStatement k)
      (first :: (others ++ .sign "=" :: first' :: (others' ++ .newline :: rest))) (.newline :: rest)
      fun n => ∃ e v, P e ∧ Q v ∧ n = .assign [e] v := by
  refine reads_startsWithName.bind fun startsWithName _ => ?_
  refine (htarget _).bind fun e he => reads_peek.after ?_
  have hassigned : Reads (assigned k) (first' :: (others' ++ .newline :: rest)) (.newline :: rest) Q :=
    (reads_peek.after (.pure (by simpa using hyield)) : Reads (atKeyword "yield") _ (first' :: _)
      (· = false)).test_false hvalue
  have hvalues : Reads (repeated k.bound do if ← sign? "=" then some <$> assigned k else pure none)
      ([()].flatMap (fun _ => .sign "=" :: first' :: others') ++ .newline :: rest) (.newline :: rest)
      (List.Forall₂ (fun _ => Q) [()]) := by
    refine reads_repeated (fun _ : Unit => Kind.sign "=" :: first' :: others') hbound
      (fun _ more hsuffix => ?_) ((reads_sign?_false (by simp)).test_false (.pure rfl))
    obtain rfl : more = [] := by simpa using hsuffix.length_le
    exact reads_sign?_true.test_true (hassigned.map fun v hv => ⟨v, rfl, hv⟩)
  rw [List.flatMap_singleton, List.cons_append, List.cons_append] at hvalues
  refine hvalues.bind fun vs hvs => ?_
  rw [forall₂_unit] at hvs
  obtain ⟨v, rfl, hv⟩ := hvs
  have htargets : areTargets [e, v].dropLast = true := by simp [areTargets, hassignable e he]
  dsimp only
  rw [if_pos htargets]
  exact .pure ⟨e, v, he, hv, rfl⟩

/-- **An assignment on a line of its own.** -/
theorem stands_assignment {target value : String} {first' : Token.Kind} {others' : List Token.Kind}
    (hstarts : StartsLine target.toList) (hfirst : startsExpression first = true)
    (htarget : Placed 0 (·.expression) lineEnds target.toList (first :: others) P)
    (hassignable : ∀ e, P e → isTarget e = true) (hfirst' : startsExpression first' = true)
    (hvalue : Placed 0 (·.expression) lineEnds value.toList (first' :: others') Q) :
    Stands 0 width [target ++ " = " ++ value]
      (first :: (others ++ Kind.sign "=" :: first' :: others' ++ [Kind.newline]))
      fun s => ∃ e v, P e ∧ Q v ∧ s.node = .assign [e] v := by
  obtain ⟨hline, hlayout, hstar, hkeyword⟩ := startsLine_of_startsExpression hfirst
  obtain ⟨-, -, hstar', hvalueKeyword⟩ := startsLine_of_startsExpression hfirst'
  have htext : (target ++ " = " ++ value).toList =
      target.toList ++ ' ' :: '=' :: ' ' :: value.toList := by simp
  have hscans : Scans 0 (target.toList ++ ' ' :: '=' :: ' ' :: value.toList)
      (first :: (others ++ Kind.sign "=" :: first' :: others')) := by
    intro brackets blocks rest out hbrackets hrest hout
    have hside := yields_equals (hvalue.scans brackets blocks rest out hbrackets hrest hout)
    have hall := htarget.scans brackets blocks _ _ hbrackets (delimited_cons rfl _) hside
    simpa [List.append_assoc] using hall
  refine stands_line ?_ ?_ (htext ▸ hscans) hline fun k hk rest => ?_
  · rw [htext]
    exact htarget.plain.append (((hvalue.plain.cons (by decide)).cons (by decide)).cons (by decide))
  · rw [htext]
    exact startsLine_append hstarts _
  · rw [htext] at hk
    have hbound : 0 < k.bound := (Nat.succ_pos _).trans_le hk.1
    have hsides : IsAmple (target.toList.length + 1) k ∧ IsAmple (value.toList.length + 1) k := by
      constructor <;>
      · refine hk.mono ?_
        simp only [List.length_append, List.length_cons]
        omega
    have hnode := reads_assignment hbound (htarget.reads_side hstar hsides.1 (.inr rfl)) hassignable
      (hvalueKeyword "yield") (hvalue.reads_side hstar' hsides.2 (.inl rfl) rest)
    rw [List.append_assoc]
    exact reads_simpleStatements hlayout (reads_simpleNode hkeyword hnode)

end Lines

end Grammar

end ServiceStubs
