import ServiceStubs.Grammar.Stmt
import ServiceStubs.Proofs.Grammar.Parameters
import ServiceStubs.Proofs.Grammar.Placed

/-!
# Signatures in their places

A parameter is placed if its annotation and its default are. Placed parameters with commas between
them, perhaps with a slash among them, are read as a list of items, and what that list declares
depends on the kinds and defaults of the parameters alone.

## Main statements

* `Grammar.placed_bare`, `Grammar.placed_annotated`, `Grammar.placed_defaulted`: parameters
* `Grammar.arrange_plain`, `Grammar.arrange_marked`: what parameters declare, without and with a
  slash
* `Grammar.reads_parameters`, `Grammar.reads_function`: signatures
-/

namespace ServiceStubs

namespace Grammar

open ServiceStubs.Tree Reader Token

variable {kinds rest : List Token.Kind} {room : Nat}

/-! ### Parameters -/

theorem ne_of_mem_itemEnds {c : Token.Kind} (h : c ∈ itemEnds) : c ≠ .sign ":" ∧ c ≠ .sign "=" := by
  simp only [itemEnds, List.map_cons, List.map_nil, List.mem_cons, List.not_mem_nil, or_false] at h
  rcases h with rfl | rfl <;> simp

theorem mem_expressionEnds_of_mem_itemEnds {c : Token.Kind} (h : c ∈ itemEnds) : c ∈ expressionEnds := by
  simp only [itemEnds, List.map_cons, List.map_nil, List.mem_cons, List.not_mem_nil, or_false] at h
  rcases h with rfl | rfl <;> decide

/-- A parameter is read as its name, its annotation and its default. -/
theorem reads_plainItem {k : Nested} (id : Token.FreeName) {P Q : Option Expr → Prop}
    {typed valued : List Token.Kind}
    (htype : Reads (do if ← sign? ":" then some <$> k.expression else pure none) typed valued P)
    (hvalue : Reads (do if ← sign? "=" then some <$> k.expression else pure none) valued rest Q) :
    Reads (paramItem k true) (.name id :: typed) rest fun i =>
      ∃ type value position, P type ∧ Q value ∧
      i = .param (.param .plain id.text type value position) := by
  refine (reads_sign?_false (by simp)).test_false ?_
  refine (reads_sign?_false (by simp)).test_false ?_
  refine (reads_sign?_false (by simp)).test_false ?_
  refine (reads_place rfl).bind fun position _ => reads_name.after ?_
  refine htype.bind fun type hP => hvalue.bind fun value hQ => .pure ?_
  exact ⟨type, value, position, hP, hQ, rfl⟩

/-- What is not there is not read. -/
theorem reads_absent {k : Nested} {c : Token.Kind} {s : String} (hc : c ≠ .sign s) :
    Reads (do if ← sign? s then some <$> k.expression else pure none) (c :: rest) (c :: rest)
    (· = none) :=
  (reads_sign?_false hc).test_false (.pure rfl)

/-- An expression behind a sign. -/
theorem reads_behind {k : Nested} {s : String} {P : Expr → Prop}
    (h : Reads k.expression kinds rest P) :
    Reads (do if ← sign? s then some <$> k.expression else pure none) (.sign s :: kinds) rest
      fun o => ∃ e, o = some e ∧ P e :=
  reads_sign?_true.test_true (h.map fun e he => ⟨e, rfl, he⟩)

/-- A parameter without annotation and default. -/
theorem placed_bare (id : Token.FreeName) :
    Placed room (paramItem · true) itemEnds id.text.toList [.name id]
    fun i => ∃ position, i = .param (.param .plain id.text none none position) := by
  refine ⟨isPlain_name id, ?_, scans_name id, fun k _ c hc rest => ?_⟩
  · have hne := dottedText_ne_nil id []
    rwa [dottedText, List.flatMap_nil, List.append_nil] at hne
  · obtain ⟨hcolon, hequals⟩ := ne_of_mem_itemEnds hc
    refine (reads_plainItem id (reads_absent hcolon) (reads_absent hequals)).mono fun i hi => ?_
    obtain ⟨type, value, position, rfl, rfl, rfl⟩ := hi
    exact ⟨position, rfl⟩

/-- The text of a parameter with an annotation. -/
def annotatedText (id : Token.FreeName) (type : List Char) : List Char :=
  id.text.toList ++ ':' :: ' ' :: type

theorem scans_annotated {type : List Char} (id : Token.FreeName) (h : Scans room type kinds) :
    Scans room (annotatedText id type) (.name id :: .sign ":" :: kinds) := by
  intro brackets blocks rest out hroom hrest hout
  rw [annotatedText, List.append_assoc]
  exact .name id (endsWord_cons (by decide) _) (yields_colon (h _ _ _ _ hroom hrest hout))

/-- A parameter with an annotation. -/
theorem placed_annotated {type : List Char} {P : Expr → Prop} (id : Token.FreeName)
    (h : Placed room (·.expression) expressionEnds type kinds P) :
    Placed room (paramItem · true) itemEnds (annotatedText id type) (.name id :: .sign ":" :: kinds)
      fun i => ∃ e position, P e ∧ i = .param (.param .plain id.text (some e) none position) := by
  refine ⟨?_, by simp [annotatedText], scans_annotated id h.scans, fun k hk c hc rest => ?_⟩
  · exact (isPlain_name id).append ((h.plain.cons (by decide)).cons (by decide))
  · have hk : IsAmple (type.length + 1) k := hk.mono (by simp [annotatedText]; omega)
    have htype := h.reads k hk c (mem_expressionEnds_of_mem_itemEnds hc) rest
    refine (reads_plainItem id (reads_behind htype)
      (reads_absent (ne_of_mem_itemEnds hc).2)).mono fun i hi => ?_
    obtain ⟨-, value, position, ⟨e, rfl, he⟩, rfl, rfl⟩ := hi
    exact ⟨e, position, he, rfl⟩

/-- A parameter with an annotation and a default. -/
theorem placed_defaulted {type value : List Char} {kinds' : List Token.Kind} {P Q : Expr → Prop}
    (id : Token.FreeName) (h : Placed room (·.expression) expressionEnds type kinds P)
    (h' : Placed room (·.expression) expressionEnds value kinds' Q) :
    Placed room (paramItem · true) itemEnds (annotatedText id type ++ ' ' :: '=' :: ' ' :: value)
      (.name id :: .sign ":" :: (kinds ++ .sign "=" :: kinds'))
      fun i => ∃ e v position, P e ∧ Q v ∧
        i = .param (.param .plain id.text (some e) (some v) position) := by
  refine ⟨?_, by simp [annotatedText], fun brackets blocks rest out hroom hrest hout => ?_,
    fun k hk c hc rest => ?_⟩
  · refine IsPlain.append ?_ (((h'.plain.cons (by decide)).cons (by decide)).cons (by decide))
    exact (isPlain_name id).append ((h.plain.cons (by decide)).cons (by decide))
  · have hvalue := yields_equals (h'.scans _ blocks _ _ hroom hrest hout)
    have hscan := scans_annotated id h.scans brackets blocks _ _ hroom (delimited_cons rfl _) hvalue
    simpa [List.append_assoc] using hscan
  · have hk : IsAmple (type.length + 1) k ∧ IsAmple (value.length + 1) k := by
      constructor <;>
      · refine hk.mono ?_
        simp only [annotatedText, List.length_append, List.length_cons]
        omega
    have htype := h.reads k hk.1 (.sign "=") (by decide) (kinds' ++ c :: rest)
    have hvalue := h'.reads k hk.2 c (mem_expressionEnds_of_mem_itemEnds hc) rest
    have hitem := reads_plainItem id (reads_behind htype) (reads_behind hvalue)
    rw [List.cons_append, List.cons_append, List.append_assoc, List.cons_append]
    refine hitem.mono fun i hi => ?_
    obtain ⟨-, -, position, ⟨e, rfl, he⟩, ⟨v, rfl, hv⟩, rfl⟩ := hi
    exact ⟨e, v, position, he, hv, rfl⟩

/-- The slash behind parameters that bind by position only. -/
theorem placed_slash : Placed room (paramItem · true) itemEnds ['/'] [.sign "/"] (· = .slash) := by
  refine ⟨isPlain_nil.cons (by decide), by simp, fun brackets blocks rest out _ hrest hout => ?_,
    fun k _ c _ rest => reads_sign?_true.test_true (.pure rfl)⟩
  refine .sign "/" rfl (by decide) (fun d hd => ?_) rfl hout
  obtain ⟨c, hc, hdelimiter⟩ := hrest
  obtain rfl : c = d := Option.some.inj (hc.symm.trans hd)
  have hnone : (continuations "/".toList).all (!isDelimiter ·) = true := by decide +kernel
  refine ⟨fun hmem => ?_, by simp⟩
  have hnot := List.all_eq_true.1 hnone c hmem
  simp [hdelimiter] at hnot

/-! ### Arranging parameters -/

section Arranging

variable {p : Param} {params marked : List Param} {items : List ParamItem} {mayMark defaults : Bool}

theorem positionalParams_cons (hp : p.kind = .plain) (hle : defaults ≤ p.defaultValue.isSome) :
    positionalParams mayMark defaults (.param p :: items) =
      (positionalParams mayMark p.defaultValue.isSome items).map (p :: ·) := by
  have hflag : (defaults || p.defaultValue.isSome) = p.defaultValue.isSome := sup_eq_right.2 hle
  have hnone : (defaults && p.defaultValue.isNone) = false := by
    cases defaults <;> cases hvalue : p.defaultValue <;> simp_all
  simp only [positionalParams, hp, hnone, hflag, Bool.false_eq_true, if_false]

theorem defaultsOf_cons (hp : p.kind = .plain) (params : List Param) :
    defaultsOf (p :: params) = p.defaultValue.isSome :: defaultsOf params := by
  simp [defaultsOf, hp]

theorem positionalParams_plain (hplain : ∀ p ∈ params, p.kind = .plain)
    (hsorted : (defaults :: defaultsOf params).Pairwise (· ≤ ·)) :
    positionalParams mayMark defaults (params.map .param) = some params := by
  induction params generalizing defaults with
  | nil => rfl
  | cons p params ih =>
    rw [List.forall_mem_cons] at hplain
    rw [defaultsOf_cons hplain.1] at hsorted
    have hle := List.rel_of_pairwise_cons hsorted List.mem_cons_self
    rw [List.map_cons, positionalParams_cons hplain.1 hle, ih hplain.2 hsorted.of_cons]
    rfl

theorem positionalParams_marked (hmarked : ∀ p ∈ marked, p.kind = .plain)
    (hplain : ∀ p ∈ params, p.kind = .plain)
    (hsorted : (defaults :: defaultsOf (marked ++ params)).Pairwise (· ≤ ·)) :
    positionalParams true defaults (marked.map .param ++ ParamItem.slash :: params.map .param) =
      some (marked ++ params) := by
  induction marked generalizing defaults with
  | nil => exact positionalParams_plain hplain hsorted
  | cons p marked ih =>
    rw [List.forall_mem_cons] at hmarked
    rw [List.cons_append, defaultsOf_cons hmarked.1] at hsorted
    have hle := List.rel_of_pairwise_cons hsorted List.mem_cons_self
    rw [List.map_cons, List.cons_append, positionalParams_cons hmarked.1 hle,
      ih hmarked.2 hsorted.of_cons]
    rfl

/-- Parameters without a slash. -/
theorem arrange_plain (hplain : ∀ p ∈ params, p.kind = .plain)
    (hsorted : (defaultsOf params).Pairwise (· ≤ ·)) : arrange (params.map .param) = some params := by
  rw [arrange_of_notMem (by simp)]
  refine positionalParams_plain hplain (List.pairwise_cons.2 ⟨fun b _ => Bool.false_le b, hsorted⟩)

/-- Parameters with a slash. -/
theorem arrange_marked (hne : marked ≠ []) (hmarked : ∀ p ∈ marked, p.kind = .plain)
    (hplain : ∀ p ∈ params, p.kind = .plain)
    (hsorted : (defaultsOf (marked ++ params)).Pairwise (· ≤ ·)) :
    arrange (marked.map .param ++ ParamItem.slash :: params.map .param) =
      some (marked.map (withKind .positional) ++ params) := by
  have hchecked : positionalParams true false
    (marked.map .param ++ ParamItem.slash :: params.map .param) =
      some (marked ++ params) := positionalParams_marked hmarked hplain
    (List.pairwise_cons.2 ⟨fun b _ => Bool.false_le b, hsorted⟩)
  rw [arrange_slash (by simp), hchecked, Option.bind_some, if_neg (by simpa using hne), List.length_map,
    List.take_left, List.drop_left]

end Arranging

/-! ### Signatures -/

/-- The parameters of a function, up to the parenthesis behind them. -/
theorem reads_parameters {ι : Type} {R : ι → ParamItem → Prop} {k : Nested} {P : List Param → Prop}
    (tokens : ι → List Token.Kind) (i : ι) (items : List ι) (hbound : items.length ≤ k.bound)
    (hfirst : ∃ first others, tokens i = first :: others ∧ first ≠ .sign ")")
    (hitem : ∀ j ∈ i :: items, ∀ c ∈ itemEnds, ∀ rest,
      Reads (paramItem k true) (tokens j ++ c :: rest) (c :: rest) (R j))
    (hstar : ∀ j ∈ i :: items, ¬R j .star)
    (harrange : ∀ read, List.Forall₂ R (i :: items) read → ∃ params, arrange read = some params ∧
      P params) :
    Reads (parameters k true ")") (commaKinds ((i :: items).map tokens) ++ .sign ")" :: rest)
      (.sign ")" :: rest) P := by
  have hlist : Reads (commaList k.bound (paramItem k true))
      (commaKinds ((i :: items).map tokens) ++ .sign ")" :: rest) (.sign ")" :: rest)
      fun r => List.Forall₂ R (i :: items) r.1 ∧ r.2 = false :=
    reads_commaList tokens i items hbound (by simp) hitem
  have hopen : Reads (atSign ")") (commaKinds ((i :: items).map tokens) ++ .sign ")" :: rest)
      (commaKinds ((i :: items).map tokens) ++ .sign ")" :: rest) (· = false) := by
    obtain ⟨first, others, htokens, hfirst⟩ := hfirst
    rw [List.map_cons, htokens, commaKinds, List.cons_append, List.cons_append]
    exact reads_atSign_false hfirst
  refine hopen.test_false (hlist.bind fun r hr => ?_)
  obtain ⟨read, comma⟩ := r
  obtain ⟨hread, rfl⟩ : List.Forall₂ R (i :: items) read ∧ comma = false := hr
  obtain ⟨params, harranged, hparams⟩ := harrange read hread
  dsimp only
  split
  · next hlast =>
    obtain ⟨j, hj, hR⟩ := (exists_of_forall₂ hread).2 .star (List.mem_of_getLast? hlast)
    exact absurd hR (hstar j hj)
  · rw [harranged]
    exact .pure hparams

theorem reads_asStatement {node : Reader StmtNode} {first : Token.Kind} {P : StmtNode → Prop}
    (hfirst : isLayout first = false) (h : Reads node (first :: kinds) rest P) :
    Reads (asStatement node) (first :: kinds) rest fun s => P s.node :=
  (reads_located hfirst h).bind fun _ hr => .pure hr

/-- The kinds of the tokens of a function in front of its body. -/
def signatureKinds (id : Token.FreeName) (params returns : List Token.Kind) : List Token.Kind :=
  .keyword "def" :: .name id :: .sign "(" ::
    (params ++ Kind.sign ")" :: Kind.sign "->" :: (returns ++ [Kind.sign ":"]))

/-- A function with a result, of whose parameters, annotation and body something is known. -/
def IsFunction (id : Token.FreeName) (ds : List Decorator) (P : List Param → Prop) (Q : Expr → Prop)
    (R : List Stmt → Prop) (n : StmtNode) : Prop :=
  ∃ params e body, n = .function false id.text params (some e) ds body ∧ P params ∧ Q e ∧ R body

/-- A function in front of its body, and the body. -/
theorem reads_function {k : Nested} {ds : List Decorator} {body : Reader (List Stmt)}
    {P : List Param → Prop} {Q : Expr → Prop} {R : List Stmt → Prop} (id : Token.FreeName)
    {params returns behind : List Token.Kind}
    (hparams : ∀ rest, Reads (parameters k true ")") (params ++ .sign ")" :: rest) (.sign ")" :: rest) P)
    (hreturns : ∀ rest, Reads k.expression (returns ++ .sign ":" :: rest) (.sign ":" :: rest) Q)
    (hbody : Reads body behind rest R) :
    Reads (definition k ds body) (signatureKinds id params returns ++ behind) rest
      fun s => IsFunction id ds P Q R s.node := by
  have hnode : Reads (functionNode k false ds body)
      (.name id :: .sign "(" :: (params ++ .sign ")" :: .sign "->" :: (returns ++ .sign ":" :: behind)))
      rest (IsFunction id ds P Q R) := by
    refine reads_identifier.after (reads_sign.bind fun _ _ => ?_)
    refine (hparams _).bind fun ps hps => reads_sign.bind fun _ _ => ?_
    refine (reads_behind (hreturns behind)).bind fun o ho => ?_
    obtain ⟨e, rfl, he⟩ := ho
    refine (reads_sign.seqRight hbody).bind fun statements hstatements => .pure ?_
    exact ⟨ps, e, statements, rfl, hps, he, hstatements⟩
  simp only [signatureKinds, List.cons_append, List.append_assoc, List.nil_append]
  refine reads_asStatement rfl ?_
  refine (reads_keyword?_false (by simp)).test_false ?_
  refine (reads_keyword?_false (by simp)).test_false ?_
  exact reads_keyword.bind fun _ _ => hnode

/-! ### Their text -/

/-- The text of a function in front of its body. -/
def signatureText (name : String) (parameters : List String) (returns : String) : String :=
  "def " ++ name ++ "(" ++ Code.commaSeparated parameters ++ ") -> " ++ returns ++ ":"

theorem toList_commaSeparated {parameters : List String} (h : ∀ p ∈ parameters, p ≠ "") :
    (Code.commaSeparated parameters).toList = commaText (parameters.map String.toList) := by
  have hfilter : parameters.filter (!·.isEmpty) = parameters := by
    rw [List.filter_eq_self]
    intro p hp
    simpa using h p hp
  rw [Code.commaSeparated, hfilter, String.toList_intercalate]
  clear h hfilter
  induction parameters with
  | nil => rfl
  | cons p parameters ih =>
    cases parameters with
    | nil => simp [commaText]
    | cons q parameters =>
      rw [List.map_cons, List.map_cons, List.intercalate_cons_cons, ← List.map_cons, ih]
      simp [commaText]

/-- The sign of the result, with blanks around it. -/
theorem yields_arrow {brackets : List String} {blocks : List Indent} {cs : List Char}
    (h : Yields (.inLine brackets blocks) cs kinds) :
    Yields (.inLine brackets blocks) (' ' :: '-' :: '>' :: ' ' :: cs) (.sign "->" :: kinds) :=
  (Yields.sign "->" rfl (by decide) (endsSign_of_nil (by decide +kernel) _) rfl h.blank).blank

theorem yields_finalColon {brackets : List String} {blocks : List Indent} {cs : List Char}
    (hcs : Delimited cs) (h : Yields (.inLine brackets blocks) cs kinds) :
    Yields (.inLine brackets blocks) (':' :: cs) (.sign ":" :: kinds) := by
  refine .sign ":" rfl (by decide) (fun d hd => ⟨fun hmem => ?_, by simp⟩) rfl h
  obtain ⟨c, hc, hdelimiter⟩ := hcs
  obtain rfl : c = d := Option.some.inj (hc.symm.trans hd)
  have hnone : (continuations ":".toList).all (!isDelimiter ·) = true := by decide +kernel
  have hnot := List.all_eq_true.1 hnone c hmem
  simp [hdelimiter] at hnot

theorem scans_signature {texts : List Char} {result : List Char} {params returns : List Token.Kind}
    (id : Token.FreeName) (hparams : Scans 1 texts params) (hreturns : Scans 0 result returns) :
    Scans 0 ("def".toList ++ ' ' :: (id.text.toList ++ '(' :: (texts ++ ')' :: ' ' :: '-' :: '>' :: ' ' ::
      (result ++ [':'])))) (signatureKinds id params returns) := by
  intro brackets blocks rest out hbrackets hrest hout
  obtain rfl : brackets = [] := List.eq_nil_of_length_eq_zero (Nat.le_zero.1 hbrackets)
  have hword : IsWord "def".toList (.keyword "def") :=
    ⟨by decide, List.all_eq_true.1 (by decide), 'd', rfl, rfl⟩
  have hcolon := yields_finalColon hrest hout
  have hresult := yields_arrow (hreturns [] blocks _ _ le_rfl (delimited_cons rfl _) hcolon)
  have hitems := hparams [")"] blocks _ _ le_rfl (delimited_cons rfl _) (yields_close hresult)
  have hname := Yields.name id (endsWord_cons (by decide) _) (yields_open (by simp [maxBrackets]) hitems)
  have hline := Yields.keyword hword (endsWord_cons (by decide) _) hname.blank
  simpa [signatureKinds, List.append_assoc] using hline

/-- The line of a definition in front of its body, in its place. -/
structure PlacedHead (text : String) (kinds : List Token.Kind)
    (P : List Decorator → (List Stmt → Prop) → StmtNode → Prop) : Prop where
  plain : IsPlain text.toList
  startsLine : StartsLine text.toList
  first : ∃ first others, kinds = first :: others ∧ (first = .keyword "def" ∨ first = .keyword "class")
  scans : Scans 0 text.toList kinds
  reads : ∀ k, IsAmple text.toList.length k → ∀ ds body behind rest R, Reads body behind rest R →
    Reads (definition k ds body) (kinds ++ behind) rest fun s => P ds R s.node

/-- The text of items with commas between them, where each of them is placed. -/
structure ListText {ι : Type} (room : Nat) (text : ι → String) (tokens : ι → List Token.Kind)
    (items : List ι) : Prop where
  plain : IsPlain (Code.commaSeparated (items.map text)).toList
  scans : Scans room (Code.commaSeparated (items.map text)).toList (commaKinds (items.map tokens))
  count : items.length ≤ (Code.commaSeparated (items.map text)).toList.length
  length : ∀ j ∈ items, (text j).toList.length ≤ (Code.commaSeparated (items.map text)).toList.length

theorem listText_of_placed {ι α : Type} {r : Nested → Reader α} {R : ι → α → Prop} {text : ι → String}
    {tokens : ι → List Token.Kind} {items : List ι}
    (h : ∀ j ∈ items, Placed room r itemEnds (text j).toList (tokens j) (R j)) :
    ListText room text tokens items := by
  have hne : ∀ p ∈ items.map text, p ≠ "" := by
    intro p hp
    obtain ⟨j, hj, rfl⟩ := List.mem_map.1 hp
    simpa using (h j hj).nonempty
  have htexts : (Code.commaSeparated (items.map text)).toList =
      commaText (items.map fun j => (text j).toList) := by
    rw [toList_commaSeparated hne, List.map_map]
    rfl
  obtain ⟨hcount, hlength⟩ := length_le_commaText (items.map fun j => (text j).toList) fun t ht => by
    obtain ⟨j, hj, rfl⟩ := List.mem_map.1 ht
    exact (h j hj).nonempty
  rw [← htexts] at hcount hlength
  refine ⟨?_, ?_, by simpa using hcount, fun j hj => hlength _ (List.mem_map_of_mem hj)⟩
  · rw [htexts]
    refine isPlain_commaText fun t ht => ?_
    obtain ⟨j, hj, rfl⟩ := List.mem_map.1 ht
    exact (h j hj).plain
  · rw [htexts]
    exact scans_commaText _ tokens fun j hj => (h j hj).scans

/-- **A signature of placed parameters and a placed result is placed.** -/
theorem placed_signature {ι : Type} {R : ι → ParamItem → Prop} {P : List Param → Prop} {Q : Expr → Prop}
    (id : Token.FreeName) (text : ι → String) (tokens : ι → List Token.Kind) {returns : String}
    {returnKinds : List Token.Kind} (i : ι) (items : List ι)
    (hitems : ∀ j ∈ i :: items, Placed 1 (paramItem · true) itemEnds (text j).toList (tokens j) (R j))
    (hfirst : ∃ first others, tokens i = first :: others ∧ first ≠ .sign ")")
    (hstar : ∀ j ∈ i :: items, ¬R j .star)
    (harrange : ∀ read, List.Forall₂ R (i :: items) read → ∃ params, arrange read = some params ∧
      P params)
    (hreturns : Placed 0 (·.expression) expressionEnds returns.toList returnKinds Q) :
    PlacedHead (signatureText id.text ((i :: items).map text) returns)
      (signatureKinds id (commaKinds ((i :: items).map tokens)) returnKinds)
      fun ds R => IsFunction id ds P Q R := by
  have hlist := listText_of_placed hitems
  have htext : (signatureText id.text ((i :: items).map text) returns).toList =
      "def".toList ++ ' ' :: (id.text.toList ++ '(' ::
        ((Code.commaSeparated ((i :: items).map text)).toList ++ ')' :: ' ' :: '-' :: '>' :: ' ' ::
          (returns.toList ++ [':']))) := by
    simp [signatureText]
  refine ⟨?_, ⟨'d', by rw [htext]; rfl, rfl⟩, ⟨_, _, rfl, .inl rfl⟩, ?_,
    fun k hk ds body behind rest R hbody => ?_⟩
  · rw [htext]
    refine (isPlain_of_all (by decide) : IsPlain "def".toList).append (.cons (by decide) ?_)
    refine (isPlain_name id).append (.cons (by decide) (hlist.plain.append ?_))
    refine .cons (by decide) (.cons (by decide)
      (.cons (by decide) (.cons (by decide) (.cons (by decide) ?_))))
    exact hreturns.plain.append (isPlain_nil.cons (by decide))
  · rw [htext]
    exact scans_signature id hlist.scans hreturns.scans
  · have hsize :
        (Code.commaSeparated ((i :: items).map text)).toList.length + returns.toList.length + 2 ≤
        (signatureText id.text ((i :: items).map text) returns).toList.length := by
      rw [htext]
      simp only [List.length_append, List.length_cons]
      omega
    refine reads_function id (fun rest => reads_parameters tokens i items ?_ hfirst
      (fun j hj c hc rest => ?_)
      hstar harrange) (fun rest => ?_) hbody
    · have hcount := hlist.count
      have hbound := hk.1
      rw [List.length_cons] at hcount
      omega
    · refine (hitems j hj).reads k (hk.mono ?_) c hc rest
      have := hlist.length j hj
      omega
    · refine hreturns.reads k (hk.mono ?_) _ (by decide) rest
      omega

end Grammar

end ServiceStubs
