import Mathlib
import ServiceStubs.Proofs.Except
import ServiceStubs.Proofs.Grammar.Reading
import ServiceStubs.Proofs.Token.Scanning

/-!
# Texts in their places

Generated code is put together from texts that come from somewhere else: annotations, defaults,
decorators. Where such a text is placed, it is cut into the same tokens, and a reader takes them up
to the sign behind them. Lists, groups and dotted names of such texts are such texts again.

A reader goes no deeper than its text is long, so what it needs to be given is bounded by the text
alone.

## Main definitions

* `Grammar.IsAmple`: readers for texts of a given length
* `Grammar.Placed`: a text, its tokens and what a reader makes of them

## Main statements

* `Grammar.placed_name`, `Grammar.placed_member`, `Grammar.placed_group`: names and types
* `Grammar.reads_commaList`: lists
-/

namespace ServiceStubs

namespace Grammar

open ServiceStubs.Tree Reader Token

variable {kinds kinds' rest : List Token.Kind} {room : Nat}

/-! ### Scanning -/

/-- The characters behind a placed text. -/
def isDelimiter (c : Char) : Bool := [' ', ',', ')', ']', ':', '\n'].contains c

/-- One of those characters is next. -/
def Delimited (cs : List Char) : Prop := ∃ c ∈ cs.head?, isDelimiter c = true

theorem delimited_cons {c : Char} (h : isDelimiter c = true) (cs : List Char) : Delimited (c :: cs) :=
  ⟨c, rfl, h⟩

theorem Delimited.endsWord {cs : List Char} (h : Delimited cs) : EndsWord cs := by
  obtain ⟨c, hc, hdelimiter⟩ := h
  obtain ⟨tail, rfl⟩ : ∃ t, cs = c :: t := ⟨_, List.eq_cons_of_mem_head? hc⟩
  refine endsWord_cons ?_ tail
  simp only [isDelimiter, List.contains_eq_mem, List.mem_cons, List.not_mem_nil, or_false,
    decide_eq_true_eq] at hdelimiter
  rcases hdelimiter with rfl | rfl | rfl | rfl | rfl | rfl <;> rfl

/-- Inside at most `room` brackets, the text in front of a delimiter is cut into tokens of these
kinds. -/
def Scans (room : Nat) (text : List Char) (kinds : List Token.Kind) : Prop :=
  ∀ brackets blocks rest out, brackets.length ≤ room → Delimited rest →
    Yields (.inLine brackets blocks) rest out →
    Yields (.inLine brackets blocks) (text ++ rest) (kinds ++ out)

theorem Scans.mono {room' : Nat} {text : List Char} (h : Scans room text kinds) (hroom : room' ≤ room) :
    Scans room' text kinds :=
  fun brackets blocks rest out hbrackets => h brackets blocks rest out (hbrackets.trans hroom)

theorem scans_name (id : Token.FreeName) : Scans room id.text.toList [.name id] :=
  fun _ _ _ _ _ hrest hout => .name id hrest.endsWord hout

/-! ### Signs -/

section Signs

variable {brackets : List String} {blocks : List Indent} {cs : List Char}

theorem yields_comma (h : Yields (.inLine brackets blocks) cs kinds) :
    Yields (.inLine brackets blocks) (',' :: ' ' :: cs) (.sign "," :: kinds) :=
  .sign "," rfl (by decide) (endsSign_of_nil (by decide +kernel) _) rfl h.blank

/-- A colon in front of an annotation. -/
theorem yields_colon (h : Yields (.inLine brackets blocks) cs kinds) :
    Yields (.inLine brackets blocks) (':' :: ' ' :: cs) (.sign ":" :: kinds) := by
  refine .sign ":" rfl (by decide) ?_ rfl h.blank
  rintro c ⟨⟩
  decide +kernel

/-- An equality sign in front of a default. -/
theorem yields_equals (h : Yields (.inLine brackets blocks) cs kinds) :
    Yields (.inLine brackets blocks) (' ' :: '=' :: ' ' :: cs) (.sign "=" :: kinds) := by
  refine Yields.blank (.sign "=" rfl (by decide) ?_ rfl h.blank)
  rintro c ⟨⟩
  decide +kernel

/-- A dot in front of a name. -/
theorem yields_dot (id : Token.FreeName)
    (h : Yields (.inLine brackets blocks) (id.text.toList ++ cs) kinds) :
    Yields (.inLine brackets blocks) ('.' :: (id.text.toList ++ cs)) (.sign "." :: kinds) := by
  refine .sign "." rfl (by decide) (fun c hc => ?_) rfl h
  obtain ⟨d, hd, hdigit⟩ := (isWord_name id).start
  obtain ⟨tail, htext⟩ : ∃ t, id.text.toList = d :: t := ⟨_, List.eq_cons_of_mem_head? hd⟩
  have hname := (isWord_name id).nameChars d (List.mem_of_mem_head? hd)
  have hhead : (id.text.toList ++ cs).head? = some d := by rw [htext]; rfl
  obtain rfl : d = c := Option.some.inj (hhead.symm.trans hc)
  refine ⟨fun hdot => ?_, fun _ => hdigit⟩
  -- only another dot goes on with the sign
  have hdots : continuations ".".toList = ['.'] := by decide +kernel
  rw [hdots, List.mem_singleton] at hdot
  subst hdot
  cases hname

theorem yields_open (hroom : brackets.length < maxBrackets)
    (h : Yields (.inLine (")" :: brackets) blocks) cs kinds) :
    Yields (.inLine brackets blocks) ('(' :: cs) (.sign "(" :: kinds) :=
  .sign "(" rfl (by decide) (endsSign_of_nil (by decide +kernel) _)
    (by simp [changeBrackets, closerOf, hroom]) h

theorem yields_close (h : Yields (.inLine brackets blocks) cs kinds) :
    Yields (.inLine (")" :: brackets) blocks) (')' :: cs) (.sign ")" :: kinds) :=
  .sign ")" rfl (by decide) (endsSign_of_nil (by decide +kernel) _) rfl h

theorem yields_openSquare (hroom : brackets.length < maxBrackets)
    (h : Yields (.inLine ("]" :: brackets) blocks) cs kinds) :
    Yields (.inLine brackets blocks) ('[' :: cs) (.sign "[" :: kinds) :=
  .sign "[" rfl (by decide) (endsSign_of_nil (by decide +kernel) _)
    (by simp [changeBrackets, closerOf, hroom]) h

theorem yields_closeSquare (h : Yields (.inLine brackets blocks) cs kinds) :
    Yields (.inLine ("]" :: brackets) blocks) (']' :: cs) (.sign "]" :: kinds) :=
  .sign "]" rfl (by decide) (endsSign_of_nil (by decide +kernel) _) rfl h

end Signs

theorem scans_parenthesized {text : List Char} (hroom : room < maxBrackets)
    (h : Scans (room + 1) text kinds) :
    Scans room ('(' :: (text ++ [')'])) (.sign "(" :: (kinds ++ [Kind.sign ")"])) := by
  intro brackets blocks rest out hbrackets _ hout
  have hinside := h (")" :: brackets) blocks (')' :: rest) _ (by simpa using hbrackets)
    (delimited_cons rfl _) (yields_close hout)
  have hopen := yields_open (hbrackets.trans_lt hroom) hinside
  simpa [List.append_assoc] using hopen

theorem scans_bracketed {text : List Char} (hroom : room < maxBrackets)
    (h : Scans (room + 1) text kinds) :
    Scans room ('[' :: (text ++ [']'])) (.sign "[" :: (kinds ++ [Kind.sign "]"])) := by
  intro brackets blocks rest out hbrackets _ hout
  have hinside := h ("]" :: brackets) blocks (']' :: rest) _ (by simpa using hbrackets)
    (delimited_cons rfl _) (yields_closeSquare hout)
  have hopen := yields_openSquare (hbrackets.trans_lt hroom) hinside
  simpa [List.append_assoc] using hopen

/-! ### Readers of a given depth -/

/-- The readers go deep enough for texts of that length. -/
def IsAmple (size : Nat) (k : Nested) : Prop :=
  size ≤ k.bound ∧ ∃ depth, size ≤ depth ∧ k = .ofDepth k.bound depth

theorem bound_ofDepth (bound depth : Nat) : (Nested.ofDepth bound depth).bound = bound := by
  induction depth with
  | zero => rfl
  | succ depth ih => exact ih

theorem IsAmple.mono {size size' : Nat} {k : Nested} (h : IsAmple size k) (hsize : size' ≤ size) :
    IsAmple size' k := by
  obtain ⟨hbound, depth, hdepth, hk⟩ := h
  exact ⟨hsize.trans hbound, depth, hsize.trans hdepth, hk⟩

/-- The readers of the expressions inside. -/
theorem IsAmple.exists_deeper {size : Nat} {k : Nested} (h : IsAmple (size + 1) k) :
    ∃ k' : Nested, k = k'.deeper ∧ IsAmple size k' := by
  obtain ⟨hbound, depth, hdepth, hk⟩ := h
  obtain ⟨depth, rfl⟩ : ∃ n, depth = n + 1 := ⟨depth - 1, by omega⟩
  refine ⟨.ofDepth k.bound depth, hk, ?_, depth, by omega, ?_⟩
  · rw [bound_ofDepth]
    omega
  · rw [bound_ofDepth]

/-! ### Placed texts -/

/-- The text can stand in a source. -/
def IsPlain (text : List Char) : Prop := ∀ c ∈ text, c ≠ '\r' ∧ c ≠ '\x00'

theorem IsPlain.append {text text' : List Char} (h : IsPlain text) (h' : IsPlain text') :
    IsPlain (text ++ text') := fun c hc => (List.mem_append.1 hc).elim (h c) (h' c)

theorem IsPlain.cons {c : Char} {text : List Char} (hc : c ≠ '\r' ∧ c ≠ '\x00') (h : IsPlain text) :
    IsPlain (c :: text) := List.forall_mem_cons.2 ⟨hc, h⟩

theorem isPlain_of_all {text : List Char} (h : (text.all fun c => c != '\r' && c != '\x00') = true) :
    IsPlain text := fun c hc => by simpa using List.all_eq_true.1 h c hc

theorem isPlain_nil : IsPlain [] := by simp [IsPlain]

theorem isPlain_name (id : Token.FreeName) : IsPlain id.text.toList := by
  intro c hc
  have hname := (isWord_name id).nameChars c hc
  constructor <;> rintro rfl <;> cases hname

/-- Inside at most `room` brackets and in front of one of the tokens `ends`, the text is cut into
tokens of these kinds, and the reader takes them and yields what has the property. -/
structure Placed {α : Type} (room : Nat) (r : Nested → Reader α) (ends : List Token.Kind)
    (text : List Char) (kinds : List Token.Kind) (P : α → Prop) : Prop where
  plain : IsPlain text
  nonempty : text ≠ []
  scans : Scans room text kinds
  reads : ∀ k, IsAmple (text.length + 1) k → ∀ c ∈ ends, ∀ rest,
    Reads (r k) (kinds ++ c :: rest) (c :: rest) P

theorem Placed.mono {α : Type} {r : Nested → Reader α} {ends : List Token.Kind} {text : List Char}
    {P Q : α → Prop} (h : Placed room r ends text kinds P) (hPQ : ∀ a, P a → Q a) :
    Placed room r ends text kinds Q :=
  ⟨h.plain, h.nonempty, h.scans, fun k hk c hc rest => (h.reads k hk c hc rest).mono hPQ⟩

/-- What stands behind an expression. -/
def expressionEnds : List Token.Kind := [",", ")", "]", ":", "="].map .sign

/-- What stands behind an item of a list in parentheses. -/
def itemEnds : List Token.Kind := [",", ")"].map .sign

/-- What stands behind an index. -/
def indexEnds : List Token.Kind := [",", "]"].map .sign

theorem isCloser_of_mem_expressionEnds {c : Token.Kind} (h : c ∈ expressionEnds) :
    isCloser c = true := by
  have hall : expressionEnds.all isCloser = true := by decide
  exact List.all_eq_true.1 hall c h

/-- A primary expression that is placed. -/
theorem placed_of_primary {ends : List Token.Kind} {text : List Char} {first : Token.Kind}
    {P : Expr → Prop} (hends : ∀ c ∈ ends, isCloser c = true) (hplain : IsPlain text)
    (hnonempty : text ≠ []) (hscans : Scans room text (first :: kinds))
    (hfirst : startsPrimary first = true)
    (h : ∀ k, IsAmple text.length k → ∀ c, isCloser c = true → ∀ rest,
      Reads (primary k) (first :: (kinds ++ c :: rest)) (c :: rest) P) :
    Placed room (·.expression) ends text (first :: kinds) P := by
  refine ⟨hplain, hnonempty, hscans, fun k hk c hc rest => ?_⟩
  obtain ⟨k', rfl, hk'⟩ := hk.exists_deeper
  exact reads_expression hfirst (hends c hc) (h k' hk' c (hends c hc) rest)

/-! ### Names and types -/

/-- A name and the names behind its dots. -/
def dottedText (id : Token.FreeName) (path : List Token.FreeName) : List Char :=
  id.text.toList ++ path.flatMap fun m => '.' :: m.text.toList

/-- The kinds of the tokens of a dotted name. -/
def dottedKinds (id : Token.FreeName) (path : List Token.FreeName) : List Token.Kind :=
  .name id :: path.flatMap fun m : Token.FreeName => [.sign ".", .name m]

/-- The expression that a dotted name is. -/
def dotted (id : Token.FreeName) (path : List Token.FreeName) : Expr :=
  path.foldl (fun e m => .attribute e m.text) (.name id.text)

theorem yields_members {brackets : List String} {blocks : List Indent} {cs : List Char}
    (path : List Token.FreeName) (hends : EndsWord cs) (h : Yields (.inLine brackets blocks) cs kinds) :
    EndsWord ((path.flatMap fun m => '.' :: m.text.toList) ++ cs) ∧
      Yields (.inLine brackets blocks) ((path.flatMap fun m => '.' :: m.text.toList) ++ cs)
        ((path.flatMap fun m : Token.FreeName => [Kind.sign ".", Kind.name m]) ++ kinds) := by
  induction path with
  | nil => exact ⟨hends, h⟩
  | cons m path ih =>
    rw [List.flatMap_cons, List.flatMap_cons, List.append_assoc, List.append_assoc]
    exact ⟨endsWord_cons (by decide) _, yields_dot m (.name m ih.1 ih.2)⟩

theorem yields_dotted {brackets : List String} {blocks : List Indent} {cs : List Char}
    (id : Token.FreeName) (path : List Token.FreeName) (hends : EndsWord cs)
    (h : Yields (.inLine brackets blocks) cs kinds) :
    Yields (.inLine brackets blocks) (dottedText id path ++ cs) (dottedKinds id path ++ kinds) := by
  have hmembers := yields_members path hends h
  rw [dottedText, List.append_assoc]
  exact .name id hmembers.1 hmembers.2

theorem isPlain_dottedText (id : Token.FreeName) (path : List Token.FreeName) :
    IsPlain (dottedText id path) := by
  refine (isPlain_name id).append fun c hc => ?_
  obtain ⟨m, -, hc⟩ := List.mem_flatMap.1 hc
  exact (isPlain_name m).cons (by decide) c hc

theorem dottedText_ne_nil (id : Token.FreeName) (path : List Token.FreeName) :
    dottedText id path ≠ [] := by
  obtain ⟨c, hc, -⟩ := (isWord_name id).start
  obtain ⟨tail, htext⟩ : ∃ t, id.text.toList = c :: t := ⟨_, List.eq_cons_of_mem_head? hc⟩
  simp [dottedText, htext]

theorem length_le_dottedText (id : Token.FreeName) (path : List Token.FreeName) :
    path.length ≤ (dottedText id path).length := by
  rw [dottedText, List.length_append, List.length_flatMap]
  refine Nat.le_add_left_of_le ?_
  induction path with
  | nil => simp
  | cons m path ih =>
    simp only [List.map_cons, List.sum_cons, List.length_cons] at ih ⊢
    omega

/-- A closer follows no atom. -/
theorem reads_trailer_none {k : Nested} {c : Token.Kind} (hc : isCloser c = true) :
    Reads (trailer k) (c :: rest) (c :: rest) (· = none) := by
  unfold trailer
  refine (reads_sign?_false (ne_sign_of_isCloser hc rfl)).test_false ?_
  refine (reads_sign?_false (ne_sign_of_isCloser hc rfl)).test_false ?_
  exact (reads_sign?_false (ne_sign_of_isCloser hc rfl)).test_false (.pure rfl)

/-- An atom and what follows it. -/
theorem reads_primary {k : Nested} {start : List Token.Kind} {e : Expr} {c : Token.Kind}
    (items : List (List Token.Kind × (Trailer → Prop))) (hbound : items.length ≤ k.bound)
    (hc : isCloser c = true)
    (hatom : ∀ rest, Reads (atom k) (start ++ rest) rest (· = e))
    (hitems : ∀ i ∈ items, ∀ rest, Reads (trailer k) (i.1 ++ rest) rest fun o => ∃ t, o = some t ∧
      i.2 t) :
    Reads (primary k) (start ++ (items.flatMap (·.1) ++ c :: rest)) (c :: rest)
      fun e' => ∃ ts, List.Forall₂ (fun i t => i.2 t) items ts ∧ e' = ts.foldl Trailer.apply e := by
  have htrailers : Reads (repeated k.bound (trailer k)) (items.flatMap (·.1) ++ c :: rest)
    (c :: rest) _ :=
    reads_repeated (·.1) hbound (R := fun i t => i.2 t)
      (fun i others hsuffix => hitems i (hsuffix.subset List.mem_cons_self) _) (reads_trailer_none hc)
  exact (hatom _).after (htrailers.bind fun ts hts => .pure ⟨ts, hts, rfl⟩)

theorem reads_atom_name {k : Nested} (id : Token.Name) (rest : List Token.Kind) :
    Reads (atom k) ([Kind.name id] ++ rest) rest (· = .name id.text) :=
  reads_peek.after (reads_next.bind fun _ _ => .pure rfl)

theorem reads_member {k : Nested} (m : Token.Name) :
    Reads (trailer k) (.sign "." :: .name m :: rest) rest
      fun o => ∃ t, o = some t ∧ t = .member m.text := by
  refine reads_sign?_true.test_true (reads_name.bind fun id hid => .pure ⟨_, rfl, by rw [hid]⟩)

/-- A dotted name and what follows it. -/
theorem reads_dottedPrimary {k : Nested} (id : Token.FreeName) (path : List Token.FreeName)
    (items : List (List Token.Kind × (Trailer → Prop))) (hbound : path.length + items.length ≤ k.bound)
    {c : Token.Kind} (hc : isCloser c = true)
    (hitems : ∀ i ∈ items, ∀ rest, Reads (trailer k) (i.1 ++ rest) rest fun o => ∃ t, o = some t ∧ i.2 t)
    (rest : List Token.Kind) :
    Reads (primary k) (dottedKinds id path ++ (items.flatMap (·.1) ++ c :: rest)) (c :: rest)
      fun e => ∃ ts, List.Forall₂ (fun i t => i.2 t) items ts ∧
        e = ts.foldl Trailer.apply (dotted id path) := by
  have hprimary : Reads (primary k) ([Kind.name id] ++ _) (c :: rest) _ :=
    reads_primary ((path.map fun m : Token.FreeName => ([Kind.sign ".", Kind.name m],
      (· = Trailer.member m.text))) ++ items)
      (by simpa using hbound) hc (reads_atom_name id) fun i hi rest => by
        rcases List.mem_append.1 hi with hi | hi
        · obtain ⟨m, -, rfl⟩ := List.mem_map.1 hi
          exact reads_member m
        · exact hitems i hi rest
  simp only [List.flatMap_append, List.flatMap_map, List.append_assoc] at hprimary
  have hkinds : dottedKinds id path ++ (items.flatMap (·.1) ++ c :: rest) =
      [Kind.name id] ++ ((path.flatMap fun m : Token.FreeName => [Kind.sign ".", Kind.name m]) ++
        (items.flatMap (·.1) ++ c :: rest)) := rfl
  rw [hkinds]
  refine hprimary.mono fun e he => ?_
  obtain ⟨ts, hts, rfl⟩ := he
  obtain ⟨members, others, hmembers, hothers, rfl⟩ := exists_append_of_forall₂ hts
  refine ⟨others, hothers, ?_⟩
  have hnames := eq_map_of_forall₂ (List.forall₂_map_left_iff.1 hmembers)
  rw [hnames, List.foldl_append, List.foldl_map]
  rfl

/-- A dotted name in front of a closer is an expression. -/
theorem reads_dotted {k : Nested} (id : Token.FreeName) (path : List Token.FreeName)
    (hbound : path.length ≤ k.bound)
    {c : Token.Kind} (hc : isCloser c = true) (rest : List Token.Kind) :
    Reads (expression k) (dottedKinds id path ++ c :: rest) (c :: rest) (· = dotted id path) := by
  refine reads_expression rfl hc
    ((reads_dottedPrimary id path [] hbound hc (by simp) rest).mono fun e he => ?_)
  obtain ⟨ts, hts, rfl⟩ := he
  rw [List.forall₂_nil_left_iff.1 hts]
  rfl

/-- A dotted name is an expression in front of any closer. -/
theorem placed_dottedName {ends : List Token.Kind} (hends : ∀ c ∈ ends, isCloser c = true)
    (id : Token.FreeName)
    (path : List Token.FreeName) :
    Placed room (·.expression) ends (dottedText id path) (dottedKinds id path) (· = dotted id path) := by
  refine ⟨isPlain_dottedText id path, dottedText_ne_nil id path,
    fun _ _ _ _ _ hrest hout => yields_dotted id path hrest.endsWord hout, fun k hk c hc rest => ?_⟩
  obtain ⟨k', rfl, hk'⟩ := hk.exists_deeper
  exact reads_dotted id path ((length_le_dottedText id path).trans hk'.1) (hends c hc) rest

/-- A dotted name is an expression. -/
theorem placed_dotted (id : Token.FreeName) (path : List Token.FreeName) :
    Placed room (·.expression) expressionEnds (dottedText id path) (dottedKinds id path)
      (· = dotted id path) := placed_dottedName (fun _ => isCloser_of_mem_expressionEnds) id path

/-- A dotted name with a bracket behind it and what stands there is an expression. -/
theorem placed_trailed {ends : List Token.Kind} (hends : ∀ c ∈ ends, isCloser c = true)
    (id : Token.FreeName)
    (path : List Token.FreeName) {opener : Char} {behind : List Char} {T : Trailer → Prop}
    (hopener : (isNameChar opener || opener == '"' || opener == '\'') = false)
    (hplain : IsPlain (opener :: behind)) (hscans : Scans room (opener :: behind) kinds)
    (htrailer : ∀ k, IsAmple (opener :: behind).length k → ∀ rest,
      Reads (trailer k) (kinds ++ rest) rest fun o => ∃ t, o = some t ∧ T t) :
    Placed room (·.expression) ends (dottedText id path ++ opener :: behind)
    (dottedKinds id path ++ kinds)
      fun e => ∃ t, T t ∧ e = t.apply (dotted id path) := by
  have hkinds : dottedKinds id path ++ kinds =
      .name id :: ((path.flatMap fun m : Token.FreeName => [Kind.sign ".", Kind.name m]) ++ kinds) := rfl
  rw [hkinds]
  refine placed_of_primary hends ((isPlain_dottedText id path).append hplain) (by simp)
    (fun brackets blocks rest out hbrackets hrest hout => ?_) rfl fun k hk c hc rest => ?_
  · have hbehind := hscans brackets blocks rest out hbrackets hrest hout
    have hname := yields_dotted id path (endsWord_cons hopener _) hbehind
    simpa [dottedKinds, List.append_assoc] using hname
  · have hpath := length_le_dottedText id path
    have hsize : path.length + 1 ≤ (dottedText id path ++ opener :: behind).length := by
      rw [List.length_append, List.length_cons]
      omega
    have hprimary : Reads (primary k) (dottedKinds id path ++ ([(kinds, T)].flatMap (·.1) ++ c :: rest))
        (c :: rest) _ :=
      reads_dottedPrimary id path [(kinds, T)] (hsize.trans hk.1) hc
        (by simpa using htrailer k (hk.mono (by simp))) rest
    rw [List.flatMap_singleton, ← List.append_assoc] at hprimary
    refine hprimary.mono fun e he => ?_
    obtain ⟨ts, hts, rfl⟩ := he
    obtain ⟨t, others, ht, hothers, rfl⟩ := List.forall₂_cons_left_iff.1 hts
    obtain rfl := List.forall₂_nil_left_iff.1 hothers
    exact ⟨t, ht, rfl⟩

/-! ### Lists -/

/-- The texts with commas between them. -/
def commaText : List (List Char) → List Char
  | [] => []
  | [text] => text
  | text :: others => text ++ ',' :: ' ' :: commaText others

/-- The kinds of the items with commas between them. -/
def commaKinds : List (List Token.Kind) → List Token.Kind
  | [] => []
  | kinds :: others => kinds ++ others.flatMap (.sign "," :: ·)

theorem scans_commaText {ι : Type} (text : ι → List Char) (tokens : ι → List Token.Kind) {items : List ι}
    (h : ∀ i ∈ items, Scans room (text i) (tokens i)) :
    Scans room (commaText (items.map text)) (commaKinds (items.map tokens)) := by
  intro brackets blocks rest out hroom hrest hout
  cases items with
  | nil => exact hout
  | cons i items =>
    induction items generalizing i with
    | nil =>
      simp only [List.map_cons, List.map_nil, commaText, commaKinds, List.flatMap_nil, List.append_nil]
      exact h i List.mem_cons_self brackets blocks rest out hroom hrest hout
    | cons j items ih =>
      have hothers := ih j fun i' hi' => h i' (List.mem_cons_of_mem i hi')
      simp only [List.map_cons, commaText, commaKinds, List.flatMap_cons, List.append_assoc,
        List.cons_append] at hothers ⊢
      exact h i List.mem_cons_self _ _ _ _ hroom (delimited_cons rfl _) (yields_comma hothers)

theorem isPlain_commaText {texts : List (List Char)} (h : ∀ t ∈ texts, IsPlain t) :
    IsPlain (commaText texts) := by
  induction texts with
  | nil => exact isPlain_nil
  | cons text texts ih =>
    rw [List.forall_mem_cons] at h
    cases texts with
    | nil => exact h.1
    | cons second texts =>
      exact h.1.append ((ih h.2).cons (by decide) |>.cons (by decide))

theorem length_le_commaText (texts : List (List Char)) (h : ∀ t ∈ texts, t ≠ []) :
    texts.length ≤ (commaText texts).length ∧ ∀ t ∈ texts, t.length ≤ (commaText texts).length := by
  induction texts with
  | nil => simp
  | cons text texts ih =>
    rw [List.forall_mem_cons] at h
    have hpos : 0 < text.length := List.length_pos_iff.2 h.1
    cases texts with
    | nil => simpa [commaText, Nat.one_le_iff_ne_zero, Nat.pos_iff_ne_zero] using hpos
    | cons second texts =>
      obtain ⟨hlength, hmem⟩ := ih h.2
      rw [commaText]
      · simp only [List.length_append, List.length_cons] at hlength ⊢
        refine ⟨by omega, fun t ht => ?_⟩
        rcases List.mem_cons.1 ht with rfl | ht
        · omega
        · have := hmem t ht
          omega
      · simp

/-- What stands behind an item: a comma or the sign that closes the list. -/
theorem exists_behind {ι : Type} (tokens : ι → List Token.Kind) (others : List ι) (c : Token.Kind)
    (rest : List Token.Kind) : ∃ d rest', d ∈ [.sign ",", c] ∧
      (others.flatMap fun j => .sign "," :: tokens j) ++ c :: rest = d :: rest' := by
  cases others with
  | nil => exact ⟨c, rest, by simp, rfl⟩
  | cons j others => exact ⟨.sign ",", _, by simp, rfl⟩

/-- Items behind a comma each, up to the sign that closes the list. -/
theorem reads_commaTail {ι α : Type} {R : ι → α → Prop} {item : Reader α} {bound : Nat} {c : Token.Kind}
    (tokens : ι → List Token.Kind) (items : List ι) (hbound : items.length ≤ bound) (hc : c ≠ .sign ",")
    (hitem : ∀ j ∈ items, ∀ d ∈ [.sign ",", c], ∀ rest,
      Reads item (tokens j ++ d :: rest) (d :: rest) (R j)) :
    Reads (commaTail bound item) ((items.flatMap fun j => .sign "," :: tokens j) ++ c :: rest)
    (c :: rest)
      fun r => List.Forall₂ R items r.1 ∧ r.2 = false := by
  refine (reads_repeated (fun j => .sign "," :: tokens j) hbound (R := R) (fun j others hsuffix => ?_)
    ?_).bind fun as has => (reads_sign?_false hc).after (.pure ⟨has, rfl⟩)
  · obtain ⟨d, rest', hd, hrest'⟩ := exists_behind tokens others c rest
    have hnext := hitem j (hsuffix.subset List.mem_cons_self) d hd rest'
    rw [← hrest'] at hnext
    exact reads_atSign_true.test_true (Reads.optional (reads_sign.seqRight hnext))
  · exact (reads_atSign_false hc).test_false (.pure rfl)

/-- Items with commas between them, up to the sign that closes the list. -/
theorem reads_commaList {ι α : Type} {R : ι → α → Prop} {item : Reader α} {bound : Nat} {c : Token.Kind}
    (tokens : ι → List Token.Kind) (i : ι) (items : List ι) (hbound : items.length ≤ bound)
    (hc : c ≠ .sign ",")
    (hitem : ∀ j ∈ i :: items, ∀ d ∈ [.sign ",", c], ∀ rest,
      Reads item (tokens j ++ d :: rest) (d :: rest) (R j)) :
    Reads (commaList bound item) (commaKinds ((i :: items).map tokens) ++ c :: rest) (c :: rest)
      fun r => List.Forall₂ R (i :: items) r.1 ∧ r.2 = false := by
  rw [List.map_cons, commaKinds, List.flatMap_map, List.append_assoc]
  obtain ⟨d, rest', hd, hrest'⟩ := exists_behind tokens items c rest
  have hfirst := hitem i List.mem_cons_self d hd rest'
  rw [← hrest'] at hfirst
  refine hfirst.bind fun a ha => ?_
  refine (reads_commaTail tokens items hbound hc fun j hj => hitem j (List.mem_cons_of_mem i hj)).bind
    fun r hr => .pure ⟨.cons ha hr.1, hr.2⟩

/-! ### Indices -/

/-- In front of tokens of these kinds the reader fails. -/
def Fails {α : Type} (r : Reader α) (kinds : List Token.Kind) : Prop :=
  ∀ ts line, ts.map (·.kind) = kinds → ∃ p, r.run ⟨ts, line⟩ = .error p

section Fails

variable {α β : Type} {r : Reader α} {f : α → Reader β} {P : α → Prop}

theorem Fails.bind (h : Fails r kinds) : Fails (r >>= f) kinds := by
  intro ts line hts
  obtain ⟨p, hp⟩ := h ts line hts
  exact ⟨p, by rw [Reader.run_bind, hp]⟩

theorem Reads.bind_fails {mid : List Token.Kind} (hr : Reads r kinds mid P)
    (hf : ∀ a, P a → Fails (f a) mid) : Fails (r >>= f) kinds := by
  intro ts line hts
  obtain ⟨a, ts', line', hr, hmid, ha⟩ := hr ts line hts
  obtain ⟨p, hp⟩ := hf a ha ts' line' hmid
  refine ⟨p, ?_⟩
  rw [Reader.run_bind, hr]
  exact hp

theorem Reads.test_fails {t : Reader Bool} {yes no : Reader β} {mid : List Token.Kind}
    (ht : Reads t kinds mid (· = false)) (h : Fails no mid) :
    Fails (t >>= fun b => if b then yes else no) kinds :=
  ht.bind_fails fun b hb => by
    subst hb
    exact h

theorem exists_tokens (kinds : List Token.Kind) : ∃ ts : List Token, ts.map (·.kind) = kinds :=
  ⟨kinds.map fun k => ⟨k, default⟩, by simp [Function.comp_def]⟩

theorem Reads.not_fails (h : Reads r kinds rest P) : ¬Fails r kinds := by
  intro hfails
  obtain ⟨ts, hts⟩ := exists_tokens kinds
  obtain ⟨a, ts', line', hr, -⟩ := h ts 0 hts
  obtain ⟨p, hp⟩ := hfails ts 0 hts
  rw [hr] at hp
  cases hp

/-- A reader leaves the same tokens however it is described. -/
theorem Reads.rest_eq {rest' : List Token.Kind} {P' : α → Prop} (h : Reads r kinds rest P)
    (h' : Reads r kinds rest' P') : rest = rest' := by
  obtain ⟨ts, hts⟩ := exists_tokens kinds
  obtain ⟨a, ts₁, line, hr, rfl, -⟩ := h ts 0 hts
  obtain ⟨a', ts₂, line', hr', rfl, -⟩ := h' ts 0 hts
  rw [hr] at hr'
  cases hr'
  rfl

end Fails

/-- Signs that no expression starts with. -/
def nonStarts : List String := [":", "*", "**", ",", "]", ")"]

theorem fails_expression {k : Nested} {s : String} (hs : s ∈ nonStarts) :
    Fails (expression k) (.sign s :: kinds) := by
  have hplus : Token.Kind.sign s ≠ .sign "+" := by rintro ⟨⟩; simp [nonStarts] at hs
  have hminus : Token.Kind.sign s ≠ .sign "-" := by rintro ⟨⟩; simp [nonStarts] at hs
  have htilde : Token.Kind.sign s ≠ .sign "~" := by rintro ⟨⟩; simp [nonStarts] at hs
  have hatom : Fails (atom k) (.sign s :: kinds) := by
    refine reads_peek.bind_fails fun a ha => ?_
    subst ha
    simp only [nonStarts, List.mem_cons, List.not_mem_nil, or_false] at hs
    rcases hs with rfl | rfl | rfl | rfl | rfl | rfl <;> exact fun ts line _ => ⟨_, rfl⟩
  have hpower : Fails (power k) (.sign s :: kinds) :=
    Fails.bind ((reads_keyword?_false (by simp)).test_fails hatom.bind)
  have hfactor : Fails (factor k) (.sign s :: kinds) :=
    (reads_sign?_false hplus).test_fails
      ((reads_sign?_false hminus).test_fails ((reads_sign?_false htilde).test_fails hpower))
  have hinversion : Fails (inversion k) (.sign s :: kinds) :=
    (reads_keyword?_false (by simp)).test_fails
      (Fails.bind (Fails.bind (Fails.bind (Fails.bind (Fails.bind (Fails.bind (Fails.bind hfactor)))))))
  exact (reads_keyword?_false (by simp)).test_fails (Fails.bind (Fails.bind (Fails.bind hinversion)))

/-- An expression of one name. -/
theorem reads_expression_name {k : Nested} {id : Token.Name} {c : Token.Kind} (hc : isCloser c = true) :
    Reads (expression k) (.name id :: c :: rest) (c :: rest) (· = .name id.text) := by
  have hprimary : Reads (primary k) ([Kind.name id] ++ c :: rest) (c :: rest) _ :=
    reads_primary [] (Nat.zero_le _) hc (reads_atom_name id) (by simp)
  refine reads_expression rfl hc (hprimary.mono fun e he => ?_)
  obtain ⟨ts, hts, rfl⟩ := he
  rw [List.forall₂_nil_left_iff.1 hts]
  rfl

/-- What starts an expression starts no slice, no unpacked sequence, no keyword and no assignment.
-/
theorem Placed.exists_first {text : List Char} {P : Expr → Prop}
    (h : Placed room (·.expression) expressionEnds text kinds P) :
    ∃ first others, kinds = first :: others ∧
      (∀ s ∈ nonStarts, first ≠ .sign s) ∧
        ∀ id, first = .name id → ∀ c ∈ others.head?, isCloser c = false := by
  let k : Nested := .ofDepth (text.length + 2) (text.length + 2)
  have hk : IsAmple (text.length + 2) k :=
    ⟨(bound_ofDepth _ _).ge, text.length + 2, le_rfl, by rw [bound_ofDepth]⟩
  have hreads := h.reads k (hk.mono (Nat.le_succ _)) (.sign ",") (by decide) []
  obtain ⟨k', hdeeper, -⟩ := hk.exists_deeper
  rw [hdeeper] at hreads
  have hreads : Reads (expression k') (kinds ++ [Kind.sign ","]) [Kind.sign ","] P := hreads
  cases kinds with
  | nil => exact absurd (fails_expression (by decide)) hreads.not_fails
  | cons first others =>
    refine ⟨first, others, rfl, ?_, ?_⟩
    · rintro s hs rfl
      exact hreads.not_fails (fails_expression hs)
    · rintro id rfl c hc
      obtain ⟨tail, rfl⟩ : ∃ t, others = c :: t := ⟨_, List.eq_cons_of_mem_head? hc⟩
      by_contra hcloser
      have hname : Reads (expression k') (.name id :: c :: (tail ++ [Kind.sign ","]))
          (c :: (tail ++ [Kind.sign ","])) _ := reads_expression_name (by simpa using hcloser)
      have hrest := hname.rest_eq hreads
      simp at hrest

/-- The token behind the first one of an expression goes on with no name. -/
theorem Placed.second_ne {text : List Char} {P : Expr → Prop} {first c : Token.Kind}
    {others : List Token.Kind} {id : Token.Name} {s : String}
    (h : Placed room (·.expression) expressionEnds text (first :: others) P) (hfirst : first = .name id)
    (hs : isCloser (.sign s) = true) (hc : c ≠ .sign s) :
    (others ++ c :: rest).headD .endOfText ≠ .sign s := by
  obtain ⟨_, _, heq, -, hname⟩ := h.exists_first
  obtain ⟨rfl, rfl⟩ := List.cons.inj heq
  cases others with
  | nil => exact hc
  | cons second others =>
    rintro rfl
    have hopen := hname id hfirst _ rfl
    rw [hs] at hopen
    cases hopen

/-- An expression is an index. -/
theorem Placed.index {text : List Char} {P : Expr → Prop}
    (h : Placed room (·.expression) expressionEnds text kinds P) :
    Placed room Grammar.index indexEnds text kinds P := by
  refine ⟨h.plain, h.nonempty, h.scans, fun k hk c hc rest => ?_⟩
  obtain ⟨first, others, rfl, hfirst, -⟩ := h.exists_first
  have hends : ∀ c ∈ indexEnds, c ∈ expressionEnds ∧ c ≠ .sign ":" ∧ c ≠ .sign ":=" := by decide
  obtain ⟨hends, hcolon, hassigned⟩ := hends c hc
  refine reads_peek.after (reads_peekSecond.after ?_)
  split
  · exact absurd rfl (hfirst ":" (by decide))
  · exact absurd rfl (hfirst "*" (by decide))
  · next hsecond => exact absurd hsecond (h.second_ne rfl rfl hassigned)
  · exact (h.reads k hk c hends rest).bind fun e he => (reads_atSign_false hcolon).test_false (.pure he)

/-- What is read between parentheses is an expression with them. -/
theorem placed_parenthesized {ends : List Token.Kind} {text : List Char} {e : Expr}
    (hends : ∀ c ∈ ends, isCloser c = true) (hroom : room < maxBrackets) (hplain : IsPlain text)
    (hscans : Scans (room + 1) text kinds)
    (h : ∀ k, IsAmple text.length k → ∀ rest,
      Reads (parenthesized k.deeper) (kinds ++ .sign ")" :: rest) rest (· = e)) :
    Placed room (·.expression) ends ('(' :: (text ++ [')'])) (.sign "(" :: (kinds ++ [Kind.sign ")"]))
      (· = e) := by
  refine placed_of_primary hends ((hplain.append (isPlain_nil.cons (by decide))).cons (by decide))
    (by simp)
    (scans_parenthesized hroom hscans) rfl fun k hk c hc rest => ?_
  obtain ⟨k', rfl, hk'⟩ := (hk.mono (show text.length + 1 ≤ _ by simp)).exists_deeper
  have hatom (rest : List Token.Kind) :
      Reads (atom k'.deeper) (Kind.sign "(" :: (kinds ++ [Kind.sign ")"]) ++ rest) rest (· = e) := by
    have hinside := h k' hk' rest
    rw [List.append_cons] at hinside
    exact reads_peek.after (reads_next.bind fun _ _ => hinside)
  have hprimary : Reads (primary k'.deeper) (Kind.sign "(" :: (kinds ++ [Kind.sign ")"]) ++ c :: rest)
      (c :: rest) _ := reads_primary [] (Nat.zero_le _) hc hatom (by simp)
  refine hprimary.mono fun e' he => ?_
  obtain ⟨ts, hts, rfl⟩ := he
  obtain rfl := List.forall₂_nil_left_iff.1 hts
  rfl

/-- The empty tuple. -/
theorem placed_unit (hroom : room < maxBrackets) :
    Placed room (·.expression) expressionEnds ['(', ')'] [.sign "(", .sign ")"] fun _ => True := by
  have hunit : Placed room (·.expression) expressionEnds ('(' :: ([] ++ [')']))
      (.sign "(" :: ([] ++ [Kind.sign ")"])) (· = .tuple []) := placed_parenthesized
    (fun _ => isCloser_of_mem_expressionEnds) hroom isPlain_nil (fun _ _ _ _ _ _ hout => hout)
    fun _ _ _ => reads_sign?_true.test_true (.pure rfl)
  exact hunit.mono fun _ _ => trivial

/-- The indices of a subscript. -/
theorem reads_indices {k : Nested} {items : List (List Char × List Token.Kind)} (hitems : items ≠ [])
    (hbound : items.length ≤ k.bound)
    (h : ∀ i ∈ items, ∀ c ∈ indexEnds,
      ∀ rest, Reads (index k) (i.2 ++ c :: rest) (c :: rest) fun _ => True)
    (rest : List Token.Kind) :
    Reads (indices k) (commaKinds (items.map (·.2)) ++ .sign "]" :: rest) rest fun _ => True := by
  obtain ⟨i, items, rfl⟩ := List.exists_cons_of_ne_nil hitems
  have hlist : Reads (commaList k.bound (index k)) _ (.sign "]" :: rest) _ :=
    reads_commaList (R := fun _ _ => True) Prod.snd i items (Nat.le_of_succ_le hbound) (by simp) h
  refine hlist.bind fun r _ => reads_sign.bind fun _ _ => ?_
  obtain ⟨values, comma⟩ := r
  dsimp only
  split <;> exact .pure trivial

/-- A type with its arguments. -/
def groupText (id : Token.FreeName) (path : List Token.FreeName) (texts : List (List Char)) :
    List Char :=
  dottedText id path ++ '[' :: (commaText texts ++ [']'])

/-- The kinds of the tokens of a type with its arguments. -/
def groupKinds (id : Token.FreeName) (path : List Token.FreeName) (kinds : List (List Token.Kind)) :
    List Token.Kind :=
  dottedKinds id path ++ .sign "[" :: (commaKinds kinds ++ [Kind.sign "]"])

/-- A type with its arguments is an expression. -/
theorem placed_group (hroom : room < maxBrackets) (id : Token.FreeName) (path : List Token.FreeName)
    {items : List (List Char × List Token.Kind)} (hitems : items ≠ [])
    (h : ∀ i ∈ items, Placed (room + 1) index indexEnds i.1 i.2 fun _ => True) :
    Placed room (·.expression) expressionEnds (groupText id path (items.map (·.1)))
      (groupKinds id path (items.map (·.2))) fun _ => True := by
  have htexts : ∀ t ∈ items.map (·.1), t ≠ [] := by
    intro t ht
    obtain ⟨i, hi, rfl⟩ := List.mem_map.1 ht
    exact (h i hi).nonempty
  obtain ⟨hcount, hlength⟩ := length_le_commaText _ htexts
  have hplain : IsPlain (commaText (items.map (·.1))) := isPlain_commaText fun t ht => by
    obtain ⟨i, hi, rfl⟩ := List.mem_map.1 ht
    exact (h i hi).plain
  refine (placed_trailed (T := fun _ => True) (fun _ => isCloser_of_mem_expressionEnds) id path rfl
    ((hplain.append (isPlain_nil.cons (by decide))).cons (by decide))
    (scans_bracketed hroom (scans_commaText (·.1) (·.2) fun i hi => (h i hi).scans)) fun k hk rest => ?_).mono
      fun _ _ => trivial
  have hsize : (commaText (items.map (·.1))).length + 1 ≤
      ('[' :: (commaText (items.map (·.1)) ++ [']'])).length := by simp
  have hcount : items.length ≤ k.bound := by
    rw [List.length_map] at hcount
    exact hcount.trans (Nat.le_of_succ_le (hsize.trans hk.1))
  have hindices := reads_indices hitems hcount (fun i hi => (h i hi).reads k
    (hk.mono ((Nat.succ_le_succ (hlength _ (List.mem_map_of_mem hi))).trans hsize))) rest
  rw [List.append_cons] at hindices
  refine (reads_sign?_false (by simp)).test_false ((reads_sign?_false (by simp)).test_false ?_)
  refine reads_sign?_true.test_true ?_
  exact hindices.bind fun e _ => .pure ⟨_, rfl, trivial⟩

end Grammar

end ServiceStubs
