import ServiceStubs.Proofs.Expansion.Blocks
import ServiceStubs.Proofs.Expansion.Characters
import ServiceStubs.Proofs.Grammar.Definitions
import ServiceStubs.Proofs.Schema.Methods

/-!
# Declared methods, read back

The interface of a service declares every method again. Annotations and defaults stand there as
their texts, a type or a result that was not annotated is written out, and a slash is put back
behind the parameters that bind by position only. What is read from that declaration is the method
that was read from the source, as long as the texts of the expressions are read back as these
expressions.

Defaults belong to the last parameters that positions bind, whether or not there is a slash between
them. The receiver is counted by the slash but is no parameter of the method, and if it is the only
one in front of the slash, there is no slash in the interface.

## Main definitions

* `Expansion.Alike`: expressions that the generator does not tell apart
* `Expansion.ReadsBack`: a definition whose expressions are read back from their texts
* `Expansion.slots`: what stands in the parentheses of a declared method

## Main statements

* `Expansion.placed_slot`, `Expansion.arrange_slots`: one parameter, and all of them
* `Expansion.stands_declaredMethod`: a declared method in its place
* `Expansion.readMethod_declaredMethod`: the methods of the services of a module, read back
-/

namespace ServiceStubs

namespace Expansion

open Schema Grammar ServiceStubs.Tree

/-! ### Expressions that are read back -/

/-- The generator does not tell the expressions apart: they have the same text, both are `None` or
neither of them is, and as decorators they have the same name. -/
structure Alike (e e' : Expr) : Prop where
  text : e'.text = e.text
  absent : e' = .constant .none ↔ e = .constant .none
  name : decoratorName e' = decoratorName e

/-- The text of every expression of the definition, placed where a declared method has it, is that
expression again. -/
structure ReadsBack (d : Definition) : Prop where
  types : ∀ p ∈ d.params, ∀ e ∈ p.type, ∀ text, e.text = .ok text →
    ∃ kinds, Placed 1 (·.expression) expressionEnds text.toList kinds (Alike e)
  defaults : ∀ p ∈ d.params, ∀ e ∈ p.defaultValue, ∀ text, e.text = .ok text →
    ∃ kinds, Placed 1 (·.expression) expressionEnds text.toList kinds (Alike e)
  returns : ∀ e ∈ d.returns, ∀ text, e.text = .ok text →
    ∃ kinds, Placed 0 (·.expression) expressionEnds text.toList kinds (Alike e)
  decorators : ∀ c ∈ d.decorators, ∀ text, c.expr.text = .ok text →
    ∃ kinds, PlacedDecorator text.toList kinds fun c' => Alike c.expr c'.expr

theorem Alike.refl (e : Expr) : Alike e e := ⟨rfl, Iff.rfl, rfl⟩

/-- A dotted name is its own text. -/
theorem text_dotted (id : Token.FreeName) (path : List Token.FreeName) :
    (dotted id path).text = .ok (String.ofList (dottedText id path)) := by
  suffices h : ∀ level,
      (dotted id path).write false level = .ok (String.ofList (dottedText id path)) from
    h Level.test
  induction path using List.reverseRecOn with
  | nil => simp [dotted, dottedText, Expr.write, pure, Except.pure]
  | append_singleton path m ih =>
    intro level
    have hfold : dotted id (path ++ [m]) = .attribute (dotted id path) m.text := by simp [dotted]
    have hnumber : (dotted id path).isWholeNumber = false := by
      cases path using List.reverseRecOn with
      | nil => rfl
      | append_singleton path n =>
        rw [dotted, List.foldl_append]
        rfl
    have htext : dottedText id (path ++ [m]) = dottedText id path ++ '.' :: m.text.toList := by
      simp [dottedText]
    rw [hfold, Expr.write, ih Level.atom, htext]
    simp only [hnumber, bind, Except.bind, pure, Except.pure, Bool.false_eq_true, if_false]
    refine congrArg Except.ok (String.toList_inj.1 ?_)
    simp

/-! ### Types, defaults and results -/

section Expressions

variable {room : Nat} {text : String} {o : Option Expr}

/-- The type of a parameter, written out if it has none. -/
theorem placed_type (room : Nat) (h : writtenType o = .ok text)
    (hback : ∀ e ∈ o, e.text = .ok text →
      ∃ kinds, Placed room (·.expression) expressionEnds text.toList kinds (Alike e)) :
    ∃ kinds, Placed room (·.expression) expressionEnds text.toList kinds
      fun e => writtenType (some e) = .ok text := by
  cases o with
  | none =>
    obtain rfl := Except.ok.inj h
    obtain ⟨typing, htyping⟩ := (show Token.IsFree "_typing" by decide +kernel).exists_name
    obtain ⟨any, hany⟩ := (show Token.IsFree "Any" by decide +kernel).exists_name
    have hdotted : Placed room (·.expression) expressionEnds (dottedText typing [any])
      (dottedKinds typing [any])
        (· = dotted typing [any]) := placed_dotted typing [any]
    have htext : dottedText typing [any] = anyType.toList := by simp [dottedText, htyping, hany, anyType]
    rw [htext] at hdotted
    refine ⟨_, hdotted.mono ?_⟩
    rintro e rfl
    rw [writtenType, text_dotted, htext, String.ofList_toList]
    rfl
  | some e =>
    obtain ⟨kinds, hplaced⟩ := hback e rfl (text_of_writtenForm h)
    refine ⟨kinds, hplaced.mono fun e' he => ?_⟩
    rwa [writtenType, he.text]

/-- A default. -/
theorem placed_default (room : Nat) (h : writtenDefault o = .ok (some text))
    (hback : ∀ e ∈ o, e.text = .ok text →
      ∃ kinds, Placed room (·.expression) expressionEnds text.toList kinds (Alike e)) :
    ∃ kinds, Placed room (·.expression) expressionEnds text.toList kinds
      fun e => writtenDefault (some e) = .ok (some text) := by
  cases o with
  | none => cases h
  | some e =>
    obtain ⟨v, hv, hsome⟩ := exists_text_of_map h
    obtain rfl := Option.some.inj hsome
    obtain ⟨kinds, hplaced⟩ := hback e rfl hv
    refine ⟨kinds, hplaced.mono fun e' he => ?_⟩
    rwa [writtenDefault, he.text]

/-- Nothing, as a result. -/
theorem placed_none : Placed room (·.expression) expressionEnds "None".toList [.keyword "None"]
    (· = .constant .none) := by
  have hword : Token.IsWord "None".toList (.keyword "None") :=
    ⟨by decide, List.all_eq_true.1 (by decide), 'N', rfl, rfl⟩
  refine placed_of_primary (fun _ => isCloser_of_mem_expressionEnds) (isPlain_of_all (by decide))
    (by decide)
    (fun _ _ _ _ _ hrest hout => .keyword hword hrest.endsWord hout) rfl fun k _ c hc rest => ?_
  have hatom (rest : List Token.Kind) :
      Reads (atom k) ([.keyword "None"] ++ rest) rest (· = .constant .none) :=
    reads_peek.after (reads_next.bind fun _ _ => .pure rfl)
  have hprimary : Reads (primary k) ([.keyword "None"] ++ c :: rest) (c :: rest) _ :=
    reads_primary [] (Nat.zero_le _) hc hatom (by simp)
  refine hprimary.mono fun e he => ?_
  obtain ⟨ts, hts, rfl⟩ := he
  obtain rfl := List.forall₂_nil_left_iff.1 hts
  rfl

/-- The result of a method, written out if it has none. -/
theorem placed_result (room : Nat) {o' : Option String} (h : readReturns o = .ok o')
    (hback : ∀ e ∈ o, ∀ text, e.text = .ok text →
      ∃ kinds, Placed room (·.expression) expressionEnds text.toList kinds (Alike e)) :
    ∃ kinds, Placed room (·.expression) expressionEnds (o'.getD "None").toList kinds
      fun e => readReturns (some e) = .ok o' := by
  have hnone : ∃ kinds, Placed room (·.expression) expressionEnds "None".toList kinds
      fun e => readReturns (some e) = .ok none := by
    refine ⟨_, placed_none.mono ?_⟩
    rintro e rfl
    rfl
  cases o with
  | none =>
    obtain rfl := Except.ok.inj h
    exact hnone
  | some e =>
    by_cases habsent : e = .constant .none
    · subst habsent
      obtain rfl := Except.ok.inj h
      exact hnone
    · have hreturns {e : Expr} (h : e ≠ .constant .none) :
          readReturns (some e) = some <$> writtenForm e.text := by
        rw [readReturns]
        exact h
      rw [hreturns habsent] at h
      obtain ⟨text, htext, rfl⟩ := exists_text_of_map h
      obtain ⟨kinds, hplaced⟩ := hback e rfl text htext
      refine ⟨kinds, hplaced.mono fun e' he => ?_⟩
      rwa [hreturns (mt he.absent.1 habsent), he.text]

end Expressions

/-! ### Parameters -/

/-- What stands in the parentheses of a declared method: the receiver (no parameter), a parameter of
the method, or the slash. -/
inductive Slot
  | binder (parameter : Option Parameter)
  | slash

/-- The text of a slot. -/
def Slot.text : Slot → String
  | binder none => "self"
  | binder (some p) => p.text
  | slash => "/"

/-- What binds arguments, in order. -/
def binders (m : Method) : List (Option Parameter) := none :: m.parameters.map some

/-- What stands in the parentheses of a declared method, in order. -/
def slots (m : Method) : List Slot :=
  if m.positionalOnly = 0 then (binders m).map .binder
  else ((binders m).take (m.positionalOnly + 1)).map .binder ++
    .slash :: ((binders m).drop (m.positionalOnly + 1)).map .binder

theorem signature_eq (m : Method) : m.signature = (slots m).map Slot.text := by
  have hall : "self" :: m.parameters.map (·.text) = (binders m).map (Slot.text ∘ Slot.binder) := by
    simp [binders, Slot.text]
  rw [Method.signature, slots, hall]
  by_cases hzero : m.positionalOnly = 0
  · simp [hzero]
  · have hslash : Slot.slash.text = "/" := rfl
    simp [hzero, List.map_take, List.map_drop, hslash]

/-- A parameter binds what the slot says. -/
def Binds (method : String) : Option Parameter → Param → Prop
  | none, p => p.name = "self"
  | some q, p => readParameter method p = .ok q

/-- The slot has a default. -/
def hasDefault (b : Option Parameter) : Bool := b.any (·.defaultValue.isSome)

/-- What is read for a slot that binds arguments. -/
structure Fits (method : String) (b : Option Parameter) (p : Param) : Prop where
  kind : p.kind = .plain
  defaultValue : p.defaultValue.isSome = hasDefault b
  binds : Binds method b p

/-- A slot is read as that item. -/
def IsRead (method : String) : Slot → ParamItem → Prop
  | .binder b, i => ∃ p, i = .param p ∧ Fits method b p
  | .slash, i => i = .slash

theorem binds_withKind {method : String} {b : Option Parameter} {p : Param} (h : Binds method b p)
    (kind : ParamKind) : Binds method b (withKind kind p) := by
  obtain ⟨_, name, type, value, position⟩ := p
  cases b with
  | none => exact h
  | some q => exact readParameter_eq_ok_iff.2 (readParameter_eq_ok_iff.1 h)

section Signature

variable {owner : String} {d : Definition} {m : Method}

theorem mem_binders {b : Option Parameter} (h : .binder b ∈ slots m) : b ∈ binders m := by
  rw [slots] at h
  split at h
  · simpa using h
  · simp only [List.mem_append, List.mem_cons, List.mem_map, Slot.binder.injEq, exists_eq_right,
      reduceCtorEq, false_or] at h
    exact h.elim List.mem_of_mem_take List.mem_of_mem_drop

/-- **A parameter in its place.** -/
theorem placed_slot (h : IsReadAs owner d m) (hdeclarable : Declarable d.params) (hfree : m.HasFreeNames)
    (hback : ReadsBack d) {slot : Slot} (hslot : slot ∈ slots m) : ∃ kinds,
      (∃ first others, kinds = first :: others ∧ first ≠ .sign ")") ∧
      Placed 1 (paramItem · true) itemEnds slot.text.toList kinds
      (IsRead (owner ++ "." ++ d.name) slot) := by
  cases slot with
  | slash => exact ⟨_, ⟨_, _, rfl, by simp⟩, placed_slash⟩
  | binder b =>
    cases b with
    | none =>
      obtain ⟨id, hid⟩ := (show Token.IsFree "self" by decide +kernel).exists_name
      refine ⟨_, ⟨_, _, rfl, by simp⟩, (hid ▸ placed_bare id : Placed 1 _ _ "self".toList _ _).mono ?_⟩
      rintro i ⟨position, rfl⟩
      exact ⟨_, rfl, rfl, rfl, rfl⟩
    | some q =>
      have hq : q ∈ m.parameters := by simpa [binders] using mem_binders hslot
      obtain ⟨receiver, others, hparams, -, hparameters⟩ := h.parameters
      obtain ⟨p, hp, hread⟩ := (exists_of_forall₂ hparameters).2 q hq
      have hp : p ∈ d.params := hparams ▸ List.mem_cons_of_mem _ hp
      obtain ⟨hname, hreserved, htype, hdefault⟩ := readParameter_eq_ok_iff.1 hread
      have hfree : p.name ∉ Token.keywords := hname ▸ hfree.arguments q.name (List.mem_map_of_mem hq)
      obtain ⟨id, hid⟩ := Token.IsFree.exists_name ⟨hdeclarable.names p hp, hfree⟩
      obtain ⟨kinds, htyped⟩ := placed_type 1 htype fun e he => hback.types p hp e he _
      cases hvalue : q.defaultValue with
      | none =>
        have htext : (Slot.binder (some q)).text.toList = annotatedText id q.type.toList := by
          simp [Slot.text, Parameter.text, hvalue, annotatedText, hname, hid]
        rw [htext]
        refine ⟨_, ⟨_, _, rfl, by simp⟩, (placed_annotated id htyped).mono ?_⟩
        rintro i ⟨e, position, he, rfl⟩
        refine ⟨_, rfl, rfl, by simp [hasDefault, hvalue, Param.defaultValue],
          readParameter_eq_ok_iff.2 ⟨hname.trans hid.symm, hid ▸ hreserved, he, ?_⟩⟩
        rw [hvalue]
        rfl
      | some v =>
        rw [hvalue] at hdefault
        obtain ⟨kinds', hvalued⟩ := placed_default 1 hdefault fun e he => hback.defaults p hp e he _
        have htext : (Slot.binder (some q)).text.toList =
            annotatedText id q.type.toList ++ ' ' :: '=' :: ' ' :: v.toList := by
          simp [Slot.text, Parameter.text, hvalue, annotatedText, hname, hid]
        rw [htext]
        refine ⟨_, ⟨_, _, rfl, by simp⟩, (placed_defaulted id htyped hvalued).mono ?_⟩
        rintro i ⟨e, e', position, he, he', rfl⟩
        refine ⟨_, rfl, rfl, by simp [hasDefault, hvalue, Param.defaultValue],
          readParameter_eq_ok_iff.2 ⟨hname.trans hid.symm, hid ▸ hreserved, he, ?_⟩⟩
        rwa [hvalue]

theorem exists_params {method : String} {bs : List (Option Parameter)} {items : List ParamItem}
    (h : List.Forall₂ (IsRead method) (bs.map .binder) items) :
    ∃ params, items = params.map .param ∧ List.Forall₂ (Fits method) bs params := by
  rw [List.forall₂_map_left_iff] at h
  induction h with
  | nil => exact ⟨[], rfl, .nil⟩
  | cons hread _ ih =>
    obtain ⟨p, rfl, hp⟩ := hread
    obtain ⟨params, rfl, hparams⟩ := ih
    exact ⟨p :: params, rfl, .cons hp hparams⟩

theorem defaultsOf_eq_map {params : List Param} (h : ∀ p ∈ params, IsPositional p) :
    defaultsOf params = params.map (·.defaultValue.isSome) :=
  congrArg (List.map _) (positionalOf_eq h)

theorem defaultsOf_eq_of_fits {method : String} {bs : List (Option Parameter)} {params : List Param}
    (h : List.Forall₂ (Fits method) bs params) :
    (∀ p ∈ params, p.kind = .plain) ∧ defaultsOf params = bs.map hasDefault := by
  have hplain : ∀ p ∈ params, p.kind = .plain := fun p hp => by
    obtain ⟨b, -, hfits⟩ := (exists_of_forall₂ h).2 p hp
    exact hfits.kind
  refine ⟨hplain, ?_⟩
  have hsame := h.imp fun b p hfits => hfits.defaultValue.symm
  rw [← List.forall₂_map_right_iff, ← List.forall₂_map_left_iff, List.forall₂_eq_eq_eq] at hsame
  rw [defaultsOf_eq_map fun p hp => .inr (hplain p hp), hsame]

/-- Behind a default all slots have one. -/
theorem pairwise_hasDefault (h : IsReadAs owner d m) (hdeclarable : Declarable d.params) :
    ((binders m).map hasDefault).Pairwise (· ≤ ·) := by
  obtain ⟨receiver, others, hparams, -, hparameters⟩ := h.parameters
  have hothers : others.map (·.defaultValue.isSome) = (m.parameters.map some).map hasDefault := by
    have hsame : List.Forall₂ (fun p q => p.defaultValue.isSome = hasDefault (some q))
        others m.parameters :=
      hparameters.imp fun p q hread => isSome_of_writtenDefault (readParameter_eq_ok_iff.1 hread).2.2.2
    rw [List.map_map]
    rwa [← List.forall₂_map_right_iff, ← List.forall₂_map_left_iff, List.forall₂_eq_eq_eq] at hsame
  have hsorted := hdeclarable.defaults
  rw [defaultsOf_eq_map h.positional, hparams, List.map_cons, hothers] at hsorted
  rw [binders, List.map_cons]
  exact List.pairwise_cons.2 ⟨fun b _ => Bool.false_le b, hsorted.of_cons⟩

theorem positionalOnly_le (h : IsReadAs owner d m) : m.positionalOnly + 1 ≤ (binders m).length := by
  obtain ⟨receiver, others, hparams, -, hparameters⟩ := h.parameters
  have hcount := List.length_filter_le (fun p : Param => p.kind == .positional) d.params
  have hlength := hparameters.length_eq
  rw [hparams, List.length_cons] at hcount
  rw [h.positionalOnly, hparams, binders, List.length_cons, List.length_map]
  omega

/-- The parameters that the method has behind a receiver. -/
structure IsSignature (method : String) (m : Method) (params : List Param) : Prop where
  parameters : ∃ receiver others, params = receiver :: others ∧ receiver.name = "self" ∧
    List.Forall₂ (fun p q => readParameter method p = .ok q) others m.parameters
  /-- Those that bind by position only come first. -/
  leading : ∃ marked others, params = marked ++ others ∧ (∀ p ∈ marked, p.kind = .positional) ∧
    (∀ p ∈ others, p.kind = .plain) ∧ m.positionalOnly = marked.length - 1

namespace IsSignature

variable {method : String} {params params' : List Param}

theorem positional (h : IsSignature method m params) : ∀ p ∈ params, IsPositional p := by
  obtain ⟨marked, others, rfl, hmarked, hothers, -⟩ := h.leading
  intro p hp
  exact (List.mem_append.1 hp).imp (hmarked p) (hothers p)

theorem filter_positional {marked others : List Param} (hmarked : ∀ p ∈ marked, p.kind = .positional)
    (hothers : ∀ p ∈ others, p.kind = .plain) :
    (marked ++ others).filter (·.kind == .positional) = marked := by
  have hnone : others.filter (·.kind == .positional) = [] := by
    rw [List.filter_eq_nil_iff]
    intro p hp
    simp [hothers p hp]
  rw [List.filter_append, hnone, List.append_nil, List.filter_eq_self]
  intro p hp
  simp [hmarked p hp]

theorem positionalOnly (h : IsSignature method m params) :
    m.positionalOnly = (params.filter (·.kind == .positional)).length - 1 := by
  obtain ⟨marked, others, rfl, hmarked, hothers, hcount⟩ := h.leading
  rw [filter_positional hmarked hothers, hcount]

end IsSignature

theorem isSignature_of_binds {method : String} {marked others : List Param}
    (h : List.Forall₂ (Binds method) (binders m) (marked ++ others))
    (hmarked : ∀ p ∈ marked, p.kind = .positional) (hothers : ∀ p ∈ others, p.kind = .plain)
    (hcount : m.positionalOnly = marked.length - 1) : IsSignature method m (marked ++ others) := by
  refine ⟨?_, marked, others, rfl, hmarked, hothers, hcount⟩
  obtain ⟨receiver, behind, hreceiver, hbehind, hparams⟩ := List.forall₂_cons_left_iff.1 h
  rw [List.forall₂_map_left_iff] at hbehind
  exact ⟨receiver, behind, hparams, hreceiver, hbehind.flip⟩

/-- **All parameters.** -/
theorem arrange_slots (h : IsReadAs owner d m) (hdeclarable : Declarable d.params)
    {read : List ParamItem}
    (hread : List.Forall₂ (IsRead (owner ++ "." ++ d.name)) (slots m) read) :
    ∃ params, arrange read = some params ∧ IsSignature (owner ++ "." ++ d.name) m params := by
  have hsorted := pairwise_hasDefault h hdeclarable
  rw [slots] at hread
  split at hread
  · next hzero =>
    obtain ⟨params, rfl, hfits⟩ := exists_params hread
    obtain ⟨hplain, hdefaults⟩ := defaultsOf_eq_of_fits hfits
    rw [← hdefaults] at hsorted
    refine ⟨params, arrange_plain hplain hsorted, ?_⟩
    have hbinds : List.Forall₂ (Binds (owner ++ "." ++ d.name)) (binders m) ([] ++ params) :=
      hfits.imp fun b p hfits => hfits.binds
    exact isSignature_of_binds hbinds (by simp) hplain hzero
  · -- the receiver and those that bind by position only stand in front of the slash
    obtain ⟨before, others, hbefore, hothers, rfl⟩ := exists_append_of_forall₂ hread
    obtain ⟨-, behind, rfl, hbehind, rfl⟩ := List.forall₂_cons_left_iff.1 hothers
    obtain ⟨marked, rfl, hmarked⟩ := exists_params hbefore
    obtain ⟨params, rfl, hparams⟩ := exists_params hbehind
    have hlength : marked.length = m.positionalOnly + 1 := by
      rw [← hmarked.length_eq, List.length_take, min_eq_left (positionalOnly_le h)]
    have hfits : List.Forall₂ (Fits (owner ++ "." ++ d.name))
        ((binders m).take (m.positionalOnly + 1) ++ (binders m).drop (m.positionalOnly + 1))
          (marked ++ params) :=
      List.rel_append hmarked hparams
    rw [List.take_append_drop] at hfits
    obtain ⟨hplain, hdefaults⟩ := defaultsOf_eq_of_fits hfits
    rw [← hdefaults] at hsorted
    rw [List.forall_mem_append] at hplain
    refine ⟨_, arrange_marked (List.ne_nil_of_length_eq_add_one hlength) hplain.1 hplain.2 hsorted,
      isSignature_of_binds ?_ (fun p hp => ?_) hplain.2 (by rw [List.length_map, hlength]; rfl)⟩
    · have hbinds : List.Forall₂ (Binds (owner ++ "." ++ d.name))
          ((binders m).take (m.positionalOnly + 1) ++ (binders m).drop (m.positionalOnly + 1))
          (marked.map (withKind .positional) ++ params) := by
        refine List.rel_append ?_ (hparams.imp fun b p hfits => hfits.binds)
        rw [List.forall₂_map_right_iff]
        exact hmarked.imp fun b p hfits => binds_withKind hfits.binds _
      rwa [List.take_append_drop] at hbinds
    · obtain ⟨q, -, rfl⟩ := List.mem_map.1 hp
      exact kind_withKind _ q

/-- **The line of a declared method in its place.** -/
theorem placed_declaredMethod (h : IsReadAs owner d m) (hname : Token.IsName d.name)
    (hdeclarable : Declarable d.params) (hfree : m.HasFreeNames) (hback : ReadsBack d) :
    ∃ id : Token.FreeName, id.text = m.name ∧
    ∃ kinds, PlacedHead (signatureText m.name m.signature (m.returnType.getD "None")) kinds
      fun ds body => IsFunction id ds (IsSignature (owner ++ "." ++ d.name) m)
        (fun e => readReturns (some e) = .ok m.returnType) body := by
  have hslot := fun slot (hslot : slot ∈ slots m) => placed_slot h hdeclarable hfree hback hslot
  choose! tokens hfirst hslot using hslot
  obtain ⟨id, hid⟩ := Token.IsFree.exists_name ⟨hname, h.name ▸ hfree.name⟩
  obtain ⟨kinds, hresult⟩ := placed_result 0 h.returns hback.returns
  -- the receiver comes first
  obtain ⟨behind, hslots⟩ : ∃ behind, slots m = .binder none :: behind := by
    rw [slots, binders]
    split
    · exact ⟨_, rfl⟩
    · exact ⟨_, rfl⟩
  have harrange := fun read (hread : List.Forall₂ (IsRead (owner ++ "." ++ d.name)) (slots m) read) =>
    arrange_slots h hdeclarable hread
  rw [hslots] at hfirst hslot harrange
  have hplaced := placed_signature id Slot.text tokens (.binder none) behind hslot
    (hfirst _ List.mem_cons_self) ?_ harrange hresult
  · rw [← hslots, ← signature_eq, hid.trans h.name.symm] at hplaced
    exact ⟨id, hid.trans h.name.symm, _, hplaced⟩
  · rintro slot - hstar
    cases slot with
    | slash => cases hstar
    | binder b =>
      obtain ⟨p, hp, -⟩ := hstar
      cases hp

end Signature

/-! ### Declared methods -/

/-- A decorator is read as its text, unless its name makes the method no remote one. -/
theorem readDecorator_eq_ok_iff {method text : String} {c : Decorator} :
    readDecorator method c = .ok text ↔
    decoratorName c.expr ∉ offInstanceNames ∧ decoratorName c.expr ∉ propertyNames ∧
    c.expr.text = .ok text := by
  constructor
  · intro h
    unfold readDecorator at h
    obtain ⟨hinstance, h⟩ := not_of_check (by rintro u ⟨⟩) h
    obtain ⟨hproperty, h⟩ := not_of_check (by rintro u ⟨⟩) h
    exact ⟨by simpa using hinstance, by simpa using hproperty, text_of_writtenForm h⟩
  · rintro ⟨hinstance, hproperty, htext⟩
    rw [readDecorator, if_neg (by simpa using hinstance), if_neg (by simpa using hproperty), htext]
    rfl

/-- The decorator that makes a method abstract. -/
def abstractName : String := "_abc.abstractmethod"

theorem abstractDecorators_eq (m : Method) :
    abstractDecorators m = (m.decorators ++ [abstractName]).map fun text => Code.decorator text [] := by
  rw [abstractDecorators, List.map_append]
  rfl

section Declared

variable {owner : String} {d : Definition} {m : Method}

/-- Every decorator in its place. -/
theorem placed_decorator (h : IsReadAs owner d m) (hback : ReadsBack d) {text : String}
    (htext : text ∈ m.decorators ++ [abstractName]) : ∃ kinds,
      PlacedDecorator text.toList kinds fun c => readDecorator
      (owner ++ "." ++ d.name) c = .ok text := by
  rcases List.mem_append.1 htext with htext | htext
  · obtain ⟨c, hc, hread⟩ := (exists_of_forall₂ h.decorators).2 text htext
    obtain ⟨hinstance, hproperty, hwritten⟩ := readDecorator_eq_ok_iff.1 hread
    obtain ⟨kinds, hplaced⟩ := hback.decorators c hc text hwritten
    refine ⟨kinds, hplaced.mono fun c' hc' => ?_⟩
    rw [readDecorator_eq_ok_iff, hc'.name, hc'.text]
    exact ⟨hinstance, hproperty, hwritten⟩
  · obtain rfl := List.mem_singleton.1 htext
    obtain ⟨abc, habc⟩ := (show Token.IsFree "_abc" by decide +kernel).exists_name
    obtain ⟨abstract, habstract⟩ := (show Token.IsFree "abstractmethod" by decide +kernel).exists_name
    have hdotted : dottedText abc [abstract] = abstractName.toList := by
      simp [dottedText, habc, habstract, abstractName]
    refine ⟨_, (hdotted ▸ placedDecorator_dotted abc [abstract]).mono ?_⟩
    intro c hc
    have hname : decoratorName c.expr = "abstractmethod" := by
      rw [hc, ← habstract]
      rfl
    rw [readDecorator_eq_ok_iff, hname, hc, text_dotted, hdotted, String.ofList_toList]
    exact ⟨by decide, by decide, rfl⟩

/-- The definition is read as the method, made abstract, with a docstring and a place of its own. -/
def IsRedeclared (owner : String) (m : Method) (d : Definition) : Prop :=
  readMethod owner d = .ok { m with
    decorators := m.decorators ++ [abstractName]
    docstring := docstringOf d.body
    position := d.start }

/-- The docstring, if there is one, can stand in a source and closes there. -/
def Documents (docstring : Option String) : Prop :=
  ∀ text ∈ docstring, '\x00' ∉ text.toList ∧ Text.Closes text.toList

/-- **A declared method in its place.** -/
theorem stands_declaredMethod (h : IsReadAs owner d m) (hname : Token.IsName d.name)
    (hdeclarable : Declarable d.params) (hfree : m.HasFreeNames) (hback : ReadsBack d)
    (hdocstring : Documents m.docstring) (width : Nat) :
    ∃ kinds, Stands 1 width (declaredMethod m) kinds fun s => ∃ d',
      definition? s = some d' ∧ IsRedeclared owner m d' ∧
        IsDocumentation (width + 4) m.docstring d'.body := by
  obtain ⟨id, hid, headKinds, hhead⟩ := placed_declaredMethod h hname hdeclarable hfree hback
  have hdecorator := fun text (htext : text ∈ m.decorators ++ [abstractName]) =>
    placed_decorator h hback htext
  choose! tokens hdecorator using hdecorator
  have hstands : ∃ kinds, Stands 1 width _ kinds _ := stands_function hdecorator hhead hdocstring
  obtain ⟨kinds, hstands⟩ := hstands
  rw [declaredMethod, abstractDecorators_eq]
  refine ⟨kinds, hstands.mono ?_⟩
  rintro ⟨span, node⟩ ⟨ds, hds, params, e, body, hnode, hparams, hreturns, hbody⟩
  obtain rfl := hnode
  refine ⟨_, rfl, ?_, hbody⟩
  rw [IsRedeclared, readMethod_eq_ok_iff]
  have hname : id.text = d.name := hid.trans h.name
  refine ⟨rfl, hid.symm, ?_, hparams.positional, ?_, hreturns, rfl, rfl, hparams.positionalOnly⟩
  · rw [hname]
    exact hds.flip
  · rw [hname]
    exact hparams.parameters

end Declared

/-! ### The methods of a module -/

/-- The definition stands in the body of the class that declares the service, and it declares the
method. -/
def DeclaredBy (source : String) (s : Service) (m : Method) (d : Definition) : Prop :=
  ∃ body c t, readModule source.toList = .ok body ∧
    .stmt c.span (.classDef c.name c.bases c.keywords c.decorators c.body) ∈ body ∧ Reads c s ∧
    t ∈ c.body ∧ definition? t = some d ∧ readMethod c.name d = .ok m

/-- The definition that declares a method of a module. -/
theorem exists_declaredBy {source : String} {module : Module} (h : Module.ofSource source = .ok module)
    {s : Service} (hs : s ∈ module.services) {m : Method} (hm : m ∈ s.methods) :
    ∃ d, DeclaredBy source s m d ∧ IsReadAs s.name d m ∧ Token.IsName d.name ∧ Declarable d.params := by
  obtain ⟨body, c, hbody, hclass, hreads⟩ := exists_class h hs
  obtain ⟨t, ht, d, hd, hread⟩ := hreads.methods m hm
  obtain ⟨hname, hdeclarable⟩ := declarable_of_mem hbody hclass ht hd
  exact ⟨d, ⟨body, c, t, hbody, hclass, hreads, ht, hd, hread⟩,
    hreads.name ▸ readMethod_eq_ok_iff.1 hread, hname, hdeclarable⟩

/-- **A declared method is read back as it was declared**: with the same name, the same parameters,
the same types and defaults, the same slash and the same result. -/
theorem readMethod_declaredMethod {source : String} {module : Module}
    (h : Module.ofSource source = .ok module) {s : Service} (hs : s ∈ module.services) {m : Method}
    (hm : m ∈ s.methods) (hfree : m.HasFreeNames) (hback : ∀ d, DeclaredBy source s m d → ReadsBack d)
    (hdocstring : Documents m.docstring) :
    Code.indent (declaredMethod m) <:+: (interface s).lines ∧
      ∃ t d m', readModule (Text.joinLines (declaredMethod m) ++ "\n").toList = .ok [t] ∧
        definition? t = some d ∧ readMethod s.name d = .ok m' ∧
        m'.name = m.name ∧ m'.parameters = m.parameters ∧ m'.positionalOnly = m.positionalOnly ∧
        m'.returnType = m.returnType := by
  obtain ⟨d, hdeclared, hread, hname, hdeclarable⟩ := exists_declaredBy h hs hm
  refine ⟨infix_interface (List.mem_append_left _ (List.mem_map_of_mem hm)), ?_⟩
  obtain ⟨kinds, hstands⟩ :=
    stands_declaredMethod hread hname hdeclarable hfree (hback d hdeclared) hdocstring 0
  obtain ⟨t, ht, d', hd', hredeclared, -⟩ := readModule_of_stands hstands (by decide)
  exact ⟨t, d', _, ht, hd', hredeclared, rfl, rfl, rfl, rfl⟩

/-- Whether an expression is a dotted name. -/
def isDotted : Expr → Bool
  | .name id => decide (Token.IsFree id)
  | .attribute e m => isDotted e && decide (Token.IsFree m)
  | _ => false

theorem exists_dotted {e : Expr} (h : isDotted e = true) : ∃ id path, e = dotted id path := by
  induction e using isDotted.induct with
  | case1 id =>
    obtain ⟨id, rfl⟩ := (of_decide_eq_true h).exists_name
    exact ⟨id, [], rfl⟩
  | case2 e m ih =>
    rw [isDotted, Bool.and_eq_true] at h
    obtain ⟨id, path, rfl⟩ := ih h.1
    obtain ⟨m, rfl⟩ := (of_decide_eq_true h.2).exists_name
    exact ⟨id, path ++ [m], by simp [dotted]⟩
  | case3 e hname hattribute =>
    unfold isDotted at h
    split at h
    · exact absurd rfl (hname _)
    · exact absurd rfl (hattribute _ _)
    · cases h

/-- Whether all expressions of a definition are dotted names. -/
def usesDotted (d : Definition) : Bool :=
  (d.params.all fun p => p.type.all isDotted && p.defaultValue.all isDotted) &&
    d.returns.all isDotted && d.decorators.all (isDotted ·.expr)

/-- A dotted name in its place. -/
theorem placed_of_isDotted (room : Nat) {e : Expr} (h : isDotted e = true) {text : String}
    (htext : e.text = .ok text) :
    ∃ kinds, Placed room (·.expression) expressionEnds text.toList kinds (Alike e) := by
  obtain ⟨id, path, rfl⟩ := exists_dotted h
  obtain rfl := Except.ok.inj (htext.symm.trans (text_dotted id path))
  rw [String.toList_ofList]
  refine ⟨_, (placed_dotted id path).mono ?_⟩
  rintro e rfl
  exact .refl _

/-- A dotted name behind the sign of a decorator. -/
theorem placedDecorator_of_isDotted {e : Expr} (h : isDotted e = true) {text : String}
    (htext : e.text = .ok text) :
    ∃ kinds, PlacedDecorator text.toList kinds fun c => Alike e c.expr := by
  obtain ⟨id, path, rfl⟩ := exists_dotted h
  obtain rfl := Except.ok.inj (htext.symm.trans (text_dotted id path))
  rw [String.toList_ofList]
  refine ⟨_, (placedDecorator_dotted id path).mono ?_⟩
  rintro c hc
  rw [hc]
  exact .refl _

/-- **A definition that uses dotted names only is read back.** -/
theorem readsBack_of_usesDotted {d : Definition} (h : usesDotted d = true) : ReadsBack d := by
  simp only [usesDotted, Bool.and_eq_true, List.all_eq_true, Option.all_eq_true] at h
  obtain ⟨⟨hparams, hreturns⟩, hdecorators⟩ := h
  exact ⟨fun p hp e he _ => placed_of_isDotted 1 ((hparams p hp).1 e he),
    fun p hp e he _ => placed_of_isDotted 1 ((hparams p hp).2 e he),
    fun e he _ => placed_of_isDotted 0 (hreturns e he),
    fun c hc _ => placedDecorator_of_isDotted (hdecorators c hc)⟩

/-- Whether all expressions of a class and of the functions in its body are dotted names, and it has
no keywords. Other statements are not looked at. -/
def classUsesDotted : StmtNode → Bool
  | .classDef _ bases keywords decorators statements =>
    bases.all isDotted && keywords.isEmpty && decorators.all (isDotted ·.expr) &&
      statements.all fun t => (definition? t).all usesDotted
  | _ => true

/-- Whether all classes of a text use dotted names only. -/
def moduleUsesDotted (body : List Stmt) : Bool := body.all (classUsesDotted ·.node)

theorem usesDotted_of_declaredBy {source : String} {s : Service} {m : Method} {d : Definition}
    (hsource : ∀ body, readModule source.toList = .ok body → moduleUsesDotted body = true)
    (h : DeclaredBy source s m d) : usesDotted d = true := by
  obtain ⟨body, c, t, hbody, hclass, -, ht, hd, -⟩ := h
  have hdotted := List.all_eq_true.1 (hsource body hbody) _ hclass
  simp only [classUsesDotted, Stmt.node, Bool.and_eq_true, List.all_eq_true] at hdotted
  have huses := hdotted.2 t ht
  rwa [hd] at huses

/-- A method with a slash, a parameter that is not annotated and a default. -/
def slashSource : String :=
  "from grpc_stub_generator import service\n@service\nclass A:\n def f(self, a: t.U, /, b, c: t.V = t.w) -> t.R: ...\n"

theorem readMethod_declaredMethod_slash : ∃ module s m, Module.ofSource slashSource = .ok module ∧
    s ∈ module.services ∧ m ∈ s.methods ∧
    m.signature = ["self", "a: t.U", "/", "b: _typing.Any", "c: t.V = t.w"] ∧
    Code.indent (declaredMethod m) <:+: (interface s).lines ∧
    ∃ t d m', readModule (Text.joinLines (declaredMethod m) ++ "\n").toList = .ok [t] ∧
      definition? t = some d ∧ readMethod s.name d = .ok m' ∧
      m'.name = m.name ∧ m'.parameters = m.parameters ∧ m'.positionalOnly = m.positionalOnly ∧
      m'.returnType = m.returnType := by
  have hread : (Module.ofSource slashSource).toOption.map (fun module =>
      module.services.map fun s => s.methods.map fun m =>
        (m.signature, m.docstring, m.name :: m.argumentNames)) =
      some [[(["self", "a: t.U", "/", "b: _typing.Any", "c: t.V = t.w"], none, ["f", "a", "b",
        "c"])]] := by
    rw [Module.ofSource_eq (show slashSource.toList = _ from String.toList_ofList)]
    decide +kernel
  have hdotted : ((readModule slashSource.toList).toOption.all moduleUsesDotted) = true := by
    rw [show slashSource.toList = _ from String.toList_ofList]
    decide +kernel
  obtain ⟨module, hmodule, hservices⟩ := exists_of_toOption_map hread
  obtain ⟨s, hs, hmethods⟩ := List.mem_map.1 (hservices ▸ List.mem_singleton.2 rfl)
  obtain ⟨m, hm, hfields⟩ := List.mem_map.1 (hmethods ▸ List.mem_singleton.2 rfl)
  simp only [Prod.mk.injEq] at hfields
  obtain ⟨hsignature, hdocstring, hnames⟩ := hfields
  obtain ⟨hname, harguments⟩ := List.cons.inj hnames
  have hfree : m.HasFreeNames := ⟨hname ▸ by decide, harguments ▸ by decide⟩
  refine ⟨module, s, m, hmodule, hs, hm, hsignature, ?_⟩
  refine readMethod_declaredMethod hmodule hs hm hfree (fun d hd => readsBack_of_usesDotted
    (usesDotted_of_declaredBy (fun body hbody => ?_) hd)) ?_
  · rw [hbody] at hdotted
    exact hdotted
  · rw [hdocstring]
    simp [Documents]

/-- A method whose docstring ends in a quote and a form feed, and one that is called like a reserved
word. -/
def formFeedSource : String :=
  "from grpc_stub_generator import service\n@service\nclass A:\n" ++
    " def f(self):\n  'a\"\\x0c'\n def ｉｆ(self): ...\n"

/-- The literal of a docstring does not close: the form feed at its end is dropped, and the quote in
front of it, which is not escaped, meets those behind it. A name that was written in wide letters is
written as a reserved word. -/
theorem readModule_declaredMethod_error : ∃ module s, Module.ofSource formFeedSource = .ok module ∧
    s ∈ module.services ∧ s.methods.map (·.name) = ["f", "if"] ∧ ∀ m ∈ s.methods,
      (∀ d, DeclaredBy formFeedSource s m d → ReadsBack d) ∧
      ∀ body, readModule (Text.joinLines (declaredMethod m) ++ "\n").toList ≠ .ok body := by
  have hread : (Module.ofSource formFeedSource).toOption.map (fun module =>
      module.services.map fun s => (s.methods.map (·.name), s.methods.all fun m =>
        !(readModule (Text.joinLines (declaredMethod m) ++ "\n").toList).isOk)) =
      some [(["f", "if"], true)] := by
    rw [Module.ofSource_eq
      (show formFeedSource.toList = _ from toList_append_eq String.toList_ofList String.toList_ofList)]
    decide +kernel
  have hdotted : ((readModule formFeedSource.toList).toOption.all moduleUsesDotted) = true := by
    rw [show formFeedSource.toList = _ from toList_append_eq String.toList_ofList String.toList_ofList]
    decide +kernel
  obtain ⟨module, hmodule, hservices⟩ := exists_of_toOption_map hread
  obtain ⟨s, hs, hmethods⟩ := List.mem_map.1 (hservices ▸ List.mem_singleton.2 rfl)
  obtain ⟨hnames, herror⟩ := Prod.mk.inj hmethods
  refine ⟨module, s, hmodule, hs, hnames, fun m hm => ⟨fun d hd => readsBack_of_usesDotted
    (usesDotted_of_declaredBy (fun body hbody => ?_) hd), fun body hbody => ?_⟩⟩
  · rw [hbody] at hdotted
    exact hdotted
  · have herror := List.all_eq_true.1 herror m hm
    rw [hbody] at herror
    cases herror

end Expansion

end ServiceStubs
