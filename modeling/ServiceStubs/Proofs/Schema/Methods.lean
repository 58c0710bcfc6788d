import ServiceStubs.Proofs.Schema.Parameters

/-!
# What a definition is read as

Which methods a definition is read as is said field by field, and it is said in both directions: a
definition that fits a method in every field is read as that method. So a definition that was
changed is read as the same method if no field depends on the change.

## Main definitions

* `Schema.IsReadAs`: a definition and the method that it declares
* `Schema.Method.HasFreeNames`, `Schema.Service.HasFreeNames`: names that are read where they are
  written

## Main statements

* `Schema.readParameter_eq_ok_iff`, `Schema.readMethod_eq_ok_iff`: what is read
* `Schema.exists_class`, `Schema.declarable_of_mem`: the class of a service and what it defines
-/

namespace ServiceStubs

namespace Schema

open ServiceStubs.Tree

section Methods

variable {owner method : String} {d : Definition} {m : Method}

/-! ### Parameters -/

/-- The type that stands for an annotation. -/
def writtenType : Option Expr → Except Failure String
  | some e => writtenForm e.text
  | none => pure anyType

/-- The text that stands for a default. -/
def writtenDefault : Option Expr → Except Failure (Option String)
  | some e => some <$> writtenForm e.text
  | none => pure none

theorem readParameter_eq {p : Param} (h : p.name ∉ reservedNames) :
    readParameter method p = (do
      let type ← writtenType p.type
      let defaultValue ← writtenDefault p.defaultValue
      pure ⟨p.name, type, defaultValue⟩) := by
  rw [readParameter, if_neg (by simpa using h)]
  cases p.type <;> cases p.defaultValue <;> rfl

/-- **What a parameter is read as.** -/
theorem readParameter_eq_ok_iff {p : Param} {q : Parameter} : readParameter method p = .ok q ↔
    q.name = p.name ∧ p.name ∉ reservedNames ∧ writtenType p.type = .ok q.type ∧
      writtenDefault p.defaultValue = .ok q.defaultValue := by
  constructor
  · intro h
    have hreserved := (name_of_readParameter h).2
    rw [readParameter_eq hreserved] at h
    obtain ⟨type, htype, h⟩ := exists_of_bind h
    obtain ⟨defaultValue, hdefault, h⟩ := exists_of_bind h
    obtain rfl := Except.ok.inj h
    exact ⟨rfl, hreserved, htype, hdefault⟩
  · rintro ⟨hname, hreserved, htype, hdefault⟩
    rw [readParameter_eq hreserved, htype, hdefault, ← hname]
    rfl

theorem text_of_writtenForm {text : Except Unwritable String} {s : String}
    (h : writtenForm text = .ok s) : text = .ok s := by
  cases text with
  | error => cases h
  | ok t => exact congrArg _ (Except.ok.inj h)

theorem exists_text_of_map {text : Except Unwritable String} {o : Option String}
    (h : some <$> writtenForm text = .ok o) : ∃ s, text = .ok s ∧ o = some s := by
  cases text with
  | error => cases h
  | ok s => exact ⟨s, rfl, (Except.ok.inj h).symm⟩

theorem isSome_of_writtenDefault {o : Option Expr} {v : Option String}
    (h : writtenDefault o = .ok v) : o.isSome = v.isSome := by
  cases o with
  | none =>
    obtain rfl := Except.ok.inj h
    rfl
  | some e =>
    obtain ⟨s, -, rfl⟩ := exists_text_of_map h
    rfl

/-! ### Methods -/

/-- Neither the method nor a parameter is called like a reserved word. A source can call them so in
other characters. -/
structure Method.HasFreeNames (m : Method) : Prop where
  name : m.name ∉ Token.keywords
  arguments : ∀ n ∈ m.argumentNames, n ∉ Token.keywords

/-- Neither the service nor anything of its methods is called like a reserved word. -/
structure Service.HasFreeNames (s : Service) : Prop where
  name : s.name ∉ Token.keywords
  methods : ∀ m ∈ s.methods, m.HasFreeNames

/-- The method that a definition declares. -/
structure IsReadAs (owner : String) (d : Definition) (m : Method) : Prop where
  sync : d.isAsync = false
  name : m.name = d.name
  decorators : List.Forall₂ (fun c text => readDecorator (owner ++ "." ++ d.name) c = .ok text)
    d.decorators m.decorators
  positional : ∀ p ∈ d.params, IsPositional p
  parameters : ∃ receiver others, d.params = receiver :: others ∧ receiver.name = "self" ∧
    List.Forall₂ (fun p q => readParameter (owner ++ "." ++ d.name) p = .ok q) others m.parameters
  returns : readReturns d.returns = .ok m.returnType
  docstring : m.docstring = docstringOf d.body
  position : m.position = d.start
  positionalOnly : m.positionalOnly = (d.params.filter (·.kind == .positional)).length - 1

theorem mapM_of_forall₂ {α β : Type} {f : α → Except Failure β} {as : List α} {bs : List β}
    (h : List.Forall₂ (fun a b => f a = .ok b) as bs) : as.mapM f = .ok bs := by
  induction h with
  | nil => rfl
  | cons hab _ ih =>
    rw [List.mapM_cons, hab, ih]
    rfl

theorem checkKinds_eq_ok {params : List Param} (h : ∀ p ∈ params, IsPositional p) :
    checkKinds method params = .ok () := by
  have hnone (kind : ParamKind) (hother : kind ≠ .positional ∧ kind ≠ .plain) :
      params.find? (·.kind == kind) = none := by
    rw [List.find?_eq_none]
    rintro p hp hkind
    obtain rfl : p.kind = kind := by simpa using hkind
    exact (h p hp).elim hother.1 hother.2
  simp only [checkKinds, hnone .rest (by decide), hnone .keywordRest (by decide),
    hnone .keyword (by decide)]
  rfl

/-- **What a definition is read as.** -/
theorem readMethod_eq_ok_iff : readMethod owner d = .ok m ↔ IsReadAs owner d m := by
  constructor
  · intro h
    obtain ⟨receiver, others, hparams, hreceiver, hpositional, hparameters⟩ :=
      exists_receiver_of_readMethod h
    obtain ⟨hname, hsync⟩ := name_of_readMethod h
    unfold readMethod at h
    obtain ⟨-, h⟩ := not_of_check (by rintro u ⟨⟩) h
    obtain ⟨decorators, hdecorators, h⟩ := exists_of_bind h
    obtain ⟨params, -, h⟩ := exists_of_bind h
    obtain ⟨⟨⟩, -, h⟩ := exists_of_bind h
    obtain ⟨parameters, -, h⟩ := exists_of_bind h
    obtain ⟨returnType, hreturns, h⟩ := exists_of_bind h
    obtain rfl := Except.ok.inj h
    exact ⟨hsync, rfl, forall₂_of_mapM hdecorators, hpositional,
      ⟨receiver, others, hparams, hreceiver, hparameters⟩, hreturns, rfl, rfl, rfl⟩
  · rintro ⟨hsync, hname, hdecorators, hpositional, ⟨receiver, others, hparams, hreceiver, hparameters⟩,
      hreturns, hdocstring, hposition, hpositionalOnly⟩
    have hbehind : behindReceiver (owner ++ "." ++ d.name) d.start d.params = .ok others := by
      rw [behindReceiver, positionalOf_eq hpositional, hparams]
      simp [hreceiver, pure, Except.pure]
    rw [readMethod, if_neg (by simp [hsync])]
    simp only [mapM_of_forall₂ hdecorators, hbehind, checkKinds_eq_ok hpositional,
      mapM_of_forall₂ hparameters, hreturns, bind, Except.bind]
    rw [← hdocstring, ← hposition, ← hpositionalOnly, ← hname]
    rfl

end Methods

/-! ### Modules -/

/-- The class in the text that declares a service. -/
theorem exists_class {source : String} {m : Module} (h : Module.ofSource source = .ok m) {s : Service}
    (hs : s ∈ m.services) : ∃ body c, Grammar.readModule source.toList = .ok body ∧
      .stmt c.span (.classDef c.name c.bases c.keywords c.decorators c.body) ∈ body ∧ Reads c s := by
  obtain ⟨body, marked, hbody, hdeclares⟩ := exists_declares h (isEmpty_eq_false_of_mem hs)
  obtain ⟨c, hc, hreads⟩ := hdeclares.exists_reads hs
  obtain ⟨_, hstatement, rfl, -⟩ := (mem_markedClasses_iff hdeclares.classes).mp hc
  exact ⟨body, c, hbody, hstatement, hreads⟩

/-- A class is called by a name. -/
theorem isName_of_mem {source : List Char} {body statements : List Stmt}
    (h : Grammar.readModule source = .ok body) {span : Span} {owner : String} {bases : List Expr}
    {keywords : List Keyword} {decorators : List Decorator}
    (hclass : .stmt span (.classDef owner bases keywords decorators statements) ∈ body) :
    Token.IsName owner := by
  cases Grammar.named_of_readModule h _ hclass with
  | other hother => cases hother
  | classDef hname _ => exact hname

/-- What the body of a class defines has a name and parameters that can be declared. -/
theorem declarable_of_mem {source : List Char} {body statements : List Stmt}
    (h : Grammar.readModule source = .ok body) {span : Span} {owner : String} {bases : List Expr}
    {keywords : List Keyword} {decorators : List Decorator}
    (hclass : .stmt span (.classDef owner bases keywords decorators statements) ∈ body)
    {s : Stmt} (hs : s ∈ statements) {d : Definition} (hd : definition? s = some d) :
    Token.IsName d.name ∧ Grammar.Declarable d.params := by
  cases Grammar.named_of_readModule h _ hclass with
  | other hother => cases hother
  | classDef _ hbody =>
    obtain ⟨span, node⟩ := s
    cases hbody _ hs with
    | function hname hparams _ =>
      obtain rfl := Option.some.inj hd
      exact ⟨hname, hparams⟩
    | classDef => cases hd
    | other hother =>
      rw [definition?_eq_none hother] at hd
      cases hd

end Schema

end ServiceStubs
