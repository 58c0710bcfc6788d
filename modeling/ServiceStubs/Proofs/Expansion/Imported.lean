import ServiceStubs.Proofs.Expansion.Sessions
import ServiceStubs.Proofs.Schema.Methods
import ServiceStubs.Proofs.Text.Mentions

/-!
# Imports of the aliases that generated code uses

Not every fragment asks for the imports of all aliases that stand in its lines: the interface and
the client leave some to the constants and the factory beside them. What counts is the block of the
imports of the whole module. A service needs all imports. The methods of a server use the runtime,
and `typing` where an annotation is missing; any other alias that stands in their lines was written
by the author of the module.

## Main definitions

* `Expansion.ImportBlock`: the import lines among the edits of a module
* `Expansion.Authored`: a name that the definition of a method holds as it was written

## Main statements

* `Expansion.mentions_serverMethods`: the aliases in the lines that a server gains
* `Expansion.Draft.imports_complete`: the import lines of a module
-/

namespace ServiceStubs

namespace Expansion

open Schema Text
open ServiceStubs.Tree

/-! ### The methods that a server gains -/

section ServerMethods

variable {m : Method} {line text : String} {i : Import}

/-- No alias stands in the text. -/
def isSilent (text : String) : Bool := Import.all.all fun i => !decide (Mentions text i.shortName)

/-- No alias stands in the text, and it ends with a character that ends a name. -/
def opens (text : String) : Bool := isSilent text && text.toList.getLast?.any isGap

/-- No alias stands in the text, and it starts with a character that ends a name. -/
def closes (text : String) : Bool := isSilent text && text.toList.head?.any isGap

theorem not_mentions (h : isSilent text = true) : ¬ Mentions text i.shortName := by
  simpa using List.all_eq_true.mp h i i.mem_all

theorem mentions_of_closes {a after : String} (h : closes after = true)
    (hmentions : Mentions (a ++ after) i.shortName) : Mentions a i.shortName := by
  rw [closes, Bool.and_eq_true] at h
  obtain ⟨c, hc, hgap⟩ := (Option.any_eq_true _ _).mp h.2
  exact (mentions_append (.starts (by rwa [hc])) hmentions).resolve_right (not_mentions h.1)

theorem mentions_of_opens {before b : String} (h : opens before = true)
    (hmentions : Mentions (before ++ b) i.shortName) : Mentions b i.shortName := by
  rw [opens, Bool.and_eq_true] at h
  obtain ⟨c, hc, hgap⟩ := (Option.any_eq_true _ _).mp h.2
  exact (mentions_append (.ends (by rwa [hc])) hmentions).resolve_left (not_mentions h.1)

theorem mentions_of_separates {a between b : String} (h : (opens between && closes between) = true)
    (hmentions : Mentions (a ++ between ++ b) i.shortName) :
    Mentions a i.shortName ∨ Mentions b i.shortName := by
  rw [Bool.and_eq_true] at h
  have hends : between.toList.getLast?.any isGap = true := by
    rw [opens, Bool.and_eq_true] at h
    exact h.1.2
  exact (mentions_append (.ends_append hends) hmentions).imp_left (mentions_of_closes h.2 ·)

theorem eq_runtime_of_mentions
    (h : Import.all.all (fun i => !decide (Mentions text i.shortName) || i == .runtime) = true)
    (hmentions : Mentions text i.shortName) : i = .runtime := by
  simpa [hmentions] using List.all_eq_true.mp h i i.mem_all

theorem shortName_ne_empty (i : Import) : i.shortName ≠ "" := by
  cases i <;> decide

/-- The alias stands in one of the texts that make up a method. -/
inductive MentionedIn (m : Method) (i : Import) : Prop
  | name (h : Mentions m.name i.shortName)
  | parameter {p : Parameter} (hp : p ∈ m.parameters) (h : Mentions p.name i.shortName)
  | type {p : Parameter} (hp : p ∈ m.parameters) (h : Mentions p.type i.shortName)
  | result {t : String} (ht : m.returnType = some t) (h : Mentions t i.shortName)

/-- No alias is the name of a method that talks to the transport. -/
theorem not_mentions_transportName (hname : Token.IsName m.name) :
    ¬ Mentions m.transportName i.shortName := by
  intro h
  have hparts : ∀ c ∈ m.transportName.toList, isIdentifierPart c = true := by
    have hsuffix : ∀ c ∈ "_grpc".toList, isIdentifierPart c = true :=
      List.all_eq_true.mp (by decide)
    intro c hc
    rw [Method.transportName, String.toList_append, List.mem_append] at hc
    exact hc.elim (isIdentifierPart_of_mem hname.1 ·) (hsuffix c ·)
  have hsame : i.shortName.toList = m.name.toList ++ "_grpc".toList := by
    rw [eq_of_mentions hparts h, Method.transportName, String.toList_append]
  have hne : m.name.toList ≠ [] := fun hnil => by simpa [hnil] using hname.1
  have hlength : 5 < i.shortName.toList.length := by
    have hpos := List.length_pos_iff.mpr hne
    rw [hsame, List.length_append, show "_grpc".toList.length = 5 by decide]
    omega
  have hsuffix : "_grpc".toList <:+ i.shortName.toList := ⟨_, hsame.symm⟩
  revert hlength hsuffix
  cases i <;> decide

theorem mentions_tupleType {types : List String} (h : Mentions (Code.tupleType types) i.shortName) :
    ∃ t ∈ types, Mentions t i.shortName := by
  unfold Code.tupleType at h
  split at h
  · exact absurd h (not_mentions (by decide))
  · have hmembers := mentions_of_separates (by decide) (mentions_of_closes (by decide) h)
    exact mentions_commaSeparated (shortName_ne_empty i)
      (hmembers.resolve_left (not_mentions (by decide)))

theorem mentions_responseType (h : Mentions m.responseType i.shortName) : MentionedIn m i := by
  cases hreturns : m.returnType with
  | none =>
    rw [Method.responseType, hreturns] at h
    exact absurd h (not_mentions (by decide))
  | some t =>
    rw [Method.responseType, hreturns] at h
    exact .result hreturns h

theorem mentions_transportParameters {text : String} (htext : text ∈ transportParameters m)
    (h : Mentions text i.shortName) : i = .runtime ∨ MentionedIn m i := by
  simp only [transportParameters, List.mem_cons, List.not_mem_nil, or_false] at htext
  rcases htext with rfl | rfl | rfl | rfl
  · exact absurd h (not_mentions (by decide))
  · exact .inl (eq_runtime_of_mentions (by decide) h)
  · obtain ⟨t, ht, h⟩ := mentions_tupleType (mentions_of_opens (by decide) h)
    obtain ⟨p, hp, rfl⟩ := List.mem_map.mp ht
    exact .inr (.type hp h)
  · rcases mentions_append (.ends (by decide)) (mentions_of_closes (by decide) h) with h | h
    · exact .inl (eq_runtime_of_mentions (by decide) h)
    · exact .inr (mentions_responseType h)

theorem mentions_argumentNames (h : Mentions (Code.commaSeparated m.argumentNames) i.shortName) :
    MentionedIn m i := by
  obtain ⟨n, hn, h⟩ := mentions_commaSeparated (shortName_ne_empty i) h
  obtain ⟨p, hp, rfl⟩ := List.mem_map.mp hn
  exact .parameter hp h

theorem mentions_tupleTarget (h : Mentions (Code.tupleTarget m.argumentNames) i.shortName) :
    MentionedIn m i := by
  unfold Code.tupleTarget at h
  split at h
  · next n hnames =>
    obtain ⟨p, hp, rfl⟩ := List.mem_map.mp (hnames ▸ List.mem_singleton_self n : n ∈ m.argumentNames)
    exact .parameter hp (mentions_of_opens (by decide) (mentions_of_closes (by decide) h))
  · exact mentions_argumentNames (mentions_of_opens (by decide) (mentions_of_closes (by decide) h))

/-- What stands in an indented line stands in the line. -/
theorem exists_of_mentions_indent {ls : List String} (hline : line ∈ Code.indent ls)
    (h : Mentions line i.shortName) : ∃ l ∈ ls, Mentions l i.shortName := by
  obtain ⟨l, hl, rfl⟩ := List.mem_map.mp hline
  refine ⟨l, hl, ?_⟩
  split at h
  · exact h
  · exact mentions_of_opens (by decide) h

/-- **The aliases in the lines of a method that a server gains** are the runtime and those that
stand in the method as it was authored. -/
theorem mentions_serverMethod (hname : Token.IsName m.name) (hline : line ∈ (serverMethod m).lines)
    (h : Mentions line i.shortName) : i = .runtime ∨ MentionedIn m i := by
  dsimp only [serverMethod] at hline
  rw [Code.function, if_neg (by simp), List.mem_cons] at hline
  rcases hline with rfl | hline
  · -- the signature: its name, its parameters and its result
    rcases mentions_of_separates (by decide) (mentions_of_closes (by decide) h) with h | h
    · rcases mentions_of_separates (by decide) h with h | h
      · exact absurd (mentions_of_opens (by decide) h) (not_mentions_transportName hname)
      · obtain ⟨text, htext, h⟩ := mentions_commaSeparated (shortName_ne_empty i) h
        exact mentions_transportParameters htext h
    · exact absurd h (not_mentions (by decide))
  · obtain ⟨l, hl, h⟩ := exists_of_mentions_indent hline h
    right
    rcases List.mem_append.mp hl with hl | hl
    · -- the request is taken apart
      split at hl
      · cases hl
      · obtain rfl := List.mem_singleton.mp hl
        exact mentions_tupleTarget (mentions_of_closes (by decide) h)
    · rcases List.mem_cons.mp hl with rfl | hl
      · -- the authored method is called
        rcases mentions_of_separates (by decide) (mentions_of_closes (by decide) h) with h | h
        · exact .name (mentions_of_opens (by decide) h)
        · exact mentions_argumentNames h
      · obtain rfl := List.mem_singleton.mp hl
        exact absurd h (not_mentions (by decide))

end ServerMethods

/-! ### What the author of a method wrote -/

/-- The texts of a definition that generated lines repeat: its name, the names of its parameters,
and its annotations as they were written. -/
def authoredTexts (f : Definition) : List String :=
  f.name :: f.parameterNames ++
    (f.params.filterMap (·.type) ++ f.returns.toList).filterMap (·.text.toOption)

/-- The name stands in the definition of the method as it was written. -/
def Authored (source : String) (m : Method) (name : String) : Prop :=
  ∃ body owner f, Grammar.readModule source.toList = .ok body ∧ DefinedIn body owner f ∧
    readMethod owner f = .ok m ∧ ∃ text ∈ authoredTexts f, Mentions text name

/-- A parameter of the method, behind the receiver, was written without annotation. -/
def Untyped (source : String) (m : Method) : Prop :=
  ∃ body owner f, Grammar.readModule source.toList = .ok body ∧ DefinedIn body owner f ∧
    readMethod owner f = .ok m ∧ ∃ p ∈ f.params.tail, p.type = none

section Authored

variable {source owner : String} {f : Definition} {m : Method} {i : Import}

theorem mem_authoredTexts_of_type {p : Param} (hp : p ∈ f.params) {e : Expr} (htype : p.type = some e)
    {text : String} (htext : writtenForm e.text = .ok text) : text ∈ authoredTexts f := by
  refine List.mem_append_right _ (List.mem_filterMap.mpr ⟨e, ?_, ?_⟩)
  · exact List.mem_append_left _ (List.mem_filterMap.mpr ⟨p, hp, htype⟩)
  · rw [text_of_writtenForm htext]
    rfl

theorem mem_authoredTexts_of_returns {text : String}
    (hreturns : readReturns f.returns = .ok (some text)) :
    text ∈ authoredTexts f := by
  refine List.mem_append_right _ (List.mem_filterMap.mpr ?_)
  cases he : f.returns with
  | none =>
    rw [he] at hreturns
    cases hreturns
  | some e =>
    refine ⟨e, List.mem_append_right _ (by simp), ?_⟩
    rw [he] at hreturns
    unfold readReturns at hreturns
    split at hreturns
    · cases hreturns
    · cases hreturns
    · next he' =>
      obtain rfl := Option.some.inj he'
      obtain ⟨s, hs, hsome⟩ := exists_text_of_map hreturns
      obtain rfl := Option.some.inj hsome
      rw [hs]
      rfl

/-- **An alias in a method as it was read** was written by its author, or it stands for a missing
annotation. -/
theorem mentions_authoredTexts (hread : readMethod owner f = .ok m) (h : MentionedIn m i) :
    (∃ text ∈ authoredTexts f, Mentions text i.shortName) ∨
    i = .typing ∧ ∃ q ∈ m.parameters, q.type = anyType := by
  obtain ⟨-, hname, -, -, ⟨receiver, others, hparams, -, hparameters⟩, hreturns, -⟩ :=
    readMethod_eq_ok_iff.mp hread
  cases h with
  | name h => exact .inl ⟨f.name, List.mem_cons_self, hname ▸ h⟩
  | @parameter q hq h =>
    obtain ⟨p, hp, hread⟩ := (exists_of_forall₂ hparameters).2 q hq
    have hmem : p ∈ f.params := hparams ▸ List.mem_cons_of_mem _ hp
    refine .inl ⟨p.name, ?_, (readParameter_eq_ok_iff.mp hread).1 ▸ h⟩
    exact List.mem_cons_of_mem _ (List.mem_append_left _ (List.mem_map_of_mem hmem))
  | @type q hq h =>
    obtain ⟨p, hp, hread⟩ := (exists_of_forall₂ hparameters).2 q hq
    have hmem : p ∈ f.params := hparams ▸ List.mem_cons_of_mem _ hp
    have htype := (readParameter_eq_ok_iff.mp hread).2.2.1
    cases he : p.type with
    | none =>
      rw [he] at htype
      obtain hany : anyType = q.type := Except.ok.inj htype
      refine .inr ⟨?_, q, hq, hany.symm⟩
      rw [← hany] at h
      revert h
      cases i <;> decide
    | some e =>
      rw [he] at htype
      exact .inl ⟨q.type, mem_authoredTexts_of_type hmem he htype, h⟩
  | result ht h => exact .inl ⟨_, mem_authoredTexts_of_returns (ht ▸ hreturns), h⟩

theorem typing_mem_typeImports {q : Parameter} (hq : q ∈ m.parameters) (htype : q.type = anyType) :
    .typing ∈ typeImports m := by
  have hoccurs : occursIn anyType.toList anyType.toList = true := by decide
  rw [typeImports, if_pos (List.any_eq_true.mpr ⟨q, hq, htype ▸ hoccurs⟩)]
  exact List.mem_singleton_self _

theorem typing_mem_typeImports_of_untyped (h : Untyped source m) : .typing ∈ typeImports m := by
  obtain ⟨_, _, f, -, -, hread, p, hp, hnone⟩ := h
  obtain ⟨receiver, others, hparams, -, hparameters⟩ := (readMethod_eq_ok_iff.mp hread).parameters
  rw [hparams, List.tail_cons] at hp
  obtain ⟨q, hq, hread⟩ := (exists_of_forall₂ hparameters).1 p hp
  have htype := (readParameter_eq_ok_iff.mp hread).2.2.1
  rw [hnone] at htype
  exact typing_mem_typeImports hq (Except.ok.inj htype).symm

end Authored

/-! ### The block of import lines -/

/-- The lines that are added with the priority of imports, by edits. -/
def importBlocks (edits : List Edit) : List (List String) :=
  (edits.filter (·.priority == 1)).map (·.lines)

/-- The lines import the modules once each, in the one order of imports, with an empty line behind
them and perhaps one in front. -/
structure IsImportBlock (imports : List Import) (lines : List String) : Prop where
  ordered : imports.Sublist Import.all
  shape : ∃ gap ∈ [[], [""]], lines = gap ++ imports.map Import.line ++ [""]
  once : ∀ i ∈ imports, lines.count i.line = 1

theorem Import.line_injective : Function.Injective Import.line := by
  intro i j
  cases i <;> cases j <;> decide

theorem isImportBlock {requested : List Import} {gap : List String} (hgap : gap ∈ [[], [""]]) :
    IsImportBlock (Import.all.filter requested.contains) (gap ++ Import.lines requested ++ [""]) := by
  refine ⟨List.filter_sublist, ⟨gap, hgap, rfl⟩, fun i hi => ?_⟩
  have hnodup : (Import.lines requested).Nodup :=
    (List.Nodup.filter _ (by decide)).map Import.line_injective
  have hmem : i.line ∈ Import.lines requested := List.mem_map_of_mem hi
  have hempty : [""].count i.line = 0 := by cases i <;> decide
  have hnone : gap.count i.line = 0 := by
    rcases List.mem_cons.mp hgap with rfl | hgap
    · rfl
    · rwa [List.mem_singleton.mp hgap]
  rw [List.count_append, List.count_append, hnone, hempty, List.count_eq_one_of_mem hnodup hmem]

/-- The methods that a fragment is about. -/
def Emission.methods : Emission → List Method
  | .constants s | .interface s | .factory s | .client s | .service s => s.methods
  | .clientMethods _ m | .serverMethod m => [m]
  | .serverMethods s => s.methods

/-- The imports supply a fragment of the module: every alias in its lines is imported, unless the
author of a method wrote it there, and so is what stands for missing annotations. -/
structure Supplies (source : String) (e : Emission) (imports : List Import) : Prop where
  aliases : ∀ line ∈ e.fragment.lines, ∀ i, Mentions line i.shortName →
    i ∈ imports ∨ ∃ m ∈ e.methods, Authored source m i.shortName
  untyped : ∀ m ∈ e.methods, Untyped source m → .typing ∈ imports

namespace Draft

variable {source filename : String} {d : Draft}

theorem eq_of_ofSource (h : ofSource source filename = .ok d) :
    Module.ofSource source = .ok d.declared ∧ d.edits = none ∧ d.requested = [] := by
  obtain ⟨declared, hdeclared, hd⟩ := exists_of_bind h
  obtain rfl := Except.ok.inj hd
  exact ⟨hdeclared, rfl, rfl⟩

/-- A method of the module has a name. -/
theorem isName_of_mem_methods (h : Module.ofSource source = .ok d.declared) {m : Method}
    (hm : m ∈ d.declared.methods) : Token.IsName m.name := by
  obtain ⟨body, owner, f, hbody, ⟨_, _, _, _, _, hclass, s, hs, hf⟩, hread⟩ := exists_definition h hm
  rw [(readMethod_eq_ok_iff.mp hread).name]
  exact (declarable_of_mem hbody hclass hs hf).1

/-- A method that a server gains is supplied by the runtime and the imports of its annotations. -/
theorem supplied_serverMethod (h : Module.ofSource source = .ok d.declared) {m : Method}
    (hm : m ∈ d.declared.methods) {imports : List Import} (hruntime : .runtime ∈ imports)
    (htypes : typeImports m ⊆ imports) {line : String} (hline : line ∈ (serverMethod m).lines)
    {i : Import}
    (hmentions : Mentions line i.shortName) : i ∈ imports ∨ Authored source m i.shortName := by
  rcases mentions_serverMethod (isName_of_mem_methods h hm) hline hmentions with rfl | hmentions
  · exact .inl hruntime
  · obtain ⟨body, owner, f, hbody, hdefined, hread⟩ := exists_definition h hm
    rcases mentions_authoredTexts hread hmentions with hauthored | ⟨rfl, q, hq, htype⟩
    · exact .inr ⟨body, owner, f, hbody, hdefined, hread, hauthored⟩
    · exact .inl (htypes (typing_mem_typeImports hq htype))

theorem full_eq_of_service {s : Service} (hs : s ∈ d.declared.services) :
    Import.all.filter d.full.contains = Import.all :=
  List.filter_eq_self.mpr fun i _ => List.contains_iff_mem.mpr (mem_full_of_service hs i)

/-- The fragment is about methods of the module. -/
theorem methods_subset {e : Emission} (he : d.Owns e) : e.methods ⊆ d.declared.methods := by
  cases e with
  | constants s | interface s | factory s | client s | service s =>
    exact fun m hm => List.mem_append_left _ (List.mem_flatMap.mpr ⟨s, he, hm⟩)
  | clientMethods s m => exact List.cons_subset.mpr ⟨he.2, List.nil_subset _⟩
  | serverMethod m => exact List.cons_subset.mpr ⟨he, List.nil_subset _⟩
  | serverMethods s => exact fun m hm => List.mem_append_right _ (List.mem_flatMap.mpr ⟨s, he, hm⟩)

/-- What a method of the module needs is among the imports of the full expansion. -/
theorem needs_subset_full {m : Method} (hm : m ∈ d.declared.methods) :
    .runtime ∈ d.full ∧ typeImports m ⊆ d.full := by
  refine ⟨?_, imports_subset_full (e := .serverMethod m) hm⟩
  rcases List.mem_append.mp hm with hm | hm <;> obtain ⟨s, hs, -⟩ := List.mem_flatMap.mp hm
  · exact mem_full_of_service hs _
  · exact mem_full_of_server hs List.mem_cons_self

/-- **The imports of the full expansion supply all fragments** of the module. -/
theorem supplies_full (h : Module.ofSource source = .ok d.declared) {e : Emission} (he : d.Owns e) :
    Supplies source e (Import.all.filter d.full.contains) := by
  have hmem {i : Import} (hi : i ∈ d.full) : i ∈ Import.all.filter d.full.contains :=
    List.mem_filter.mpr ⟨i.mem_all, List.contains_iff_mem.mpr hi⟩
  have hserved {m : Method} (hm : m ∈ d.declared.methods) {line : String}
      (hline : line ∈ (serverMethod m).lines) {i : Import} (hmentions : Mentions line i.shortName) :
      i ∈ Import.all.filter d.full.contains ∨ Authored source m i.shortName :=
    supplied_serverMethod h hm (hmem (needs_subset_full hm).1)
      (fun i hi => hmem ((needs_subset_full hm).2 hi))
      hline hmentions
  refine ⟨fun line hline i hmentions => ?_, fun m hm huntyped => ?_⟩
  · cases e with
    | constants s | interface s | factory s | client s | service s =>
        exact .inl (hmem (mem_full_of_service he i))
    | clientMethods s m => exact .inl (hmem (mem_full_of_service he.1 i))
    | serverMethod m =>
      exact (hserved he hline hmentions).imp_right fun hauthored =>
        ⟨m, List.mem_singleton_self m, hauthored⟩
    | serverMethods s =>
      obtain ⟨f, hf, hline⟩ := List.mem_flatMap.mp hline
      obtain ⟨m, hm, rfl⟩ := List.mem_map.mp hf
      rcases List.mem_cons.mp hline with rfl | hline
      · exact absurd hmentions (not_mentions (by decide))
      · exact (hserved (methods_subset he hm) hline hmentions).imp_right fun hauthored =>
          ⟨m, hm, hauthored⟩
  · exact hmem ((needs_subset_full (methods_subset he hm)).2
      (typing_mem_typeImports_of_untyped huntyped))

theorem importBlocks_append (edits edits' : List Edit) :
    importBlocks (edits ++ edits') = importBlocks edits ++ importBlocks edits' := by
  rw [importBlocks, List.filter_append, List.map_append]
  rfl

theorem importBlocks_of_plain {edits : List Edit} (h : ∀ e ∈ edits, e.priority = 0) :
    importBlocks edits = [] := by
  rw [importBlocks, List.filter_eq_nil_iff.mpr fun e he => by simp [h e he]]
  rfl

/-- The edits of declarations are no imports. -/
theorem priority_declarationEdits {e : Edit}
    (he : e ∈ d.declared.services.map serviceEdit ++ d.declared.servers.flatMap serverEdits) :
    e.priority = 0 := by
  rcases List.mem_append.mp he with he | he
  · obtain ⟨s, -, rfl⟩ := List.mem_map.mp he
    rfl
  · obtain ⟨s, -, he⟩ := List.mem_flatMap.mp he
    dsimp only [serverEdits] at he
    split at he
    · rw [List.mem_singleton.mp he]
    · rcases List.mem_cons.mp he with rfl | he
      · rfl
      · rw [List.mem_singleton.mp he]

theorem importBlocks_headEdits (hne : d.requested ≠ []) :
    ∃ gap ∈ [[], [""]], importBlocks d.headEdits = [gap ++ Import.lines d.requested ++ [""]] := by
  have hgap (c : Prop) [Decidable c] : (if c then [""] else []) ∈ [[], [""]] := by
    split <;> simp
  refine ⟨_, hgap (bannerLine d.sourceLines < max d.declared.importLine (bannerLine d.sourceLines)), ?_⟩
  dsimp only [headEdits]
  rw [if_neg (by simpa using hne)]
  rfl

/-- **Every alias that generated code uses is imported.** Whatever an accepted module's expansion
was asked for before, its edits are the same. They hold one block of import lines, once each and in
their one order, which supplies every fragment of the module; with a service it has all of them, and
with a server the runtime. -/
theorem imports_complete (haccepted : ofSource source filename = .ok d) :
    ∃ edits, (∀ calls, (∀ c ∈ calls, d.Permits c) → (d.run calls).1.complete.edits = some edits) ∧
      ∀ e, d.Owns e → ∃ imports lines, importBlocks edits = [lines] ∧ IsImportBlock imports lines ∧
        (d.declared.services ≠ [] → imports = Import.all) ∧ .runtime ∈ imports ∧
        Supplies source e imports := by
  obtain ⟨hdeclared, hnone, hrequested⟩ := eq_of_ofSource haccepted
  have hcomplete := congrArg Draft.edits (complete_of_none hnone)
  refine ⟨d.declared.services.map serviceEdit ++ d.declared.servers.flatMap serverEdits ++
    ({ d with requested := d.requested ++ d.full } : Draft).headEdits, fun calls hcalls => ?_,
      fun e he => ?_⟩
  · have hfollows := (follows_run (.refl hnone hrequested) hnone hrequested hcalls).1
    rw [hfollows.edits_complete hnone hrequested, hcomplete]
  · have hruntime : .runtime ∈ d.full := by
      cases e with
      | constants s | interface s | factory s | client s | service s => exact mem_full_of_service he _
      | clientMethods s m => exact mem_full_of_service he.1 _
      | serverMethod m => exact (needs_subset_full he).1
      | serverMethods s => exact mem_full_of_server he List.mem_cons_self
    rw [hrequested, List.nil_append, importBlocks_append,
      importBlocks_of_plain fun e he => priority_declarationEdits he, List.nil_append]
    obtain ⟨gap, hgap, hblocks⟩ := importBlocks_headEdits (d := { d with requested := d.full })
      (List.ne_nil_of_mem hruntime)
    refine ⟨_, _, hblocks, isImportBlock hgap, fun hne => ?_, ?_, supplies_full hdeclared he⟩
    · obtain ⟨s, hs⟩ := List.exists_mem_of_ne_nil _ hne
      exact full_eq_of_service hs
    · exact List.mem_filter.mpr ⟨Import.mem_all _, List.contains_iff_mem.mpr hruntime⟩

/-- A server that uses an annotation of its own beside a missing one: `typing` is imported, `abc` is
not. -/
def untypedSource : String :=
  "from grpc_stub_generator import server\n@server\nclass S:\n def f(self, x, y: _abc.ABC): ...\n"

/-- In a session that asks for the methods of the server and for the text, they are the import
lines. -/
theorem imports_complete_untyped :
    ∃ d s edits imports, ofSource untypedSource "a.py" = .ok d ∧ s ∈ d.declared.servers ∧
      (d.run [.emit (.serverMethods s), .text]).1.complete.edits = some edits ∧
      importBlocks edits = [[Import.line .typing, Import.line .runtime, ""]] ∧
      IsImportBlock imports [Import.line .typing, Import.line .runtime, ""] ∧
      Supplies untypedSource (.serverMethods s) imports := by
  have hread : (ofSource untypedSource "a.py").toOption.map
      (fun d => (d.declared.servers.isEmpty, importBlocks (d.complete.edits.getD []))) =
        some (false, [[Import.line .typing, Import.line .runtime, ""]]) := by
    rw [Draft.ofSource_eq (show untypedSource.toList = _ from String.toList_ofList)]
    decide +kernel
  obtain ⟨d, hd, hvalues⟩ := exists_of_toOption_map hread
  obtain ⟨hservers, hblocks⟩ := Prod.mk.inj hvalues
  obtain ⟨s, hs⟩ := List.isEmpty_eq_false_iff_exists_mem.1 hservers
  obtain ⟨edits, hedits, hsupplied⟩ := imports_complete hd
  have hcomplete : d.complete.edits = some edits := hedits [] (by simp)
  rw [hcomplete, Option.getD_some] at hblocks
  obtain ⟨imports, lines, hlines, hblock, -, -, hsupplies⟩ := hsupplied (.serverMethods s) hs
  obtain rfl := List.singleton_inj.mp (hlines.symm.trans hblocks)
  refine ⟨d, s, edits, imports, hd, hs, hedits _ fun c hc => ?_, hblocks, hblock, hsupplies⟩
  rcases List.mem_cons.mp hc with rfl | hc
  · exact hs
  · rw [List.mem_singleton.mp hc]
    trivial

end Draft

end Expansion

end ServiceStubs
