import ServiceStubs.Proofs.Expansion.Transport
import ServiceStubs.Proofs.Grammar.Classes
import ServiceStubs.Proofs.Text.Cleaning

/-!
# Docstrings of interfaces, read back

An interface keeps the docstring of its service and those of the methods. Where they stand they have
another margin, and the literal has more lines than the docstring: the closing quotes stand on a
line of their own. Reading removes both, so a docstring is the same again if the literal keeps its
lines and if the margin that is removed is the one that was added.

The whole text of the interface is read, so everything else in it has to be read as well: its bases
and decorators and, twice, the types of its methods.

## Main definitions

* `Expansion.DeclarationReadsBack`: a service whose expressions are read back from their texts
* `Expansion.Block`: what stands in the body of an interface

## Main statements

* `Expansion.stands_transportMethod`, `Expansion.stands_interface`: what was generated, in its place
* `Expansion.docstrings_interface`: the docstrings of an interface
-/

namespace ServiceStubs

namespace Expansion

open Schema Grammar ServiceStubs.Tree

/-! ### Methods that talk to the transport -/

/-- The types of parameters and of the result are read back inside the brackets of a parameter's
type. -/
structure TypesReadBack (d : Definition) : Prop where
  types : ∀ p ∈ d.params, ∀ e ∈ p.type, ∀ text, e.text = .ok text →
    ∃ kinds, Placed 2 (·.expression) expressionEnds text.toList kinds (Alike e)
  returns : ∀ e ∈ d.returns, ∀ text, e.text = .ok text →
    ∃ kinds, Placed 2 (·.expression) expressionEnds text.toList kinds (Alike e)

section Transport

variable {owner : String} {d : Definition} {m : Method}

/-- The annotations of a method are those of the definition, or stand for missing ones. -/
theorem annotationsReadBack (h : IsReadAs owner d m) (hback : TypesReadBack d) :
    AnnotationsReadBack m := by
  refine ⟨fun q hq => ?_, fun text htext => ?_⟩
  · obtain ⟨receiver, others, hparams, -, hparameters⟩ := h.parameters
    obtain ⟨p, hp, hread⟩ := (exists_of_forall₂ hparameters).2 q hq
    obtain ⟨-, -, htype, -⟩ := readParameter_eq_ok_iff.1 hread
    obtain ⟨kinds, hplaced⟩ := placed_type 2 htype fun e he =>
      hback.types p (hparams ▸ List.mem_cons_of_mem _ hp) e he _
    exact ⟨kinds, hplaced.mono fun _ _ => trivial⟩
  · obtain ⟨kinds, hplaced⟩ := placed_result 2 h.returns hback.returns
    rw [Option.mem_def.1 htext] at hplaced
    exact ⟨kinds, hplaced.mono fun _ _ => trivial⟩

/-- **A method that talks to the transport in its place.** -/
theorem stands_transportMethod (h : IsReadAs owner d m) (hname : Token.IsName d.name)
    (hback : ReadsBack d) (htypes : TypesReadBack d) (width : Nat) :
    ∃ kinds, Stands 1 width (transportMethod m) kinds fun _ => True := by
  obtain ⟨id, -, headKinds, hhead⟩ :=
    placed_transportHead (h.name ▸ hname) (annotationsReadBack h htypes)
  have hdecorator := fun text (htext : text ∈ m.decorators ++ [abstractName]) =>
    placed_decorator h hback htext
  choose! decoratorTokens hdecorator using hdecorator
  have hstands : ∃ kinds, Stands 1 width ((m.decorators ++ [abstractName]).map (Code.decorator · []) ++
      Code.function m.transportName (transportParameters m) none
        ((Option.map Text.docstringLines none).getD [])) kinds _ :=
          stands_function hdecorator hhead (by simp)
  obtain ⟨kinds, hstands⟩ := hstands
  rw [transportMethod, abstractDecorators_eq]
  exact ⟨kinds, hstands.mono fun _ _ => trivial⟩

end Transport

/-! ### Headers -/

/-- The bases, the keywords and the decorators of a class are read back where the header of the
interface has them. -/
structure HeaderReadsBack (c : MarkedClass) : Prop where
  bases : ∀ e ∈ c.bases, ∀ text, e.text = .ok text →
    ∃ kinds, Placed 1 argument itemEnds text.toList kinds IsBase
  keywords : ∀ w ∈ c.keywords, ∀ text, w.text = .ok text →
    ∃ kinds, Placed 1 argument itemEnds text.toList kinds IsKeyword
  decorators : ∀ d ∈ c.decorators, ∀ text, d.expr.text = .ok text →
    ∃ kinds, PlacedDecorator text.toList kinds fun _ => True

/-- The bases of an interface, keywords included. -/
def interfaceBases (s : Service) : List String := if s.bases.isEmpty then ["_abc.ABC"] else s.bases

section Header

variable {c : MarkedClass} {s : Service}

/-- The text of an argument of a class, which is a base or a keyword. -/
def argumentText : String ⊕ String → String
  | .inl text | .inr text => text

/-- An argument of a class is read as the base or the keyword that it is. -/
def ClassArgument : String ⊕ String → Argument → Prop
  | .inl _ => IsBase
  | .inr _ => IsKeyword

theorem inOrder_of_forall₂ {bases keywords : List String} {read : List Argument}
    (h : List.Forall₂ ClassArgument (bases.map .inl ++ keywords.map .inr) read) :
    inOrder 0 read = true := by
  obtain ⟨plain, named, hplain, hnamed, rfl⟩ := exists_append_of_forall₂ h
  rw [List.forall₂_map_left_iff] at hplain hnamed
  refine inOrder_append (fun a ha => ?_) (fun a ha => ?_)
  · obtain ⟨_, -, hbase⟩ := (exists_of_forall₂ hplain).2 a ha
    exact hbase
  · obtain ⟨_, -, hkeyword⟩ := (exists_of_forall₂ hnamed).2 a ha
    exact hkeyword

/-- The bases of an interface in their places, keywords behind the others. -/
theorem exists_arguments (h : Reads c s) (hback : HeaderReadsBack c) : ∃ bases keywords : List String,
    interfaceBases s = (bases.map Sum.inl ++ keywords.map Sum.inr).map argumentText ∧
      ∀ a ∈ bases.map Sum.inl ++ keywords.map Sum.inr, ∃ kinds,
        Placed 1 argument itemEnds (argumentText a).toList kinds (ClassArgument a) := by
  by_cases hempty : s.bases = []
  · refine ⟨["_abc.ABC"], [], by simp [interfaceBases, hempty, argumentText], fun a ha => ?_⟩
    obtain rfl := List.mem_singleton.1 ha
    obtain ⟨module, hmodule⟩ := exists_name "_abc" (by decide +kernel)
    obtain ⟨base, hbase⟩ := exists_name "ABC" (by decide +kernel)
    have htext : "_abc.ABC".toList = dottedText module [base] := by simp [dottedText, hmodule, hbase]
    exact ⟨_, htext ▸ placed_base (placed_dotted module [base])⟩
  · obtain ⟨bases, keywords, hbases, hplain, hnamed⟩ := h.bases
    refine ⟨bases, keywords, ?_, fun a ha => ?_⟩
    · rw [interfaceBases, if_neg (by simpa using hempty), hbases]
      simp [argumentText, Function.comp_def]
    rcases List.mem_append.1 ha with ha | ha
    · obtain ⟨text, htext, rfl⟩ := List.mem_map.1 ha
      obtain ⟨e, he, hread⟩ := (exists_of_forall₂ hplain).2 text htext
      exact hback.bases e he text (text_of_writtenForm hread)
    · obtain ⟨text, htext, rfl⟩ := List.mem_map.1 ha
      obtain ⟨w, hw, hread⟩ := (exists_of_forall₂ hnamed).2 text htext
      exact hback.keywords w hw text (text_of_writtenForm hread)

/-- **The header of an interface in its place.** -/
theorem placed_interfaceHeader (h : Reads c s) (hname : Token.IsFree s.name)
    (hback : HeaderReadsBack c) :
    ∃ id : Token.FreeName, id.text = s.name ∧ ∃ kinds,
      PlacedHead (Code.classHeader s.name (interfaceBases s)) kinds fun ds R => IsClass id ds R := by
  obtain ⟨id, hid⟩ := hname.exists_name
  obtain ⟨bases, keywords, htexts, hplaced⟩ := exists_arguments h hback
  have hne : bases.map Sum.inl ++ keywords.map Sum.inr ≠ [] := by
    rintro hnil
    rw [hnil, interfaceBases] at htexts
    split at htexts
    · cases htexts
    · next hbases => exact hbases (by simp [htexts])
  choose! tokens hplaced using hplaced
  have horder (read : List Argument)
      (hread : List.Forall₂ ClassArgument (bases.map Sum.inl ++ keywords.map Sum.inr) read) :
      inOrder 0 read = true := inOrder_of_forall₂ hread
  rw [htexts, ← hid]
  obtain ⟨i, items, hitems⟩ := List.exists_cons_of_ne_nil hne
  rw [hitems] at hplaced horder ⊢
  exact ⟨id, rfl, _, placed_class id argumentText tokens i items hplaced horder⟩

/-- Every decorator of an interface in its place. -/
theorem placed_interfaceDecorator (h : Reads c s) (hback : HeaderReadsBack c) {text : String}
    (htext : text ∈ s.decorators) : ∃ kinds, PlacedDecorator text.toList kinds fun _ => True := by
  obtain ⟨d, hd, hread⟩ := (exists_of_forall₂ h.decorators).2 text htext
  exact hback.decorators d (List.mem_of_mem_eraseIdx hd) text (text_of_writtenForm hread)

end Header

/-! ### Docstrings -/

/-- A cleaned docstring that lasts closes. -/
theorem documents_of_lasts {docstring : Option String} {body : List Stmt}
    (h : docstring = docstringOf body)
    (hlasts : ∀ text ∈ docstring, Text.Lasts text) : Documents docstring := by
  subst h
  intro text htext
  obtain ⟨raw, -, rfl⟩ := Option.map_eq_some_iff.1 htext
  have hlast := hlasts _ htext
  refine ⟨hlast.null, fun line hline => .inl ?_⟩
  obtain ⟨-, hjoined⟩ := Text.exists_trimmed_lines raw hlast.lineFeeds
  rw [hline, List.intercalate_singleton] at hjoined
  exact hjoined

/-- **A docstring that lasts is that of the body that starts with its literal.** -/
theorem docstringOf_cons {docstring : String} {body others : List Stmt} {width : Nat} {s : Stmt}
    (h : some docstring = docstringOf body) (hlasts : Text.Lasts docstring)
    (hs : IsDocstring width docstring s) : docstringOf (s :: others) = some docstring := by
  obtain ⟨raw, -, hclean⟩ := Option.map_eq_some_iff.1 h.symm
  have htext : textOf? s =
      some (String.ofList (Text.literalText width (Text.lines docstring.toList))) := by
    rw [textOf?, hs]
  rw [docstringOf, List.head?_cons, Option.bind_some, htext, Option.map_some,
    Text.cleanDocstring_literalText hclean hlasts]

theorem docstringOf_documentation {docstring : Option String} {body body' : List Stmt} {width : Nat}
    (h : docstring = docstringOf body) (hlasts : ∀ text ∈ docstring, Text.Lasts text)
    (hbody : IsDocumentation width docstring body') : docstringOf body' = docstring := by
  cases docstring with
  | none =>
    obtain ⟨s, rfl, hs⟩ := hbody
    rw [docstringOf, List.head?_cons, Option.bind_some, textOf?, hs]
    rfl
  | some docstring =>
    obtain ⟨s, rfl, hs⟩ := hbody
    exact docstringOf_cons h (hlasts _ rfl) hs

/-! ### Bodies -/

/-- What stands in the body of an interface. -/
inductive Block
  | documentation (docstring : String)
  | declared (method : Method)
  | transport (method : Method)
  | nothing

/-- The lines of a block. -/
def Block.lines : Block → List String
  | documentation docstring => Text.docstringLines docstring
  | declared m => declaredMethod m
  | transport m => transportMethod m
  | nothing => ["pass"]

/-- The blocks of an interface that has any. -/
def blocksOf (s : Service) : List Block :=
  s.docstring.toList.map .documentation ++ s.methods.map .declared ++ s.methods.map .transport

/-- The blocks of an interface. -/
def blocks (s : Service) : List Block := if (blocksOf s).isEmpty then [.nothing] else blocksOf s

theorem lines_ne_nil (b : Block) : b.lines ≠ [] := by
  cases b with
  | documentation docstring =>
    rw [Block.lines, Text.docstringLines]
    split <;> simp
  | declared m => exact List.append_ne_nil_of_left_ne_nil (abstractDecorators_ne_nil m) _
  | transport m => exact List.append_ne_nil_of_left_ne_nil (abstractDecorators_ne_nil m) _
  | nothing => simp [Block.lines]

theorem interfaceBody_eq (s : Service) :
    interfaceBody s = List.intercalate [""] ((blocksOf s).map Block.lines) := by
  have hmethods : s.methods.map declaredMethod ++ s.methods.map transportMethod =
      (s.methods.map Block.declared ++ s.methods.map Block.transport).map Block.lines := by
    simp [Block.lines, Function.comp_def]
  rw [interfaceBody, blocksOf]
  cases hdocstring : s.docstring with
  | none => simpa using congrArg (List.intercalate [""]) hmethods
  | some docstring =>
    have hne : (Text.docstringLines docstring).isEmpty = false :=
      List.isEmpty_eq_false_iff.2 (lines_ne_nil (.documentation docstring))
    simp [hne, hmethods, Block.lines]

/-- The lines of an interface. -/
theorem interface_lines (s : Service) : (interface s).lines =
    s.decorators.map (Code.decorator · []) ++ Code.classHeader s.name (interfaceBases s) ::
      Code.indent (List.intercalate [""] ((blocks s).map Block.lines)) := by
  have hbody : (if (interfaceBody s).isEmpty then ["pass"] else interfaceBody s) =
      List.intercalate [""] ((blocks s).map Block.lines) := by
    rw [interfaceBody_eq, blocks]
    cases hblocks : blocksOf s with
    | nil => rfl
    | cons b others =>
      have hne : (List.intercalate [""] ((b :: others).map Block.lines)).isEmpty = false := by
        rw [List.isEmpty_eq_false_iff]
        rintro hempty
        have hb : b.lines <:+: List.intercalate [""] ((b :: others).map Block.lines) :=
          infix_intercalate List.mem_cons_self
        rw [hempty, List.infix_nil] at hb
        exact lines_ne_nil b hb
      rw [hne]
      rfl
  rw [interface]
  dsimp only
  rw [hbody]
  rfl

/-! ### Interfaces -/

/-- The class declares the service in the source text. -/
def DeclaresService (source : String) (s : Service) (c : MarkedClass) : Prop :=
  ∃ body, readModule source.toList = .ok body ∧
    .stmt c.span (.classDef c.name c.bases c.keywords c.decorators c.body) ∈ body ∧ Reads c s

/-- The expressions in the declaration of a service are read back from their texts. -/
structure DeclarationReadsBack (source : String) (s : Service) : Prop where
  header : ∀ c, DeclaresService source s c → HeaderReadsBack c
  methods : ∀ m ∈ s.methods, ∀ d, DeclaredBy source s m d → ReadsBack d ∧ TypesReadBack d

/-- The docstrings of a service and of its methods stay as they are when their literals are read. -/
structure DocstringsLast (s : Service) : Prop where
  service : ∀ text ∈ s.docstring, Text.Lasts text
  methods : ∀ m ∈ s.methods, ∀ text ∈ m.docstring, Text.Lasts text

/-- The statement is a function of the name of the method with the docstring that the method was
declared with. -/
def IsDocumented (source : String) (s : Service) (m : Method) (t : Stmt) : Prop :=
  ∃ d d', DeclaredBy source s m d ∧ definition? t = some d' ∧ d'.name = m.name ∧
    docstringOf d'.body = docstringOf d.body

/-- What a block is read as. -/
def Block.IsRead (source : String) (s : Service) : Block → Stmt → Prop
  | documentation docstring, t => IsDocstring 4 docstring t
  | declared m, t => IsDocumented source s m t
  | transport _, _ => True
  | nothing, t => t.node = .pass

section Interface

variable {source : String} {module : Module} {s : Service}

/-- **Every block of an interface in its place.** -/
theorem stands_blockLines (h : Module.ofSource source = .ok module) (hs : s ∈ module.services)
    (hfree : s.HasFreeNames) (hback : DeclarationReadsBack source s) (hlasts : DocstringsLast s)
    {c : MarkedClass}
    (hreads : Reads c s) {b : Block} (hb : b ∈ blocks s) :
    ∃ kinds, Stands 1 4 b.lines kinds (b.IsRead source s) := by
  have hmem : b = .nothing ∨ b ∈ blocksOf s := by
    rw [blocks] at hb
    split at hb
    · exact .inl (List.mem_singleton.1 hb)
    · exact .inr hb
  rcases hmem with rfl | hmem
  · have hword : Token.IsWord "pass".toList (.keyword "pass") :=
      ⟨by decide, List.all_eq_true.1 (by decide), 'p', rfl, rfl⟩
    have hscans : Scans 0 "pass".toList [.keyword "pass"] :=
      fun _ _ _ _ _ hrest hout => .keyword hword hrest.endsWord hout
    exact ⟨_, (stands_line (isPlain_of_all (by decide)) ⟨'p', rfl, rfl⟩ hscans rfl
      fun k _ rest => reads_pass).deeper (Nat.zero_le 1)⟩
  simp only [blocksOf, List.mem_append, List.mem_map, Option.mem_toList] at hmem
  rcases hmem with (⟨docstring, hdocstring, rfl⟩ | ⟨m, hm, rfl⟩) | ⟨m, hm, rfl⟩
  · obtain ⟨hnull, hcloses⟩ := documents_of_lasts hreads.docstring hlasts.service docstring hdocstring
    exact ⟨_, (stands_docstring hnull hcloses).deeper (Nat.zero_le 1)⟩
  · obtain ⟨d, hdeclared, hread, hname, hdeclarable⟩ := exists_declaredBy h hs hm
    have hdocuments := documents_of_lasts hread.docstring (hlasts.methods m hm)
    obtain ⟨kinds, hstands⟩ := stands_declaredMethod hread hname hdeclarable
      (hfree.methods m hm) (hback.methods m hm d hdeclared).1 hdocuments 4
    refine ⟨kinds, hstands.mono ?_⟩
    rintro t ⟨d', hd', hredeclared, hbody⟩
    refine ⟨d, d', hdeclared, hd', (name_of_readMethod hredeclared).1.symm, ?_⟩
    rw [docstringOf_documentation hread.docstring (hlasts.methods m hm) hbody, hread.docstring]
  · obtain ⟨d, hdeclared, hread, hname, -⟩ := exists_declaredBy h hs hm
    obtain ⟨hexpressions, htypes⟩ := hback.methods m hm d hdeclared
    exact stands_transportMethod hread hname hexpressions htypes 4

/-- **An interface in its place.** -/
theorem stands_interface (h : Module.ofSource source = .ok module) (hs : s ∈ module.services)
    (hfree : s.HasFreeNames) (hback : DeclarationReadsBack source s) (hlasts : DocstringsLast s)
    {c : MarkedClass} (hc : DeclaresService source s c) (hname : Token.IsName s.name) :
    ∃ kinds, Stands 2 0 (interface s).lines kinds fun t => ∃ bases keywords ds body,
      t.node = .classDef s.name bases keywords ds body ∧
        List.Forall₂ (Block.IsRead source s) (blocks s) body := by
  have ⟨_, _, _, hreads⟩ := hc
  obtain ⟨id, hid, headKinds, hhead⟩ :=
    placed_interfaceHeader hreads ⟨hname, hfree.name⟩ (hback.header c hc)
  have hdecorator := fun text (htext : text ∈ s.decorators) =>
    placed_interfaceDecorator hreads (hback.header c hc) htext
  choose! decoratorTokens hdecorator using hdecorator
  have hblock := fun b (hb : b ∈ blocks s) => stands_blockLines h hs hfree hback hlasts hreads hb
  choose! tokens hblock using hblock
  have hne : blocks s ≠ [] := by
    rw [blocks]
    split
    · simp
    · next hblocks => simpa using hblocks
  have hstands : Stands 2 0 _ _ _ := stands_block [""] Block.lines (blocks s) (by simp) hdecorator
    hhead hne hblock
  rw [interface_lines]
  refine ⟨_, hstands.mono ?_⟩
  rintro t ⟨ds, -, bases, keywords, body, hnode, hbody⟩
  exact ⟨bases, keywords, ds, body, hid ▸ hnode, hbody⟩

theorem textOf?_of_definition {t : Stmt} {d : Definition} (h : definition? t = some d) :
    textOf? t = none := by
  obtain ⟨span, node⟩ := t
  cases node with
  | function => rfl
  | _ => cases h

/-- The docstring of a body that is read as the blocks of an interface. -/
theorem docstringOf_blocks {c : MarkedClass} (hreads : Reads c s) (hlasts : DocstringsLast s)
    {body : List Stmt} (hbody : List.Forall₂ (Block.IsRead source s) (blocks s) body) :
    docstringOf body = s.docstring := by
  cases hdocstring : s.docstring with
  | some docstring =>
    have hblocks : blocks s = .documentation docstring ::
        (s.methods.map .declared ++ s.methods.map .transport) := by
      simp [blocks, blocksOf, hdocstring]
    rw [hblocks] at hbody
    obtain ⟨t, others, ht, -, rfl⟩ := List.forall₂_cons_left_iff.1 hbody
    exact docstringOf_cons (hdocstring ▸ hreads.docstring) (hlasts.service _ hdocstring) ht
  | none =>
    obtain ⟨t, others, ht, rfl⟩ : ∃ t others, textOf? t = none ∧ body = t :: others := by
      cases hmethods : s.methods with
      | nil =>
        have hblocks : blocks s = [.nothing] := by simp [blocks, blocksOf, hdocstring, hmethods]
        rw [hblocks] at hbody
        obtain ⟨t, others, ht, -, rfl⟩ := List.forall₂_cons_left_iff.1 hbody
        exact ⟨t, others, by rw [textOf?, show t.node = .pass from ht], rfl⟩
      | cons m methods =>
        have hblocks : blocks s = .declared m ::
            (methods.map .declared ++ (m :: methods).map .transport) := by
          simp [blocks, blocksOf, hdocstring, hmethods]
        rw [hblocks] at hbody
        obtain ⟨t, others, ⟨d, d', -, hd', -⟩, -, rfl⟩ := List.forall₂_cons_left_iff.1 hbody
        exact ⟨t, others, textOf?_of_definition hd', rfl⟩
    rw [docstringOf, List.head?_cons, Option.bind_some, ht]
    rfl

/-- The statements that the declared methods are read as. -/
theorem exists_documented {body : List Stmt}
    (hbody : List.Forall₂ (Block.IsRead source s) (blocks s) body) :
    ∃ before declared behind, body = before ++ declared ++ behind ∧
      List.Forall₂ (IsDocumented source s) s.methods declared := by
  cases hmethods : s.methods with
  | nil => exact ⟨body, [], [], by simp, .nil⟩
  | cons m methods =>
    have hblocks : blocks s = s.docstring.toList.map .documentation ++ s.methods.map .declared ++
        s.methods.map .transport := by
      simp [blocks, blocksOf, hmethods]
    rw [hblocks] at hbody
    obtain ⟨front, behind, hfront, -, rfl⟩ := exists_append_of_forall₂ hbody
    obtain ⟨before, declared, -, hdeclared, rfl⟩ := exists_append_of_forall₂ hfront
    rw [List.forall₂_map_left_iff, hmethods] at hdeclared
    exact ⟨before, declared, behind, rfl, hdeclared⟩

/-- **The docstrings of an interface are those of the declaration**: the one of the class is that of
the class that declares the service, and the one of every declared method is that of its definition.
-/
theorem docstrings_interface (h : Module.ofSource source = .ok module) (hs : s ∈ module.services)
    (hfree : s.HasFreeNames) (hback : DeclarationReadsBack source s) (hlasts : DocstringsLast s) :
    ∃ c t bases keywords ds body, DeclaresService source s c ∧
      readModule (Text.joinLines (interface s).lines ++ "\n").toList = .ok [t] ∧
      t.node = .classDef s.name bases keywords ds body ∧ docstringOf body = docstringOf c.body ∧
      ∃ before declared behind, body = before ++ declared ++ behind ∧
        List.Forall₂ (IsDocumented source s) s.methods declared := by
  obtain ⟨statements, c, hstatements, hclass, hreads⟩ := exists_class h hs
  have hc : DeclaresService source s c := ⟨statements, hstatements, hclass, hreads⟩
  have hname : Token.IsName s.name := hreads.name ▸ isName_of_mem hstatements hclass
  obtain ⟨kinds, hstands⟩ := stands_interface h hs hfree hback hlasts hc hname
  obtain ⟨t, ht, bases, keywords, ds, body, hnode, hbody⟩ := readModule_of_stands hstands (by decide)
  refine ⟨c, t, bases, keywords, ds, body, hc, ht, hnode, ?_, exists_documented hbody⟩
  rw [docstringOf_blocks hreads hlasts hbody, hreads.docstring]

end Interface

theorem typesReadBack_of_usesDotted {d : Definition} (h : usesDotted d = true) : TypesReadBack d := by
  simp only [usesDotted, Bool.and_eq_true, List.all_eq_true, Option.all_eq_true] at h
  exact ⟨fun p hp e he _ => placed_of_isDotted 2 ((h.1.1 p hp).1 e he),
    fun e he _ => placed_of_isDotted 2 (h.1.2 e he)⟩

/-- **A declaration that uses dotted names only is read back.** -/
theorem declarationReadsBack_of_usesDotted {source : String} {s : Service}
    (hsource : ∀ body, readModule source.toList = .ok body → moduleUsesDotted body = true) :
    DeclarationReadsBack source s := by
  refine ⟨fun c hc => ?_, fun m _ d hd => ?_⟩
  · obtain ⟨body, hbody, hclass, -⟩ := hc
    have hdotted := List.all_eq_true.1 (hsource body hbody) _ hclass
    simp only [classUsesDotted, Stmt.node, Bool.and_eq_true, List.all_eq_true,
      List.isEmpty_iff] at hdotted
    obtain ⟨⟨⟨hbases, hkeywords⟩, hdecorators⟩, -⟩ := hdotted
    refine ⟨fun e he text htext => ?_, by simp [hkeywords], fun d hd text htext => ?_⟩
    · obtain ⟨kinds, hplaced⟩ := placed_of_isDotted 1 (hbases e he) htext
      exact ⟨kinds, placed_base hplaced⟩
    · obtain ⟨kinds, hplaced⟩ := placedDecorator_of_isDotted (hdecorators d hd) htext
      exact ⟨kinds, hplaced.mono fun _ _ => trivial⟩
  · have huses := usesDotted_of_declaredBy hsource hd
    exact ⟨readsBack_of_usesDotted huses, typesReadBack_of_usesDotted huses⟩

/-- A service with a docstring of two lines, a method with a docstring and one without. -/
def documentedSource : String :=
  "from grpc_stub_generator import service\n@service\nclass A:\n 'a\\n b'\n" ++
    " def f(self, x: t.U) -> t.R: 'c'\n def g(self): ...\n"

theorem docstrings_interface_documented : ∃ module s, Module.ofSource documentedSource = .ok module ∧
    s ∈ module.services ∧ s.docstring = some "a\nb" ∧ s.methods.map (·.docstring) = [some "c", none] ∧
    ∃ c t bases keywords ds body, DeclaresService documentedSource s c ∧
      readModule (Text.joinLines (interface s).lines ++ "\n").toList = .ok [t] ∧
      t.node = .classDef s.name bases keywords ds body ∧ docstringOf body = docstringOf c.body ∧
      ∃ before declared behind, body = before ++ declared ++ behind ∧
        List.Forall₂ (IsDocumented documentedSource s) s.methods declared := by
  have hchars : documentedSource.toList = _ := toList_append_eq String.toList_ofList String.toList_ofList
  have hread : (Module.ofSource documentedSource).toOption.map
      (·.services.map fun s => (s.docstring, s.methods.map (·.docstring), s.name,
        s.methods.flatMap fun m => m.name :: m.argumentNames)) =
      some [(some "a\nb", [some "c", none], "A", ["f", "x", "g"])] := by
    rw [Module.ofSource_eq hchars]
    decide +kernel
  have hdotted : (readModule documentedSource.toList).toOption.all moduleUsesDotted = true := by
    rw [hchars]
    decide +kernel
  obtain ⟨module, hmodule, hservices⟩ := exists_of_toOption_map hread
  obtain ⟨s, hs, hfields⟩ := List.mem_map.1 (hservices ▸ List.mem_singleton.2 rfl)
  simp only [Prod.mk.injEq] at hfields
  obtain ⟨hdocstring, hdocstrings, hname, hnames⟩ := hfields
  have hfree : s.HasFreeNames := by
    have hall : ∀ n ∈ s.methods.flatMap fun m => m.name :: m.argumentNames, n ∉ Token.keywords := by
      rw [hnames]
      decide
    exact ⟨hname ▸ by decide, fun m hm =>
      ⟨hall _ (List.mem_flatMap.2 ⟨m, hm, List.mem_cons_self⟩),
        fun n hn => hall _ (List.mem_flatMap.2 ⟨m, hm, List.mem_cons_of_mem _ hn⟩)⟩⟩
  refine ⟨module, s, hmodule, hs, hdocstring, hdocstrings, ?_⟩
  refine docstrings_interface hmodule hs hfree
    (declarationReadsBack_of_usesDotted fun body hbody => ?_) ⟨?_, fun m hm text htext => ?_⟩
  · rw [hbody] at hdotted
    exact hdotted
  · rw [hdocstring]
    simpa using (by decide +kernel : Text.Lasts "a\nb")
  · have hmem : some text ∈ s.methods.map (·.docstring) := List.mem_map.2 ⟨m, hm, htext⟩
    rw [hdocstrings] at hmem
    obtain rfl : text = "c" := by simpa using hmem
    decide +kernel

/-- A service with a docstring whose first line is empty and whose second line is further in. -/
def blankLineSource : String :=
  "from grpc_stub_generator import service\n@service\nclass A:\n '\\n  a\\n b'\n"

/-- The docstring of a class. -/
def classDocstring? (s : Stmt) : Option String :=
  match s.node with
  | .classDef _ _ _ _ body => docstringOf body
  | _ => none

/-- A docstring that is read back as another one: the line that is further in has become the first
one, of which all blanks are removed. -/
theorem docstrings_interface_blankLine : ∃ module s, Module.ofSource blankLineSource = .ok module ∧
    s ∈ module.services ∧ DeclarationReadsBack blankLineSource s ∧ s.docstring = some " a\nb" ∧
    ∃ body, readModule (Text.joinLines (interface s).lines ++ "\n").toList = .ok body ∧
      body.map classDocstring? = [some "a\nb"] := by
  have hchars : blankLineSource.toList = _ := String.toList_ofList
  have hread : (Module.ofSource blankLineSource).toOption.map (·.services.map fun s =>
      (s.docstring, (readModule (Text.joinLines (interface s).lines ++ "\n").toList).toOption.map
        (·.map classDocstring?))) = some [(some " a\nb", some [some "a\nb"])] := by
    rw [Module.ofSource_eq hchars]
    decide +kernel
  have hdotted : (readModule blankLineSource.toList).toOption.all moduleUsesDotted = true := by
    rw [hchars]
    decide +kernel
  obtain ⟨module, hmodule, hservices⟩ := exists_of_toOption_map hread
  obtain ⟨s, hs, hfields⟩ := List.mem_map.1 (hservices ▸ List.mem_singleton.2 rfl)
  obtain ⟨hdocstring, hbody⟩ := Prod.mk.inj hfields
  refine ⟨module, s, hmodule, hs, declarationReadsBack_of_usesDotted fun body hbody => ?_, hdocstring,
    exists_of_toOption_map hbody⟩
  rw [hbody] at hdotted
  exact hdotted

end Expansion

end ServiceStubs
