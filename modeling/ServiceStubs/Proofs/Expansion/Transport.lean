import ServiceStubs.Proofs.Expansion.Redeclared

/-!
# Methods that talk to the transport, in their places

Interfaces and servers have methods with one and the same signature: the receiver, the context of
the call, the request and the sink for the response. The type of the request is a tuple of the types
of the parameters, and that of the sink has the type of the result in its brackets. So the signature
can be read if the annotations can be read where it has them.

## Main definitions

* `Expansion.AnnotationsReadBack`: a method whose annotations are read back from their texts
* `Expansion.IsTransport`: the parameters of a method that talks to the transport, as they are read

## Main statements

* `Expansion.placed_requestType`, `Expansion.placed_sinkType`: the types of the request and of the
  sink
* `Expansion.placed_transportHead`: the signature
-/

namespace ServiceStubs

namespace Expansion

open Schema Grammar ServiceStubs.Tree

/-- Inside the brackets of a parameter's type, the text of every annotation of the method is read as
one expression. -/
structure AnnotationsReadBack (m : Method) : Prop where
  types : ∀ p ∈ m.parameters,
    ∃ kinds, Placed 2 (·.expression) expressionEnds p.type.toList kinds fun _ => True
  returns : ∀ text ∈ m.returnType,
    ∃ kinds, Placed 2 (·.expression) expressionEnds text.toList kinds fun _ => True

theorem exists_name (text : String) (h : decide (Token.IsFree text) = true) :
    ∃ id : Token.FreeName, id.text = text := (of_decide_eq_true h).exists_name

/-! ### Types -/

/-- A type with arguments that are given as texts. -/
theorem exists_placed_group (id : Token.FreeName) (path : List Token.FreeName) {texts : List (List Char)}
    (hne : texts ≠ [])
    (h : ∀ t ∈ texts, ∃ kinds, Placed 2 (·.expression) expressionEnds t kinds fun _ => True) :
    ∃ kinds, Placed 1 (·.expression) expressionEnds (groupText id path texts) kinds fun _ => True := by
  choose! tokens htokens using h
  have hgroup : Placed 1 (·.expression) expressionEnds
      (groupText id path ((texts.map fun t => (t, tokens t)).map (·.1))) _ fun _ => True :=
    placed_group (by decide) id path (by simpa using hne) fun i hi => by
      obtain ⟨t, ht, rfl⟩ := List.mem_map.1 hi
      exact (htokens t ht).index
  rw [List.map_map, show ((·.1) ∘ fun t => (t, tokens t)) = fun t : List Char => t from rfl,
    List.map_id'] at hgroup
  exact ⟨_, hgroup⟩

section Transport

variable {m : Method}

/-- The type of a request. -/
theorem placed_requestType (hback : AnnotationsReadBack m) :
    ∃ kinds, Placed 1 (·.expression) expressionEnds m.requestType.toList kinds fun _ => True := by
  obtain ⟨tuple, htuple⟩ := exists_name "tuple" (by decide +kernel)
  by_cases hempty : m.parameters = []
  · have htext : m.requestType.toList = groupText tuple [] [['(', ')']] := by
      simp [Method.requestType, hempty, Code.tupleType, groupText, dottedText, htuple, commaText]
    rw [htext]
    exact exists_placed_group tuple [] (by simp) fun t ht => by
      obtain rfl := List.mem_singleton.1 ht
      exact ⟨_, placed_unit (by decide)⟩
  · have htypes : ∀ t ∈ m.parameters.map (·.type.toList),
        ∃ kinds, Placed 2 (·.expression) expressionEnds t kinds fun _ => True := by
      intro t ht
      obtain ⟨q, hq, rfl⟩ := List.mem_map.1 ht
      exact hback.types q hq
    obtain ⟨kinds, hplaced⟩ := exists_placed_group tuple [] (by simpa using hempty) htypes
    have hne : ∀ p ∈ m.parameters.map (·.type), p ≠ "" := by
      intro p hp
      obtain ⟨q, hq, rfl⟩ := List.mem_map.1 hp
      obtain ⟨kinds, hplaced⟩ := hback.types q hq
      simpa using hplaced.nonempty
    have htext : m.requestType.toList = groupText tuple [] (m.parameters.map (·.type.toList)) := by
      rw [Method.requestType, Code.tupleType, if_neg (by simpa using hempty), Code.group]
      simp [toList_commaSeparated hne, groupText, dottedText, htuple, Function.comp_def]
    exact ⟨kinds, htext ▸ hplaced⟩

/-- The type of a response. -/
theorem placed_responseType (hback : AnnotationsReadBack m) :
    ∃ kinds, Placed 2 (·.expression) expressionEnds m.responseType.toList kinds fun _ => True := by
  rw [Method.responseType]
  cases hreturns : m.returnType with
  | none => exact ⟨_, placed_none.mono fun _ _ => trivial⟩
  | some text => exact hback.returns text hreturns

/-- The type of the sink of a method. -/
theorem placed_sinkType (hback : AnnotationsReadBack m) :
    ∃ kinds, Placed 1 (·.expression) expressionEnds
    (runtime ++ ".UnarySink[" ++ m.responseType ++ "]").toList
      kinds fun _ => True := by
  obtain ⟨module, hmodule⟩ := exists_name runtime (by decide +kernel)
  obtain ⟨sink, hsink⟩ := exists_name "UnarySink" (by decide +kernel)
  have hgroup : ∃ kinds, Placed 1 (·.expression) expressionEnds
      (groupText module [sink] [m.responseType.toList]) kinds fun _ => True :=
    exists_placed_group module [sink] (by simp) fun t ht => by
      obtain rfl := List.mem_singleton.1 ht
      exact placed_responseType hback
  have htext : (runtime ++ ".UnarySink[" ++ m.responseType ++ "]").toList =
      groupText module [sink] [m.responseType.toList] := by
    simp [groupText, dottedText, hmodule, hsink, commaText]
  exact htext ▸ hgroup

/-- The type of the context of a call. -/
theorem placed_contextType : ∃ kinds,
    Placed 1 (·.expression) expressionEnds (runtime ++ ".RpcContext").toList kinds fun _ => True := by
  obtain ⟨module, hmodule⟩ := exists_name runtime (by decide +kernel)
  obtain ⟨context, hcontext⟩ := exists_name "RpcContext" (by decide +kernel)
  have htext : (runtime ++ ".RpcContext").toList = dottedText module [context] := by
    simp [dottedText, hmodule, hcontext]
  exact ⟨_, htext ▸ (placed_dotted module [context]).mono fun _ _ => trivial⟩

/-! ### Parameters -/

/-- The names of the parameters of a method that talks to the transport, with their types. The
receiver has none. -/
def transportSlots (m : Method) : List (String × Option String) :=
  [("self", none), ("ctx", some (runtime ++ ".RpcContext")), ("req", some m.requestType),
    ("sink", some (runtime ++ ".UnarySink[" ++ m.responseType ++ "]"))]

/-- The text of a parameter with that name and that type. -/
def slotText : String × Option String → String
  | (name, none) => name
  | (name, some type) => name ++ ": " ++ type

theorem transportParameters_eq (m : Method) :
    transportParameters m = (transportSlots m).map slotText := by
  simp [transportParameters, transportSlots, slotText, String.append_assoc]

/-- The parameter has that name. Positions and names bind it, and it has no default. -/
def IsBare (name : String) (p : Param) : Prop := p.name = name ∧ p.kind = .plain ∧ p.defaultValue = none

/-- The parameters of a method that talks to the transport. -/
def IsTransport (params : List Param) : Prop := List.Forall₂ IsBare ["self", "ctx", "req", "sink"] params

theorem arrange_bare {ι : Type} {name : ι → String} {items : List ι} {read : List ParamItem}
    (h : List.Forall₂ (fun i item => ∃ p, item = .param p ∧ IsBare (name i) p) items read) :
    ∃ params, arrange read = some params ∧ List.Forall₂ IsBare (items.map name) params := by
  obtain ⟨params, rfl, hparams⟩ : ∃ params : List Param, read = params.map .param ∧
      List.Forall₂ IsBare (items.map name) params := by
    induction h with
    | nil => exact ⟨[], rfl, .nil⟩
    | cons hread _ ih =>
      obtain ⟨p, rfl, hp⟩ := hread
      obtain ⟨params, rfl, hparams⟩ := ih
      exact ⟨p :: params, rfl, .cons hp hparams⟩
  have hbare : ∀ p ∈ params, p.kind = .plain ∧ p.defaultValue = none := by
    intro p hp
    obtain ⟨_, -, -, hbare⟩ := (exists_of_forall₂ hparams).2 p hp
    exact hbare
  refine ⟨params, arrange_plain (fun p hp => (hbare p hp).1) ?_, hparams⟩
  rw [defaultsOf_eq_map fun p hp => .inr (hbare p hp).1,
    List.map_congr_left fun p hp => congrArg Option.isSome (hbare p hp).2, List.map_const']
  exact List.pairwise_replicate.2 (.inr le_rfl)

/-- A parameter of that name with a type. -/
theorem placed_annotatedSlot (name type : String) (hname : decide (Token.IsFree name) = true)
    (htype : ∃ kinds, Placed 1 (·.expression) expressionEnds type.toList kinds fun _ => True) :
    ∃ kinds, (∃ first others, kinds = first :: others ∧ first ≠ .sign ")") ∧
      Placed 1 (paramItem · true) itemEnds (slotText (name, some type)).toList kinds
        fun item => ∃ p, item = .param p ∧ IsBare name p := by
  obtain ⟨id, rfl⟩ := exists_name name hname
  obtain ⟨kinds, hplaced⟩ := htype
  have htext : (slotText (id.text, some type)).toList = annotatedText id type.toList := by
    simp [slotText, annotatedText]
  rw [htext]
  refine ⟨_, ⟨_, _, rfl, by simp⟩, (placed_annotated id hplaced).mono ?_⟩
  rintro i ⟨e, position, -, rfl⟩
  exact ⟨_, rfl, rfl, rfl, rfl⟩

/-- **Every parameter of a method that talks to the transport in its place.** -/
theorem placed_transportSlot (hback : AnnotationsReadBack m) :
    ∀ slot ∈ transportSlots m, ∃ kinds,
      (∃ first others, kinds = first :: others ∧ first ≠ .sign ")") ∧
      Placed 1 (paramItem · true) itemEnds (slotText slot).toList kinds
        fun item => ∃ p, item = .param p ∧ IsBare slot.1 p := by
  intro slot hslot
  simp only [transportSlots, List.mem_cons, List.not_mem_nil, or_false] at hslot
  rcases hslot with rfl | rfl | rfl | rfl
  · obtain ⟨id, hid⟩ := exists_name "self" (by decide +kernel)
    refine ⟨_, ⟨_, _, rfl, by simp⟩, (hid ▸ placed_bare id : Placed 1 _ _ "self".toList _ _).mono ?_⟩
    rintro i ⟨position, rfl⟩
    exact ⟨_, rfl, rfl, rfl, rfl⟩
  · exact placed_annotatedSlot "ctx" _ (by decide +kernel) placed_contextType
  · exact placed_annotatedSlot "req" _ (by decide +kernel) (placed_requestType hback)
  · exact placed_annotatedSlot "sink" _ (by decide +kernel) (placed_sinkType hback)

theorem isFree_transportName (hname : Token.IsName m.name) : Token.IsFree m.transportName :=
  ⟨hname.append (by decide), Token.notMem_keywords_of_underscore (by simp [Method.transportName])⟩

/-- **The signature of a method that talks to the transport in its place.** -/
theorem placed_transportHead (hname : Token.IsName m.name) (hback : AnnotationsReadBack m) :
    ∃ id : Token.FreeName, id.text = m.transportName ∧ ∃ kinds,
      PlacedHead (signatureText m.transportName (transportParameters m) "None") kinds
        fun ds R => IsFunction id ds IsTransport (· = .constant .none) R := by
  have hslot := placed_transportSlot hback
  choose! tokens hfirst hslot using hslot
  obtain ⟨id, hid⟩ := (isFree_transportName hname).exists_name
  have hplaced := placed_signature (P := IsTransport) id slotText tokens ("self", none)
    (transportSlots m).tail hslot (hfirst _ List.mem_cons_self) (fun slot _ hstar => ?_)
      (fun read hread => arrange_bare hread)
    placed_none
  · rw [hid] at hplaced
    rw [transportParameters_eq]
    exact ⟨id, hid, _, hplaced⟩
  · obtain ⟨p, hp, -⟩ := hstar
    cases hp

end Transport

end Expansion

end ServiceStubs
