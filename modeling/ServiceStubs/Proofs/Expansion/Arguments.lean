import Mathlib.Data.List.Nodup
import ServiceStubs.Proofs.Expansion.Forwarding
import ServiceStubs.Proofs.Expansion.Performing

/-!
# How a server takes a request apart

The method that is added to a server assigns the parts of the request to variables that are named
like the parameters of the method as authored, and calls that method with them. Its own parameters
are variables as well: the receiver, the context, the request and the sink. So the authored method
gets what was sent, and the reply goes where it should, if no two of all these variables are one.

The names of the context, the request, the sink and the response are reserved. That no parameter is
declared twice, or named like the receiver, is not checked, and neither is what the class makes of
the names: two that are private can be one variable there.

## Main definitions

* `Expansion.serverFrame`: the variables of the method when it is called
* `Expansion.servedCalls`: the calls that it is there for
* `Expansion.TakesApart`: the method makes these calls, and its lines say so

## Main statements

* `Expansion.performAll_steps`: what the statements of the method do
* `Expansion.arguments_apart`: parameters that are declared once reach the authored method
-/

namespace ServiceStubs

namespace Expansion

open Schema Grammar ServiceStubs.Tree

variable {V : Type}

/-- The variables of the method that is added to a server, when it is called. -/
def serverFrame (self ctx req sink : V) : Frame V := fun n =>
  [("self", self), ("ctx", ctx), ("req", req), ("sink", sink)].lookup n

/-- The calls that the method is there for: the authored one is called with the parts of the
request, its response is given to the sink, and what the sink makes of it is left to the context to
run. -/
def servedCalls (w : World V) (self ctx sink : V) (authored : String) (values : List V) :
    List (MethodCall V) :=
  let response := w.answer self authored values
  let send := w.answer sink "success" [response]
  [⟨self, authored, values⟩, ⟨sink, "success", [response]⟩, ⟨ctx, "spawn", [send]⟩]

/-- The method that a class gains for an authored one makes the calls it is there for, whatever the
request consists of. Its lines behind the header are those of its steps, and each of them is read as
that step. -/
structure TakesApart (owner : String) (m : Method) : Prop where
  calls : ∀ (V : Type) (w : World V) (self ctx req sink : V) (values : List V),
    w.parts req = some values → values.length = m.argumentNames.length →
      (performAll w owner ⟨serverFrame self ctx req sink, []⟩
        ((steps m).map (Step.node m))).map (·.calls) =
        some (servedCalls w self ctx sink (boundIn owner m.name) values)
  lines : ∃ header, (serverMethod m).lines = header :: Code.indent ((steps m).map (·.line m))
  read : ∀ step ∈ steps m,
    ∃ s, readModule (step.line m ++ "\n").toList = .ok [s] ∧ s.node = step.node m

/-! ### Names of a class -/

/-- A name that a class binds under another one starts with an underscore there. -/
theorem eq_of_boundIn_eq {className name other : String} (h : boundIn className name = other)
    (hother : other.toList.head? ≠ some '_') : name = other := by
  rcases boundIn_eq_or className name with hname | ⟨hname, -⟩
  · rw [← hname, h]
  · rw [h] at hname
    simp [hname] at hother

/-- Names that no parameter has, if they do not start with an underscore, are none of its variables.
-/
theorem notMem_bound {owner : String} {names : List String} {n : String} (hn : n ∉ names)
    (hhead : n.toList.head? ≠ some '_') : n ∉ names.map (boundIn owner) := by
  intro hmem
  obtain ⟨name, hname, hbound⟩ := List.mem_map.mp hmem
  exact hn (eq_of_boundIn_eq hbound hhead ▸ hname)

/-! ### Methods that are added to servers -/

section Served

variable {owner : String} {m : Method} {w : World V} {self ctx req sink : V} {values : List V}

/-- What is left to do once the request is taken apart. -/
theorem performAll_answer {frame : Frame V} (hself : frame "self" = some self)
    (hctx : frame "ctx" = some ctx)
    (hsink : frame "sink" = some sink)
    (hvalues : m.argumentNames.map (fun n => frame (boundIn owner n)) = values.map some) :
    (performAll w owner ⟨frame, []⟩ [Step.call.node m, Step.send.node m]).map (·.calls) =
      some (servedCalls w self ctx sink (boundIn owner m.name) values) := by
  have hplain (n : String) (hn : ¬privateMark <+: n.toList) : boundIn owner n = n :=
    boundIn_of_not_prefix hn
  have hself' : frame (boundIn owner "self") = some self := by rw [hplain "self" (by decide), hself]
  have hcall : perform w owner ⟨frame, []⟩ (Step.call.node m) =
      some ⟨Function.update frame "resp" (some (w.answer self (boundIn owner m.name) values)),
        [⟨self, boundIn owner m.name, values⟩]⟩ := by
    have hevaluated : evaluate w owner ⟨frame, []⟩
        (.call (.attribute (.name "self") m.name) (m.argumentNames.map .name) []) =
          some (w.answer self (boundIn owner m.name) values,
            ⟨frame, [⟨self, boundIn owner m.name, values⟩]⟩) := evaluate_call hself' hvalues
    rw [Step.node, perform, hevaluated]
    simp [assign, hplain "resp" (by decide)]
  rw [performAll, List.foldlM_cons, hcall]
  simp [perform, evaluate, evaluateAll, Step.node, servedCalls, hplain "ctx" (by decide),
    hplain "sink" (by decide), hplain "resp" (by decide), hplain "success" (by decide),
    hplain "spawn" (by decide), hctx, hsink]

/-- **What the method does that a class gains**, if no two of its variables are one. -/
theorem performAll_steps (hnodup : (("self" :: m.argumentNames).map (boundIn owner)).Nodup)
    (hreserved : ∀ n ∈ m.argumentNames, n ∉ reservedNames) (hparts : w.parts req = some values)
    (hlength : values.length = m.argumentNames.length) :
    (performAll w owner ⟨serverFrame self ctx req sink, []⟩ ((steps m).map (Step.node m))).map (·.calls) =
      some (servedCalls w self ctx sink (boundIn owner m.name) values) := by
  rw [steps]
  split
  · next hempty =>
    -- there is nothing to take apart
    have hnames : m.argumentNames = [] := by simpa [Method.argumentNames] using hempty
    rw [hnames] at hlength
    obtain rfl := List.eq_nil_of_length_eq_zero hlength
    exact performAll_answer rfl rfl rfl (by rw [hnames]; rfl)
  · rw [List.map_cons, List.nodup_cons, boundIn_of_not_prefix (by decide)] at hnodup
    obtain ⟨hself, hnodup⟩ := hnodup
    obtain ⟨frame, hassigned, hvalues, hothers⟩ :=
      assign_tuple hnodup hparts hlength (serverFrame self ctx req sink)
    have hreq : boundIn owner "req" = "req" := boundIn_of_not_prefix (by decide)
    have hunpack : perform w owner ⟨serverFrame self ctx req sink, []⟩ (Step.unpack.node m) =
        some ⟨frame, []⟩ := by
      have hvalue : serverFrame self ctx req sink "req" = some req := rfl
      rw [Step.node, perform, evaluate, hreq]
      simp only [hvalue, Option.map_some, Option.bind_eq_bind, Option.bind_some, hassigned]
    have hkept {n : String} (hn : n ∈ reservedNames) (hhead : n.toList.head? ≠ some '_') :
        frame n = serverFrame self ctx req sink n :=
      hothers n (notMem_bound (fun hmem => hreserved n hmem hn) hhead)
    rw [List.map_cons, performAll, List.foldlM_cons, hunpack]
    exact performAll_answer (hothers "self" hself) (hkept (by decide) (by decide))
      (hkept (by decide) (by decide)) hvalues

end Served

/-- The lines of the method behind its header. -/
theorem exists_header (m : Method) :
    ∃ header, (serverMethod m).lines = header :: Code.indent ((steps m).map (·.line m)) := by
  refine ⟨signatureText m.transportName (transportParameters m) "None", ?_⟩
  rw [serverMethod, steps]
  cases m.parameters.isEmpty <;> rfl

/-- **Parameters that are declared once reach the authored method.** The parameters of a method of a
service or a server are those of a definition of the module behind its receiver, and none of them is
reserved. If the class binds each of them once, they are distinct, none of them is the receiver, and
the method that the class gains calls the authored one with the parts of the request and sends its
response, unless one of the names is a reserved word. (Nothing can be assigned to `__debug__`, which
is no reserved word.) -/
theorem arguments_apart {source : String} {m : Module} (h : Module.ofSource source = .ok m)
    {method : Method} (hmethod : method ∈ m.methods) :
    ∃ body owner d, Grammar.readModule source.toList = .ok body ∧ DefinedIn body owner d ∧
      d.name = method.name ∧ d.parameterNames = "self" :: method.argumentNames ∧
      (∀ n ∈ method.argumentNames, n ∉ reservedNames) ∧
      ((d.parameterNames.map (boundIn owner)).Nodup →
        method.argumentNames.Nodup ∧ "self" ∉ method.argumentNames ∧
        (method.HasFreeNames → "__debug__" ∉ method.argumentNames → TakesApart owner method)) := by
  obtain ⟨body, owner, d, hbody, hdefined, hread⟩ := exists_definition h hmethod
  obtain ⟨hnames, hreserved⟩ := parameterNames_of_readMethod hread
  obtain ⟨hname, harguments⟩ := isName_method h hmethod
  refine ⟨body, owner, d, hbody, hdefined, (name_of_readMethod hread).1.symm, hnames, hreserved,
    fun hbound => ?_⟩
  rw [hnames] at hbound
  obtain ⟨hself, hnodup⟩ := List.nodup_cons.mp (List.Nodup.of_map _ hbound)
  refine ⟨hnodup, hself, fun hfree _ => ⟨?_, exists_header method, ?_⟩⟩
  · intro V w self ctx req sink values hparts hlength
    exact performAll_steps hbound hreserved hparts hlength
  · intro step hstep
    obtain ⟨kinds, hstands⟩ := stands_step ⟨hname, hfree.name⟩
      (fun n hn => ⟨harguments n hn, hfree.arguments n hn⟩) hstep
    have hline : Text.joinLines [step.line method] = step.line method := String.intercalate_singleton
    exact hline ▸ readModule_of_stands hstands (by decide)

/-- Values that are numbers in rows, taken apart into rows of one, with methods that put their
arguments in a row. -/
def rows : World (List ℕ) :=
  ⟨fun value => some (value.map fun n => [n]), fun _ _ arguments => arguments.flatten⟩

/-- A server with a method of two parameters. -/
def addSource : String :=
  "from grpc_stub_generator import server\n@server\nclass S:\n def add(self, x, /, y): ...\n"

/-- The two parts of a request reach the method. -/
theorem arguments_apart_add :
    ∃ m method, Module.ofSource addSource = .ok m ∧ method ∈ m.methods ∧
      method.argumentNames = ["x", "y"] ∧ method.HasFreeNames ∧
      (∃ body owner d, Grammar.readModule addSource.toList = .ok body ∧ DefinedIn body owner d ∧
        d.parameterNames = ["self", "x", "y"] ∧ (d.parameterNames.map (boundIn owner)).Nodup ∧
        TakesApart owner method) := by
  have hread : (Module.ofSource addSource).toOption.map
      (·.methods.map fun m => (m.name, m.argumentNames)) =
      some [("add", ["x", "y"])] := by
    rw [Module.ofSource_eq (show addSource.toList = _ from String.toList_ofList)]
    decide +kernel
  obtain ⟨m, hm, hmethods⟩ := exists_of_toOption_map hread
  obtain ⟨method, hmethod, hnames⟩ := List.mem_map.mp (hmethods ▸ List.mem_singleton.mpr rfl)
  obtain ⟨hname, hnames⟩ := Prod.mk.inj hnames
  have hfree : method.HasFreeNames := ⟨hname ▸ by decide, hnames ▸ by decide⟩
  obtain ⟨body, owner, d, hbody, hdefined, -, hparameters, -, hserved⟩ := arguments_apart hm hmethod
  rw [hnames] at hparameters
  have hbound : (d.parameterNames.map (boundIn owner)).Nodup := by
    have hkept : ∀ n ∈ ["self", "x", "y"], boundIn owner n = n := by
      intro n hn
      refine boundIn_of_not_prefix ?_
      simp only [List.mem_cons, List.not_mem_nil, or_false] at hn
      rcases hn with rfl | rfl | rfl <;> decide
    rw [hparameters, List.map_congr_left hkept]
    decide
  exact ⟨m, method, hm, hmethod, hnames, hfree, body, owner, d, hbody, hdefined, hparameters, hbound,
    (hserved hbound).2.2 hfree (hnames ▸ by decide)⟩

/-! ### Parameters that are one variable -/

/-- A server with a method that has two parameters of one name, one with a second receiver, and one
with two parameters that the class binds as one. -/
def twiceSource : String :=
  "from grpc_stub_generator import server\n@server\nclass S:\n" ++
    " def add(self, x, x): ...\n def sub(self, self): ...\n def mul(self, __x, _S__x): ...\n"

/-- The module is read. For a request of the numbers from two on, the first method and the last one
are called with the last of them twice, and the other one is called on the first of them. -/
theorem arguments_meet :
    ∃ m, Module.ofSource twiceSource = .ok m ∧
      m.methods.map (·.argumentNames) = [["x", "x"], ["self"], ["__x", "_S__x"]] ∧
      m.methods.flatMap (fun method => ((performAll rows "S"
        ⟨serverFrame [0] [0] (List.range' 2 method.argumentNames.length) [1], []⟩
          ((steps method).map (Step.node method))).map (·.calls.take 1)).getD []) =
        [⟨[0], "add", [[3], [3]]⟩, ⟨[2], "sub", [[2]]⟩, ⟨[0], "mul", [[3], [3]]⟩] := by
  have hread : (Module.ofSource twiceSource).toOption.map (fun m =>
      (m.methods.map (·.argumentNames), m.methods.flatMap (fun method => ((performAll rows "S"
        ⟨serverFrame [0] [0] (List.range' 2 method.argumentNames.length) [1], []⟩
          ((steps method).map (Step.node method))).map (·.calls.take 1)).getD []))) =
      some ([["x", "x"], ["self"], ["__x", "_S__x"]],
        [⟨[0], "add", [[3], [3]]⟩, ⟨[2], "sub", [[2]]⟩, ⟨[0], "mul", [[3], [3]]⟩]) := by
    rw [Module.ofSource_eq
      (show twiceSource.toList = _ from toList_append_eq String.toList_ofList String.toList_ofList)]
    decide +kernel
  obtain ⟨m, hm, hmethods⟩ := exists_of_toOption_map hread
  exact ⟨m, hm, congrArg Prod.fst hmethods, congrArg Prod.snd hmethods⟩

end Expansion

end ServiceStubs
