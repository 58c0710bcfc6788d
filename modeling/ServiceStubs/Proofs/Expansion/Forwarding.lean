import ServiceStubs.Proofs.Expansion.Transport
import ServiceStubs.Proofs.Grammar.Simple

/-!
# Methods of servers, read back

The method that a server gains takes the request apart, calls the method as authored and sends the
response. What is read from its lines is a function that does these steps and no others, for any
number of parameters. The names that the request is taken apart into are the arguments of the call,
in the same order, and without parameters there is nothing to take apart.

A source can give a method or a parameter the name of a reserved word, in other characters than that
is written in. In the lines of the method the word itself stands, and they cannot be read.

## Main definitions

* `Expansion.Step`: the statements of such a method

## Main statements

* `Expansion.stands_step`: one statement in its place
* `Expansion.readModule_serverMethod`: the methods that the servers of a module gain, read back
* `Expansion.readModule_serverMethod_reserved`: one that is called like a reserved word
-/

namespace ServiceStubs

namespace Expansion

open Schema Grammar ServiceStubs.Tree

/-- What a method that a server gains does: it takes the request apart, calls the method as authored
and sends the response. -/
inductive Step
  | unpack
  | call
  | send

namespace Step

/-- The line of a step. -/
def line (m : Method) : Step → String
  | unpack => Code.tupleTarget m.argumentNames ++ " = req"
  | call => "resp = self." ++ m.name ++ "(" ++ Code.commaSeparated m.argumentNames ++ ")"
  | send => "ctx.spawn(sink.success(resp))"

/-- The statement that a step is: an assignment of the request to a tuple of the parameters, one of
the call to the response, and a call. -/
def node (m : Method) : Step → StmtNode
  | unpack => .assign [.tuple (m.argumentNames.map .name)] (.name "req")
  | call => .assign [.name "resp"] (.call (.attribute (.name "self") m.name)
      (m.argumentNames.map .name) [])
  | send => .expression (.call (.attribute (.name "ctx") "spawn")
      [.call (.attribute (.name "sink") "success") [.name "resp"] []] [])

end Step

/-- The steps of a method, in order. Without parameters there is nothing to take apart. -/
def steps (m : Method) : List Step :=
  if m.parameters.isEmpty then [.call, .send] else [.unpack, .call, .send]

variable {m : Method} {width : Nat}

theorem line_unpack (m : Method) :
    Step.unpack.line m = Code.tupleTarget m.argumentNames ++ " = req" := rfl

theorem line_call (m : Method) :
    Step.call.line m = "resp = self." ++ m.name ++ "(" ++ Code.commaSeparated m.argumentNames ++ ")" := rfl

theorem line_send (m : Method) : Step.send.line m = "ctx.spawn(sink.success(resp))" := rfl

theorem serverMethod_lines (m : Method) : (serverMethod m).lines =
    signatureText m.transportName (transportParameters m) "None" ::
      Code.indent (List.intercalate [] ((steps m).map fun step => [step.line m])) := by
  rw [serverMethod, steps]
  cases m.parameters.isEmpty <;> rfl

/-! ### Steps -/

/-- Names as the arguments of a call. -/
theorem placed_nameCall {room : Nat} {ends : List Token.Kind} (hends : ∀ c ∈ ends, isCloser c = true)
    (hroom : room < Token.maxBrackets) (id : Token.FreeName) (path ids : List Token.FreeName) :
    Placed room (·.expression) ends (callText id path (ids.map (·.text.toList)))
      (callKinds id path (ids.map fun id : Token.FreeName => [.name id]))
      (· = .call (dotted id path) (ids.map fun id => .name id.text) []) := by
  have hname : ∀ i ∈ ids, Placed (room + 1) (·.expression) expressionEnds i.text.toList [.name i]
      (· = .name i.text) := fun i _ => by
    have hplaced : Placed (room + 1) _ _ (dottedText i []) (dottedKinds i []) _ := placed_dotted i []
    simpa [dottedText, dottedKinds, dotted] using hplaced
  refine (placed_call hends hroom id path (·.text.toList)
    (fun id : Token.FreeName => [.name id]) ids hname).mono ?_
  rintro e ⟨es, hes, rfl⟩
  rw [eq_map_of_forall₂ hes]

/-- A single name as one side of an assignment. -/
theorem exists_placed_name (text : String) (h : decide (Token.IsFree text) = true)
    (hmatch : text ≠ "match") :
    ∃ id : Token.FreeName, id.text = text ∧ startsExpression (.name id) = true ∧
      Placed 0 (·.expression) lineEnds text.toList [.name id] (· = .name text) := by
  obtain ⟨id, rfl⟩ := exists_name text h
  have hplaced : Placed 0 _ _ (dottedText id []) (dottedKinds id []) _ :=
    placed_dottedName (fun _ => isCloser_of_mem_lineEnds) id []
  refine ⟨id, rfl, by simpa [startsExpression, id.isWritten] using hmatch, ?_⟩
  simpa [dottedText, dottedKinds, dotted] using hplaced

theorem exists_names {names : List String} (h : ∀ n ∈ names, Token.IsFree n) :
    ∃ ids : List Token.FreeName, ids.map (·.text) = names := by
  induction names with
  | nil => exact ⟨[], rfl⟩
  | cons n names ih =>
    rw [List.forall_mem_cons] at h
    obtain ⟨id, rfl⟩ := h.1.exists_name
    obtain ⟨ids, rfl⟩ := ih h.2
    exact ⟨id :: ids, rfl⟩

theorem areTargets_names (names : List String) : areTargets (names.map .name) = true := by
  induction names with
  | nil => rfl
  | cons n names ih => rw [List.map_cons, areTargets, ih]; rfl

/-- The request is taken apart. -/
theorem stands_unpack {ids : List Token.FreeName} (hids : ids.map (·.text) = m.argumentNames)
    (hne : ids ≠ []) :
    ∃ kinds, Stands 0 width [Step.unpack.line m] kinds fun s => s.node = Step.unpack.node m := by
  obtain ⟨req, -, hreq, hvalue⟩ := exists_placed_name "req" (by decide +kernel) (by decide)
  have htarget : Placed 0 (·.expression) lineEnds (Code.tupleTarget m.argumentNames).toList _ _ :=
    hids ▸ placed_tupleTarget (fun _ => isCloser_of_mem_lineEnds) (by decide) hne
  have hstarts : Token.StartsLine (Code.tupleTarget m.argumentNames).toList := by
    refine ⟨'(', ?_, rfl⟩
    unfold Code.tupleTarget
    split <;> simp
  have hassignable : ∀ e, e = .tuple (ids.map fun id => .name id.text) → isTarget e = true := by
    rintro e rfl
    have hnames := areTargets_names m.argumentNames
    rwa [← hids, List.map_map] at hnames
  have hline : Step.unpack.line m = Code.tupleTarget m.argumentNames ++ " = " ++ "req" :=
    String.toList_inj.1 (by simp [line_unpack])
  rw [hline]
  refine ⟨_, (stands_assignment hstarts rfl htarget hassignable hreq hvalue).mono ?_⟩
  rintro s ⟨e, v, rfl, rfl, hs⟩
  rw [hs, Step.node, ← hids, List.map_map]
  rfl

/-- The method is called as authored. -/
theorem stands_call (hname : Token.IsFree m.name) {ids : List Token.FreeName}
    (hids : ids.map (·.text) = m.argumentNames) :
    ∃ kinds, Stands 0 width [Step.call.line m] kinds fun s => s.node = Step.call.node m := by
  obtain ⟨resp, hresp, hfirst, htarget⟩ := exists_placed_name "resp" (by decide +kernel) (by decide)
  obtain ⟨self, hself⟩ := exists_name "self" (by decide +kernel)
  obtain ⟨method, hmethod⟩ := hname.exists_name
  have hvalue : Placed 0 (·.expression) lineEnds
    (callText self [method] (ids.map (·.text.toList))) _ _ :=
    placed_nameCall (fun _ => isCloser_of_mem_lineEnds) (by decide) self [method] ids
  have hnames : ∀ n ∈ m.argumentNames, n ≠ "" := by
    rw [← hids]
    intro n hn
    obtain ⟨id, -, rfl⟩ := List.mem_map.1 hn
    simpa [dottedText] using dottedText_ne_nil id []
  have hargs : (Code.commaSeparated m.argumentNames).toList = commaText (ids.map (·.text.toList)) := by
    rw [toList_commaSeparated hnames, ← hids, List.map_map]
    rfl
  have htext : ("self." ++ m.name ++ "(" ++ Code.commaSeparated m.argumentNames ++ ")").toList =
      callText self [method] (ids.map (·.text.toList)) := by
    simp [callText, dottedText, hself, hmethod, hargs]
  have hline : Step.call.line m =
      "resp" ++ " = " ++ ("self." ++ m.name ++ "(" ++ Code.commaSeparated m.argumentNames ++ ")") :=
    String.toList_inj.1 (by simp [line_call])
  rw [← htext] at hvalue
  rw [hline]
  refine ⟨_, (stands_assignment ⟨'r', rfl, rfl⟩ hfirst htarget (by rintro e rfl; rfl)
    (by simp [startsExpression, self.isWritten, hself]) hvalue).mono ?_⟩
  rintro s ⟨e, v, rfl, rfl, hs⟩
  rw [hs, Step.node, ← hids, ← hmethod, List.map_map]
  simp [dotted, hself, Function.comp_def]

/-- The response is sent. -/
theorem stands_send :
    ∃ kinds, Stands 0 width [Step.send.line m] kinds fun s => s.node = Step.send.node m := by
  obtain ⟨ctx, hctx⟩ := exists_name "ctx" (by decide +kernel)
  obtain ⟨spawn, hspawn⟩ := exists_name "spawn" (by decide +kernel)
  obtain ⟨sink, hsink⟩ := exists_name "sink" (by decide +kernel)
  obtain ⟨success, hsuccess⟩ := exists_name "success" (by decide +kernel)
  obtain ⟨resp, hresp⟩ := exists_name "resp" (by decide +kernel)
  have hinside : Placed 1 (·.expression) expressionEnds (callText sink [success] [resp.text.toList])
      (callKinds sink [success] [[.name resp]]) _ :=
    placed_nameCall (fun _ => isCloser_of_mem_expressionEnds) (by decide) sink [success] [resp]
  have houter : Placed 0 (·.expression) lineEnds
      (callText ctx [spawn] ([()].map fun _ => callText sink [success] [resp.text.toList]))
      (callKinds ctx [spawn] ([()].map fun _ => callKinds sink [success] [[.name resp]])) _ :=
    placed_call (fun _ => isCloser_of_mem_lineEnds) (by decide) ctx [spawn] _ _ [()] fun _ _ => hinside
  have htext : (Step.send.line m).toList =
      callText ctx [spawn] ([()].map fun _ => callText sink [success] [resp.text.toList]) := by
    simp [line_send, callText, dottedText, commaText, hctx, hspawn, hsink, hsuccess, hresp]
  rw [← htext] at houter
  refine ⟨_, (stands_expression ⟨'c', by simp [line_send], rfl⟩
    (by simp [startsExpression, ctx.isWritten, hctx])
    houter).mono ?_⟩
  rintro s ⟨e, ⟨es, hes, rfl⟩, hs⟩
  rw [forall₂_unit] at hes
  obtain ⟨a, rfl, rfl⟩ := hes
  rw [hs, Step.node]
  simp [dotted, hctx, hspawn, hsink, hsuccess, hresp]

/-- **Every step of a method that a server gains in its place.** -/
theorem stands_step (hname : Token.IsFree m.name) (hnames : ∀ n ∈ m.argumentNames, Token.IsFree n)
    {step : Step} (hstep : step ∈ steps m) :
    ∃ kinds, Stands 0 width [step.line m] kinds fun s => s.node = step.node m := by
  obtain ⟨ids, hids⟩ := exists_names hnames
  cases step with
  | unpack =>
    refine stands_unpack hids ?_
    rintro rfl
    have hempty : m.parameters.isEmpty = true := by simpa [Method.argumentNames] using hids.symm
    simp [steps, hempty] at hstep
  | call => exact stands_call hname hids
  | send => exact stands_send

/-! ### Methods -/

/-- **A method that a server gains in its place.** -/
theorem stands_serverMethod (hname : Token.IsFree m.name)
    (hnames : ∀ n ∈ m.argumentNames, Token.IsFree n)
    (hback : AnnotationsReadBack m) :
    ∃ kinds, Stands 1 width (serverMethod m).lines kinds fun t => ∃ params body,
      t.node = .function false m.transportName params (some (.constant .none)) [] body ∧
        IsTransport params ∧ body.map (·.node) = (steps m).map (Step.node m) := by
  obtain ⟨id, hid, headKinds, hhead⟩ := placed_transportHead hname.1 hback
  have hstep : ∀ step ∈ steps m, ∃ kinds, Stands 0 (width + 4) [step.line m] kinds
      fun s => s.node = step.node m := fun step hstep => stands_step hname hnames hstep
  choose! tokens hstep using hstep
  have hne : steps m ≠ [] := by
    rw [steps]
    split <;> simp
  have hnone : ∀ i ∈ ([] : List Unit), PlacedDecorator "".toList [] fun _ => True := by simp
  have hstands : Stands 1 width _ _ _ :=
    stands_block [] (fun step => [step.line m]) (steps m) (by simp) hnone hhead hne hstep
  rw [serverMethod_lines]
  refine ⟨_, hstands.mono ?_⟩
  rintro t ⟨ds, hds, params, e, body, hnode, hparams, rfl, hbody⟩
  obtain rfl := List.forall₂_nil_left_iff.1 hds
  exact ⟨params, body, hid ▸ hnode, hparams, eq_map_of_forall₂ (List.forall₂_map_right_iff.2 hbody)⟩

/-- The names of a method of a module and of its parameters. -/
theorem isName_method {source : String} {module : Module} (h : Module.ofSource source = .ok module)
    (hm : m ∈ module.methods) : Token.IsName m.name ∧ ∀ n ∈ m.argumentNames, Token.IsName n := by
  obtain ⟨body, owner, d, hbody,
    ⟨span, bases, keywords, decorators, statements, hclass, s, hs, hd⟩, hread⟩ :=
    exists_definition h hm
  obtain ⟨hname, hdeclarable⟩ := declarable_of_mem hbody hclass hs hd
  refine ⟨(name_of_readMethod hread).1 ▸ hname, fun n hn => ?_⟩
  have hn : n ∈ d.parameterNames := by
    rw [(parameterNames_of_readMethod hread).1]
    exact List.mem_cons_of_mem _ hn
  obtain ⟨p, hp, rfl⟩ := List.mem_map.1 hn
  exact hdeclarable.names p hp

/-- **The method that a server gains does what it is for**, unless something is called like a
reserved word. Its lines are one function of the name and with the parameters of a method that talks
to the transport. The function takes the request apart into the parameters in order of declaration,
unless there are none, calls the method as authored with them in the same order, and sends the
response. It does nothing else. -/
theorem readModule_serverMethod {source : String} {module : Module}
    (h : Module.ofSource source = .ok module)
    {server : Server} (hserver : server ∈ module.servers) (hm : m ∈ server.methods)
    (hfree : m.HasFreeNames)
    (hback : AnnotationsReadBack m) :
    ∃ t params body, readModule (Text.joinLines (serverMethod m).lines ++ "\n").toList = .ok [t] ∧
      t.node = .function false m.transportName params (some (.constant .none)) [] body ∧
      IsTransport params ∧ body.map (·.node) = (steps m).map (Step.node m) := by
  have hmodule : m ∈ module.methods := List.mem_append_right _ (List.mem_flatMap.2 ⟨server, hserver, hm⟩)
  obtain ⟨hname, hnames⟩ := isName_method h hmodule
  obtain ⟨kinds, hstands⟩ := stands_serverMethod ⟨hname, hfree.name⟩
    (fun n hn => ⟨hnames n hn, hfree.arguments n hn⟩) hback
  obtain ⟨t, ht, params, body, hnode, hparams, hbody⟩ := readModule_of_stands hstands (by decide)
  exact ⟨t, params, body, ht, hnode, hparams, hbody⟩

/-- A server with a method of one parameter. -/
def oneSource : String :=
  "from grpc_stub_generator import server\n@server\nclass S:\n def add(self, x: t.U) -> t.R: ...\n"

/-- The request is a tuple of one part. -/
theorem readModule_serverMethod_one : ∃ module server m, Module.ofSource oneSource = .ok module ∧
    server ∈ module.servers ∧ m ∈ server.methods ∧ m.HasFreeNames ∧ AnnotationsReadBack m ∧
    ∃ t params body, readModule (Text.joinLines (serverMethod m).lines ++ "\n").toList = .ok [t] ∧
      t.node = .function false "add_grpc" params (some (.constant .none)) [] body ∧ IsTransport params ∧
      body.map (·.node) = [
        .assign [.tuple [.name "x"]] (.name "req"),
        .assign [.name "resp"] (.call (.attribute (.name "self") "add") [.name "x"] []),
        .expression (.call (.attribute (.name "ctx") "spawn")
          [.call (.attribute (.name "sink") "success") [.name "resp"] []] [])] := by
  have hread : (Module.ofSource oneSource).toOption.map (fun module =>
      module.servers.map fun server => server.methods.map fun m =>
        (m.name, m.parameters, m.returnType)) =
      some [[("add", [⟨"x", "t.U", none⟩], some "t.R")]] := by
    rw [Module.ofSource_eq (show oneSource.toList = _ from String.toList_ofList)]
    decide +kernel
  obtain ⟨module, hmodule, hservers⟩ := exists_of_toOption_map hread
  obtain ⟨server, hserver, hmethods⟩ := List.mem_map.1 (hservers ▸ List.mem_singleton.2 rfl)
  obtain ⟨m, hm, hfields⟩ := List.mem_map.1 (hmethods ▸ List.mem_singleton.2 rfl)
  obtain ⟨hname, hfields⟩ := Prod.mk.inj hfields
  obtain ⟨hparameters, hreturns⟩ := Prod.mk.inj hfields
  have hdotted (e : Expr) (text : String) (he : isDotted e = true) (htext : e.text = .ok text) :
      ∃ kinds, Placed 2 (·.expression) expressionEnds text.toList kinds fun _ => True := by
    obtain ⟨kinds, hplaced⟩ := placed_of_isDotted 2 he htext
    exact ⟨kinds, hplaced.mono fun _ _ => trivial⟩
  have hback : AnnotationsReadBack m := by
    refine ⟨fun p hp => ?_, fun text htext => ?_⟩
    · rw [hparameters, List.mem_singleton] at hp
      exact hp ▸ hdotted (.attribute (.name "t") "U") "t.U" (by decide +kernel) rfl
    · obtain rfl : "t.R" = text := Option.some.inj (hreturns.symm.trans htext)
      exact hdotted (.attribute (.name "t") "R") "t.R" (by decide +kernel) rfl
  have hfree : m.HasFreeNames := ⟨hname ▸ by decide, by simp [Method.argumentNames, hparameters]; decide⟩
  obtain ⟨t, params, body, ht, hnode, hparams, hbody⟩ :=
    readModule_serverMethod hmodule hserver hm hfree hback
  refine ⟨module, server, m, hmodule, hserver, hm, hfree, hback, t, params, body, ht, ?_, hparams, ?_⟩
  · rw [hnode, Method.transportName, hname]
    rfl
  · rw [hbody, steps, hparameters]
    simp [Step.node, Method.argumentNames, hparameters, hname]

/-- A server with a method and one with a parameter that are called like reserved words. -/
def reservedSource : String :=
  "from grpc_stub_generator import server\n@server\nclass S:\n def ｉｆ(self): ...\n def f(self, ｉｎ): ...\n"

/-- The lines of the methods that the server gains cannot be read. -/
theorem readModule_serverMethod_reserved : ∃ module server, Module.ofSource reservedSource = .ok module ∧
    server ∈ module.servers ∧
    server.methods.map (fun m => (m.name, m.argumentNames)) = [("if", []), ("f", ["in"])] ∧
    ∀ m ∈ server.methods, ∀ body,
      readModule (Text.joinLines (serverMethod m).lines ++ "\n").toList ≠ .ok body := by
  have hread : (Module.ofSource reservedSource).toOption.map
      (fun module => module.servers.map fun server =>
      (server.methods.map fun m => (m.name, m.argumentNames), server.methods.all fun m =>
        !(readModule (Text.joinLines (serverMethod m).lines ++ "\n").toList).isOk)) =
      some [([("if", []), ("f", ["in"])], true)] := by
    rw [Module.ofSource_eq (show reservedSource.toList = _ from String.toList_ofList)]
    decide +kernel
  obtain ⟨module, hmodule, hservers⟩ := exists_of_toOption_map hread
  obtain ⟨server, hserver, hmethods⟩ := List.mem_map.1 (hservers ▸ List.mem_singleton.2 rfl)
  obtain ⟨hnames, herror⟩ := Prod.mk.inj hmethods
  refine ⟨module, server, hmodule, hserver, hnames, fun m hm body hbody => ?_⟩
  have herror := List.all_eq_true.1 herror m hm
  rw [hbody] at herror
  cases herror

end Expansion

end ServiceStubs
