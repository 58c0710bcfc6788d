import ServiceStubs.Proofs.Expansion.Artifacts
import ServiceStubs.Proofs.Expansion.Blocks
import ServiceStubs.Proofs.Expansion.Characters
import ServiceStubs.Proofs.Expansion.Recorded
import ServiceStubs.Proofs.Schema.Servers

/-!
# Transport methods are implemented

The interface of a service declares a transport method for each of its methods, and the expansion of
a server adds transport methods to the class. The two decide by themselves which methods have one.
For names that are neither private nor those of transport methods they agree: where the body of a
server defines a method of a service that it implements, the transport method that the interface
makes abstract is in the body already or is added to it.

The interface asks for the transport method of a private method too, and no server gets that one.

What is added is found in the lines of the expansion. What the class is as a program is another
matter: if its last line is not where it seems to end, the method is not added to its body.

## Main definitions

* `Expansion.DeclaresAbstract`: the interface of a service makes a method abstract
* `Expansion.Draft.AddsTo`: the expansion adds a method to a class

## Main statements

* `Expansion.Draft.transport_implemented`: what the interface makes abstract is bound in the server
* `Expansion.Draft.transport_missing`: the transport method of a private method is not
-/

namespace ServiceStubs

namespace Expansion

open Schema Tree

/-- The interface of the service declares the method and makes it abstract. -/
def DeclaresAbstract (s : Service) (n : String) : Prop :=
  ∃ header, memberName? header = some n ∧
    [Code.indentation ++ "@_abc.abstractmethod", header] <:+: (interface s).lines

/-! ### The interface -/

/-- **The interface makes every transport method abstract.** -/
theorem declaresAbstract_transportName {s : Service} {m : Method} (hm : m ∈ s.methods)
    (hname : Plain m.name) : DeclaresAbstract s m.transportName := by
  obtain ⟨rest, hlines⟩ := function_eq m.transportName (transportParameters m) none []
  have hblock : ["@_abc.abstractmethod", "def " ++ (m.transportName ++ ("(" ++ rest))] <:+:
      transportMethod m := by
    refine ⟨m.decorators.map (Code.decorator · []), [], ?_⟩
    rw [transportMethod, abstractDecorators, hlines]
    simp [Code.decorator, Code.indent]
  refine ⟨Code.indentation ++ ("def " ++ (m.transportName ++ ("(" ++ rest))), ?_, ?_⟩
  · rw [memberName?_indented]
    exact functionName?_eq_some hname.transportName rest
  · have hinterface : Code.indent (transportMethod m) <:+: (interface s).lines :=
      infix_interface (List.mem_append_right _ (List.mem_map_of_mem hm))
    have hpair : Code.indent ["@_abc.abstractmethod", "def " ++ (m.transportName ++
        ("(" ++ rest))] = [Code.indentation ++ "@_abc.abstractmethod",
          Code.indentation ++ ("def " ++ (m.transportName ++ ("(" ++ rest)))] := by
      simp [Code.indent]
    rw [← hpair]
    exact (hblock.map _).trans hinterface

/-! ### The server -/

namespace Draft

/-- In the lines of the expansion, the method stands among those that are added behind the last line
of the server, at the indentation of its body. -/
def AddsTo (d : Draft) (server : Server) (n : String) : Prop :=
  ∃ edits, d.complete.edits = some edits ∧
    d.complete.lines = Edit.replaceAll d.sourceLines edits ∧
      ∃ e ∈ Edit.insertionsAt edits server.lastLine,
        ∃ line ∈ e.lines, behind? (server.bodyIndent ++ "def ") (· == '(') line = some n

/-- The edit that adds the methods of a server that lacks some. -/
theorem mem_serverEdits {server : Server} (h : (serverMethods server).lines ≠ []) :
    { start := server.lastLine, stop := server.lastLine,
      lines := Code.indent (serverMethods server).lines server.bodyIndent } ∈
      serverEdits server := by
  have hempty : (serverMethods server).lines.isEmpty = false := by simpa using h
  unfold serverEdits
  dsimp only
  rw [hempty]
  exact List.mem_cons_of_mem _ List.mem_cons_self

theorem mem_edits_of_mem_serverEdits {d : Draft} (hedits : d.edits = none) {server : Server}
    (hserver : server ∈ d.declared.servers) {e : Edit} (he : e ∈ serverEdits server) :
    ∃ edits, d.complete.edits = some edits ∧ e ∈ edits := by
  unfold complete
  rw [hedits]
  refine ⟨_, rfl, List.mem_append_left _ (List.mem_append_right _ ?_)⟩
  exact List.mem_flatMap.mpr ⟨server, hserver, he⟩

/-- **What a server lacks is added to it.** -/
theorem addsTo_transportName {source : String} {d : Draft} (hrecords : Records source d)
    (hedits : d.edits = none) {server : Server} (hserver : server ∈ d.declared.servers) {m : Method}
    (hm : m ∈ server.methods) (hname : Plain m.name) : d.AddsTo server m.transportName := by
  obtain ⟨body, hfunction⟩ : ∃ body, (serverMethod m).lines =
      Code.function m.transportName (transportParameters m) none body := ⟨_, rfl⟩
  obtain ⟨rest, hlines⟩ := function_eq m.transportName (transportParameters m) none body
  have hheader : "def " ++ (m.transportName ++ ("(" ++ rest)) ∈ (serverMethods server).lines := by
    refine List.mem_flatMap.mpr ⟨serverMethod m, List.mem_map_of_mem hm, ?_⟩
    rw [hfunction, hlines]
    exact List.mem_cons_of_mem _ List.mem_cons_self
  obtain ⟨edits, hcomplete, hmem⟩ :=
    mem_edits_of_mem_serverEdits hedits hserver (mem_serverEdits (List.ne_nil_of_mem hheader))
  obtain ⟨edits', hcomplete', hcompatible, hlines⟩ := hrecords.lines_complete
  obtain rfl := Option.some.inj (hcomplete.symm.trans hcomplete')
  obtain ⟨-, hadded⟩ | ⟨hreplaced, -⟩ := hcompatible.mem_at hmem
  case inr => exact absurd hreplaced (Nat.lt_irrefl _)
  refine ⟨edits, hcomplete, hrecords.sourceLines ▸ hlines, _, hadded, _,
    List.mem_map_of_mem hheader, ?_⟩
  have hread : behind? (server.bodyIndent ++ "def ") (· == '(')
      (server.bodyIndent ++ "def " ++ (m.transportName ++ ("(" ++ rest))) =
      some m.transportName := behind?_plain hname.transportName rfl _ (by simp)
  rw [String.append_assoc] at hread
  simpa using hread

/-- **What the interface makes abstract is bound in the server.** The method is defined without
decorators in the body of a server that implements its service, and its name is neither private nor
that of a transport method. -/
theorem transport_implemented {source filename : String} {d : Draft}
    (h : Draft.ofSource source filename = .ok d) {body : List Stmt}
    (hbody : Grammar.readModule source.toList = .ok body) {c : MarkedClass}
    (hc : ∃ s ∈ body, Marks (.ofModule body) s c) (hserver : c.found.marker = .server)
    {s : Service} (hs : s ∈ d.declared.services) (hbase : s.name ∈ plainNames c.bases)
    {m : Method} (hm : m ∈ s.methods)
    (hdefined : ∃ f ∈ c.body.filterMap definition?, f.name = m.name ∧ f.decorators = [])
    (hopen : m.name.toList.head? ≠ some '_') (hown : isTransportName m.name = false)
    (hbare : ∀ t ∈ c.body, onlyAnnotates m.transportName t = false) :
    DeclaresAbstract s m.transportName ∧
      ((∃ t ∈ c.body, Binds m.transportName t ∧ onlyAnnotates m.transportName t = false) ∨
        ∃ server ∈ d.declared.servers, Serves d.sourceLines c server ∧
          d.AddsTo server m.transportName) := by
  have hrecords := records_of_ofSource h
  unfold Draft.ofSource at h
  obtain ⟨module, hmodule, h⟩ := exists_of_bind h
  obtain rfl := Except.ok.inj h
  obtain ⟨body', marked, hread, hdeclares⟩ :=
    exists_declares hmodule (isEmpty_eq_false_of_mem hs)
  obtain rfl := Except.ok.inj (hbody.symm.trans hread)
  have hname : Plain m.name :=
    (hdeclares.plain_service (Grammar.named_of_readModule hread) hs).2 m hm
  refine ⟨declaresAbstract_transportName hm hname, ?_⟩
  by_cases hauthored : m.transportName ∈ authoredNames c.body
  · obtain ⟨t, ht, hbinds⟩ := exists_binds_of_mem_authoredNames hauthored
    exact .inl ⟨t, ht, hbinds, hbare t ht⟩
  · have hmarked : c ∈ marked.filter (·.found.marker == .server) := by
      refine List.mem_filter.mpr ⟨(mem_markedClasses_iff hdeclares.classes).mpr hc, ?_⟩
      rw [hserver]
      rfl
    obtain ⟨server, hmem, hserver⟩ := (exists_of_forall₂ hdeclares.servers).1 c hmarked
    obtain ⟨f, hf, hfname, hdecorators⟩ := hdefined
    obtain ⟨counterpart, hcounterpart, heq⟩ := exists_method_of_needsCounterpart hserver hf
      (hdeclares.needsCounterpart_eq_true hs hbase hm hfname hdecorators hopen hown hauthored)
    have htransport : counterpart.transportName = m.transportName := by
      rw [Method.transportName, heq, hfname, Method.transportName]
    refine .inr ⟨server, hmem, serves_of_readServer hserver, ?_⟩
    rw [← htransport]
    exact addsTo_transportName hrecords rfl hmem hcounterpart (heq ▸ hfname ▸ hname)

/-! ### One method -/

/-- A service with one method and a server that implements it. -/
def pairSource (method : String) : String :=
  "from grpc_stub_generator import server, service\n@service\nclass A:\n def " ++ method ++
    "(self): ...\n@server\nclass B(A):\n def " ++ method ++ "(self): pass\n"

/-- What the classes of a module look like: the marker, the bases and the names that the body binds,
those of undecorated functions apart. -/
def outline (body : List Stmt) : List (Marker × List String × List String × List String) :=
  ((markedClasses (.ofModule body) body).toOption.getD []).map fun c =>
    (c.found.marker, plainNames c.bases,
      ((c.body.filterMap definition?).filter (·.decorators.isEmpty)).map (·.name),
      (bindingsOfAll c.body).map (·.1))

theorem exists_class_of_outline {body : List Stmt} {marker : Marker}
    {bases functions names : List String} (h : (marker, bases, functions, names) ∈ outline body) :
    ∃ c : MarkedClass, (∃ s ∈ body, Marks (.ofModule body) s c) ∧ c.found.marker = marker ∧
      plainNames c.bases = bases ∧ (∀ n ∈ functions,
        ∃ f ∈ c.body.filterMap definition?, f.name = n ∧ f.decorators = []) ∧
      ∀ t ∈ c.body, ∀ n, Binds n t → n ∈ names := by
  unfold outline at h
  cases hmarked : markedClasses (.ofModule body) body with
  | error e =>
    rw [hmarked] at h
    cases h
  | ok marked =>
    rw [hmarked] at h
    obtain ⟨c, hc, heq⟩ := List.mem_map.mp h
    simp only [Prod.mk.injEq] at heq
    obtain ⟨hmarker, hbases, hfunctions, hnames⟩ := heq
    refine ⟨c, (mem_markedClasses_iff hmarked).mp hc, hmarker, hbases, ?_, ?_⟩
    · intro n hn
      rw [← hfunctions] at hn
      obtain ⟨f, hf, rfl⟩ := List.mem_map.mp hn
      obtain ⟨hf, hplain⟩ := List.mem_filter.mp hf
      exact ⟨f, hf, rfl, by simpa using hplain⟩
    · intro t ht n hbinds
      obtain ⟨line, hline⟩ := mem_bindings hbinds
      rw [← hnames, bindingsOfAll_eq]
      exact List.mem_map.mpr ⟨(n, line), List.mem_flatMap.mpr ⟨t, ht, hline⟩, rfl⟩

theorem exists_method_of_names {d : Draft} {n method : String}
    (h : d.declared.services.map (fun s => (s.name, s.methods.map (·.name))) = [(n, [method])]) :
    ∃ s ∈ d.declared.services, s.name = n ∧ ∃ m ∈ s.methods, m.name = method := by
  have hmem : (n, [method]) ∈ d.declared.services.map fun s => (s.name, s.methods.map (·.name)) :=
    h ▸ List.mem_singleton_self _
  obtain ⟨s, hs, heq⟩ := List.mem_map.mp hmem
  obtain ⟨hname, hmethods⟩ := Prod.mk.inj heq
  obtain ⟨m, hm, hmethod⟩ := List.mem_map.mp (hmethods ▸ List.mem_singleton_self method)
  exact ⟨s, hs, hname, m, hm, hmethod⟩

/-- The server gets the transport method of its public method. -/
theorem transport_implemented_call :
    ∃ d body c s m, Draft.ofSource (pairSource "f") "b.py" = .ok d ∧
      Grammar.readModule (pairSource "f").toList = .ok body ∧
      (∃ t ∈ body, Marks (.ofModule body) t c) ∧ c.found.marker = .server ∧
      s ∈ d.declared.services ∧ s.name ∈ plainNames c.bases ∧ m ∈ s.methods ∧ m.name = "f" ∧
      (DeclaresAbstract s m.transportName ∧
        ((∃ t ∈ c.body, Binds m.transportName t ∧ onlyAnnotates m.transportName t = false) ∨
          ∃ server ∈ d.declared.servers, Serves d.sourceLines c server ∧
            d.AddsTo server m.transportName)) := by
  have hchars : (pairSource "f").toList = _ :=
    toList_append_eq (toList_append_eq (toList_append_eq (toList_append_eq String.toList_ofList
      String.toList_ofList) String.toList_ofList) String.toList_ofList) String.toList_ofList
  have hread : (Draft.ofSource (pairSource "f") "b.py").toOption.map
      (·.declared.services.map fun s => (s.name, s.methods.map (·.name))) =
      some [("A", ["f"])] := by
    rw [Draft.ofSource_eq hchars]
    decide +kernel
  have hclasses : (Grammar.readModule (pairSource "f").toList).toOption.map outline =
      some [(.service, [], ["f"], ["f"]), (.server, ["A"], ["f"], ["f"])] := by
    rw [hchars]
    decide +kernel
  obtain ⟨d, hd, hservices⟩ := exists_of_toOption_map hread
  obtain ⟨body, hbody, houtline⟩ := exists_of_toOption_map hclasses
  obtain ⟨s, hs, hsname, m, hm, hmname⟩ := exists_method_of_names hservices
  obtain ⟨c, hc, hmarker, hbases, hfunctions, hnames⟩ :=
    exists_class_of_outline (houtline ▸ List.mem_cons_of_mem _ List.mem_cons_self)
  have hbase : s.name ∈ plainNames c.bases := by rw [hsname, hbases]; exact List.mem_cons_self
  have hbare : ∀ t ∈ c.body, onlyAnnotates m.transportName t = false := by
    intro t ht
    by_contra h
    have hbinds := hnames t ht _ (binds_of_onlyAnnotates (by simpa using h))
    rw [Method.transportName, hmname] at hbinds
    simp at hbinds
  exact ⟨d, body, c, s, m, hd, hbody, hc, hmarker, hs, hbase, hm, hmname,
    transport_implemented hd hbody hc hmarker hs hbase hm
      (hmname ▸ hfunctions "f" List.mem_cons_self) (by rw [hmname]; decide)
      (by rw [hmname]; decide) hbare⟩

/-- **The transport method of a private method** is abstract in the interface, and the server that
defines the private method has nothing of that name. -/
theorem transport_missing :
    ∃ d body c s m, Draft.ofSource (pairSource "_f") "b.py" = .ok d ∧
      Grammar.readModule (pairSource "_f").toList = .ok body ∧
      (∃ t ∈ body, Marks (.ofModule body) t c) ∧ c.found.marker = .server ∧
      s ∈ d.declared.services ∧ s.name ∈ plainNames c.bases ∧ m ∈ s.methods ∧
      (∃ f ∈ c.body.filterMap definition?, f.name = m.name ∧ f.decorators = []) ∧
      DeclaresAbstract s m.transportName ∧ (∀ t ∈ c.body, ¬ Binds m.transportName t) ∧
      ∀ server ∈ d.declared.servers, ¬ d.AddsTo server m.transportName := by
  have hchars : (pairSource "_f").toList = _ :=
    toList_append_eq (toList_append_eq (toList_append_eq (toList_append_eq String.toList_ofList
      String.toList_ofList) String.toList_ofList) String.toList_ofList) String.toList_ofList
  have hread : (Draft.ofSource (pairSource "_f") "b.py").toOption.map (fun d =>
      (d.declared.services.map (fun s => (s.name, s.methods.map (·.name))),
        d.declared.servers.all fun server =>
          (d.complete.edits.getD []).all (·.start != server.lastLine))) =
      some ([("A", ["_f"])], true) := by
    rw [Draft.ofSource_eq hchars]
    decide +kernel
  have hclasses : (Grammar.readModule (pairSource "_f").toList).toOption.map outline =
      some [(.service, [], ["_f"], ["_f"]), (.server, ["A"], ["_f"], ["_f"])] := by
    rw [hchars]
    decide +kernel
  obtain ⟨d, hd, hdeclared⟩ := exists_of_toOption_map hread
  obtain ⟨body, hbody, houtline⟩ := exists_of_toOption_map hclasses
  obtain ⟨hservices, hedits⟩ := Prod.mk.inj hdeclared
  obtain ⟨s, hs, hsname, m, hm, hmname⟩ := exists_method_of_names hservices
  obtain ⟨c, hc, hmarker, hbases, hfunctions, hnames⟩ :=
    exists_class_of_outline (houtline ▸ List.mem_cons_of_mem _ List.mem_cons_self)
  refine ⟨d, body, c, s, m, hd, hbody, hc, hmarker, hs, ?_, hm,
    hmname ▸ hfunctions "_f" List.mem_cons_self, ?_, ?_, ?_⟩
  · rw [hsname, hbases]
    exact List.mem_cons_self
  · refine declaresAbstract_transportName hm ?_
    rw [hmname]
    decide
  · intro t ht hbinds
    have hmem := hnames t ht _ hbinds
    rw [Method.transportName, hmname] at hmem
    simp at hmem
  · rintro server hserver ⟨edits, hcomplete, -, e, he, -⟩
    obtain ⟨he, hstart, -⟩ : e ∈ edits ∧ e.start = server.lastLine ∧ e.stop = server.lastLine := by
      simpa [Edit.insertionsAt] using he
    have hother := List.all_eq_true.mp (List.all_eq_true.mp hedits server hserver) e
      (by rw [hcomplete]; exact he)
    simp [hstart] at hother

end Draft

end Expansion

end ServiceStubs
