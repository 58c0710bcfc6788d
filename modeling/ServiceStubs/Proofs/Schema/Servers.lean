import Mathlib.Data.List.Flatten
import Mathlib.Data.List.Nodup
import ServiceStubs.Proofs.Schema.Bindings
import ServiceStubs.Proofs.Schema.Origin

/-!
# Which methods of a server get a counterpart

A server has to talk to the transport for every method of the services it implements. A function in
its body is left alone if its name is private or is that of a transport method already, if the body
has its counterpart, or if a decorator takes it off the instance. All others get a counterpart.

## Main definitions

* `Schema.plainNames`: the bases that are given by name
* `Schema.onlyAnnotates`: a statement that gives a name a type and no value
* `Schema.Serves`: a server and the class that implements it

## Main statements

* `Schema.exists_binds_of_mem_authoredNames`: what a body is taken to bind, it binds
* `Schema.exists_method_of_needsCounterpart`: what lacks a counterpart gets one
* `Schema.Declares.mem_implementedServices`: a base that names a service is that service
-/

namespace ServiceStubs

namespace Schema

open Tree

/-- The names among the bases of a class. -/
def plainNames (bases : List Expr) : List String :=
  bases.filterMap fun
    | .name id => some id
    | _ => none

/-- Whether the statement gives the name a type and no value. -/
def onlyAnnotates (n : String) (s : Stmt) : Bool :=
  match s.node with
  | .annotated (.name id) _ none _ => id == n
  | _ => false

theorem binds_of_onlyAnnotates {n : String} {s : Stmt} (h : onlyAnnotates n s = true) :
    Binds n s := by
  obtain ⟨span, node⟩ := s
  dsimp only [onlyAnnotates, Stmt.node] at h
  split at h
  · obtain rfl := by simpa using h
    exact .annotated .name
  · cases h

/-- **What a body is taken to bind it binds**, unless it only annotates it. -/
theorem exists_binds_of_mem_authoredNames {n : String} {body : List Stmt}
    (h : n ∈ authoredNames body) : ∃ s ∈ body, Binds n s := by
  obtain ⟨⟨span, node⟩, hs, hn⟩ := List.mem_flatMap.mp h
  refine ⟨_, hs, ?_⟩
  dsimp only [Stmt.node] at hn
  split at hn
  · obtain rfl := List.mem_singleton.mp hn
    exact .function
  · obtain rfl := List.mem_singleton.mp hn
    exact .classDef
  · obtain ⟨e, he, hid⟩ := List.mem_filterMap.mp hn
    cases e with
    | name id =>
      obtain rfl := Option.some.inj hid
      exact .assign he .name
    | _ => cases hid
  · obtain rfl := List.mem_singleton.mp hn
    exact .annotated .name
  · cases hn

/-- The statement binds the name in one of the forms that are looked for: it defines it, assigns to
it by itself, or annotates it. -/
inductive Authors (n : String) : Stmt → Prop
  | function {span : Span} {isAsync : Bool} {params : List Param} {returns : Option Expr}
    {decorators : List Decorator} {body : List Stmt} :
    Authors n (.stmt span (.function isAsync n params returns decorators body))
  | classDef {span : Span} {bases : List Expr} {keywords : List Keyword}
    {decorators : List Decorator} {body : List Stmt} :
    Authors n (.stmt span (.classDef n bases keywords decorators body))
  | assign {span : Span} {targets : List Expr} {value : Expr} (h : .name n ∈ targets) :
    Authors n (.stmt span (.assign targets value))
  | annotated {span : Span} {type : Expr} {value : Option Expr} {simple : Bool} :
    Authors n (.stmt span (.annotated (.name n) type value simple))

theorem mem_authoredNames {n : String} {body : List Stmt} {s : Stmt} (hs : s ∈ body)
    (h : Authors n s) : n ∈ authoredNames body := by
  refine List.mem_flatMap.mpr ⟨s, hs, ?_⟩
  cases h with
  | function => exact List.mem_singleton_self n
  | classDef => exact List.mem_singleton_self n
  | assign h => exact List.mem_filterMap.mpr ⟨_, h, rfl⟩
  | annotated => exact List.mem_singleton_self n

/-! ### Methods -/

/-- The names of the methods of the services that a class with the given bases implements, if there
are such services. -/
def remoteNames (services : List Service) (bases : List Expr) : Option (List String) :=
  if (implementedServices services bases).isEmpty then none
  else some ((implementedServices services bases).flatMap fun s => s.methods.map (·.name))

/-- The blanks in front of the body of a class, on the line that its first statement starts on. -/
def bodyBlanks (sourceLines : List String) (c : MarkedClass) : String :=
  let first := (c.body.head?.map (·.start)).getD c.span.start
  String.ofList (Text.indentOf (sourceLines[first.line - 1]?.getD "").toList)

/-- A server and the class that implements it: where the class ends, and how its body is
indented. -/
structure Serves (sourceLines : List String) (c : MarkedClass) (server : Server) : Prop where
  name : server.name = c.name
  lastLine : server.lastLine = c.span.endLine
  bodyIndent : bodyBlanks sourceLines c ≠ "" → server.bodyIndent = bodyBlanks sourceLines c

theorem serves_of_readServer {sourceLines : List String} {services : List Service}
    {c : MarkedClass} {server : Server} (h : readServer sourceLines services c = .ok server) :
    Serves sourceLines c server := by
  unfold readServer at h
  obtain ⟨methods, -, h⟩ := exists_of_bind h
  obtain ⟨-, h⟩ := not_of_check (by rintro u ⟨⟩) h
  obtain rfl := Except.ok.inj h
  refine ⟨rfl, rfl, fun hblanks => ?_⟩
  exact if_neg (by simpa [bodyBlanks] using hblanks)

/-- **What lacks a counterpart gets one.** -/
theorem exists_method_of_needsCounterpart {sourceLines : List String} {services : List Service}
    {c : MarkedClass} {server : Server} (h : readServer sourceLines services c = .ok server)
    {d : Definition} (hd : d ∈ c.body.filterMap definition?)
    (hneeds : needsCounterpart (remoteNames services c.bases) (authoredNames c.body) d = true) :
    ∃ m ∈ server.methods, m.name = d.name := by
  unfold readServer at h
  obtain ⟨methods, hmethods, h⟩ := exists_of_bind h
  obtain ⟨-, h⟩ := not_of_check (by rintro u ⟨⟩) h
  obtain rfl := Except.ok.inj h
  obtain ⟨m, hm, hread⟩ :=
    (exists_of_forall₂ (forall₂_of_mapM hmethods)).1 d (List.mem_filter.mpr ⟨hd, hneeds⟩)
  exact ⟨m, hm, (name_of_readMethod hread).1⟩

/-- The methods of a server are the definitions in its body that lack their counterpart, in order.
-/
theorem names_of_readServer {sourceLines : List String} {services : List Service}
    {c : MarkedClass} {server : Server} (h : readServer sourceLines services c = .ok server) :
    server.methods.map (·.name) = ((c.body.filterMap definition?).filter
      (needsCounterpart (remoteNames services c.bases) (authoredNames c.body))).map (·.name) := by
  unfold readServer at h
  obtain ⟨methods, hmethods, h⟩ := exists_of_bind h
  obtain ⟨-, h⟩ := not_of_check (by rintro u ⟨⟩) h
  obtain rfl := Except.ok.inj h
  rw [← List.forall₂_eq_eq_eq, List.forall₂_map_left_iff, List.forall₂_map_right_iff]
  exact (forall₂_of_mapM hmethods).flip.imp fun _ _ h => (name_of_readMethod h).1

theorem transportName_notMem_authoredNames {sourceLines : List String} {services : List Service}
    {c : MarkedClass} {server : Server} (h : readServer sourceLines services c = .ok server)
    {m : Method} (hm : m ∈ server.methods) : m.transportName ∉ authoredNames c.body := by
  obtain ⟨d, hd, hname⟩ := List.mem_map.mp (names_of_readServer h ▸ List.mem_map_of_mem hm)
  have hneeds := (List.mem_filter.mp hd).2
  simp only [needsCounterpart, Bool.and_eq_true, Bool.not_eq_true', ← Bool.not_eq_true,
    List.contains_iff_mem] at hneeds
  rw [Method.transportName, ← hname]
  exact hneeds.1.2

/-! ### Services -/

namespace Declares

variable {sourceLines : List String} {body : List Stmt} {marked : List MarkedClass} {m : Module}

theorem nodup_serviceNames (h : Declares sourceLines body marked m) :
    (m.services.map (·.name)).Nodup := by
  rw [List.map_eq_flatMap]
  refine (h.nodup.of_append_right).sublist (List.Sublist.flatMap_right _ fun s _ => ?_)
  exact List.singleton_sublist.mpr List.mem_cons_self

/-- A base that names a service is that service. -/
theorem mem_implementedServices (h : Declares sourceLines body marked m) {s : Service}
    (hs : s ∈ m.services) {bases : List Expr} (hbase : s.name ∈ plainNames bases) :
    s ∈ implementedServices m.services bases := by
  obtain ⟨e, he, hname⟩ := List.mem_filterMap.mp hbase
  have hfind : m.services.find? (·.name == s.name) = some s := by
    cases ht : m.services.find? (·.name == s.name) with
    | none =>
      have hnone := List.find?_eq_none.mp ht s hs
      simp at hnone
    | some t =>
      have htname : t.name = s.name := by simpa using List.find?_some ht
      rw [List.inj_on_of_nodup_map h.nodup_serviceNames (List.mem_of_find?_eq_some ht) hs htname]
  refine List.mem_filterMap.mpr ⟨e, he, ?_⟩
  cases e with
  | name id =>
    obtain rfl := Option.some.inj hname
    exact hfind
  | _ => cases hname

/-- A method of an implemented service, defined without decorators under a name that is neither
private nor that of a transport method, needs a counterpart unless the body has it. -/
theorem needsCounterpart_eq_true (h : Declares sourceLines body marked m) {s : Service}
    (hs : s ∈ m.services) {bases : List Expr} (hbase : s.name ∈ plainNames bases) {method : Method}
    (hmethod : method ∈ s.methods) {d : Definition} (hname : d.name = method.name)
    (hdecorators : d.decorators = []) (hopen : method.name.toList.head? ≠ some '_')
    (hown : isTransportName method.name = false) {authored : List String}
    (hauthored : method.transportName ∉ authored) :
    needsCounterpart (remoteNames m.services bases) authored d = true := by
  have hmem := h.mem_implementedServices hs hbase
  have hsome : (implementedServices m.services bases).isEmpty = false := by
    rw [List.isEmpty_eq_false_iff_exists_mem]
    exact ⟨s, hmem⟩
  have hremote : method.name ∈
      (implementedServices m.services bases).flatMap fun s => s.methods.map (·.name) :=
    List.mem_flatMap.mpr ⟨s, hmem, List.mem_map_of_mem hmethod⟩
  have habsent : (method.name ++ "_grpc") ∉ authored := hauthored
  unfold needsCounterpart remoteNames
  rw [hsome, hname, hdecorators, hown]
  simp only [Bool.false_eq_true, if_false, List.any_nil, Bool.not_false, Bool.and_true,
    Bool.and_eq_true, bne_iff_ne, List.contains_iff_mem, Bool.not_eq_true']
  exact ⟨⟨hopen, hremote⟩, by simpa using habsent⟩

end Declares

/-- Every server comes from a class of the module that is marked as one. -/
theorem exists_readServer {source : String} {m : Module} (h : Module.ofSource source = .ok m)
    {server : Server} (hserver : server ∈ m.servers) :
    ∃ body c, Grammar.readModule source.toList = .ok body ∧
      (∃ s ∈ body, Marks (.ofModule body) s c) ∧ c.found.marker = .server ∧
      (∀ s ∈ c.body, Grammar.Named s) ∧
      readServer (Text.splitLines source) m.services c = .ok server := by
  obtain ⟨body, marked, hread, hdeclares⟩ :=
    exists_declares h (isEmpty_eq_false_of_mem_servers hserver)
  obtain ⟨c, hc, hreads⟩ := (exists_of_forall₂ hdeclares.servers).2 server hserver
  obtain ⟨hc, hmarker⟩ := List.mem_filter.mp hc
  exact ⟨body, c, hread, (mem_markedClasses_iff hdeclares.classes).mp hc, by simpa using hmarker,
    (hdeclares.isName_class (Grammar.named_of_readModule hread) hc).2, hreads⟩

end Schema

end ServiceStubs
