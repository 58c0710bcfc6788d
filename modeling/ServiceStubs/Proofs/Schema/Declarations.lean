import ServiceStubs.Proofs.Grammar.Identifiers
import ServiceStubs.Proofs.Schema.Claims

/-!
# What reading a module says about it

A module that is read without a fault holds what its statements say: every service and every server
comes from a marked class, every method from a function in the body of its class, and every name
that the expansion will bind was claimed.

## Main definitions

* `Schema.Reads`: a service and the class that declares it
* `Schema.Declares`: a module and its statements

## Main statements

* `Schema.reads_of_readService`, `Schema.declares_of_ofBody`: what is read is such
-/

namespace ServiceStubs

namespace Schema

open Tree

/-! ### Methods -/

theorem name_of_readMethod {owner : String} {d : Definition} {m : Method}
    (h : readMethod owner d = .ok m) : m.name = d.name ∧ d.isAsync = false := by
  unfold readMethod at h
  obtain ⟨hasync, h⟩ := not_of_check (by rintro u ⟨⟩) h
  obtain ⟨decorators, -, h⟩ := exists_of_bind h
  obtain ⟨params, -, h⟩ := exists_of_bind h
  obtain ⟨-, -, h⟩ := exists_of_bind h
  obtain ⟨parameters, -, h⟩ := exists_of_bind h
  obtain ⟨returnType, -, h⟩ := exists_of_bind h
  obtain rfl := Except.ok.inj h
  exact ⟨rfl, by simpa using hasync⟩

/-! ### Services -/

/-- The names that a method binds in the interface. -/
def Method.interfaceNames (m : Method) : List String := [m.name, m.transportName]

/-- The method comes from one of the statements. -/
def ComesFrom (owner : String) (body : List Stmt) (m : Method) : Prop :=
  ∃ s ∈ body, ∃ d, definition? s = some d ∧ readMethod owner d = .ok m

/-- A service that a class declares. -/
structure Reads (c : MarkedClass) (s : Service) : Prop where
  name : s.name = c.name
  docstring : s.docstring = docstringOf c.body
  bases : ∃ plain keywords, s.bases = plain ++ keywords ∧
    List.Forall₂ (fun e text => writtenForm e.text = .ok text) c.bases plain ∧
    List.Forall₂ (fun w text => writtenForm w.text = .ok text) c.keywords keywords
  decorators : List.Forall₂
    (fun d text => writtenForm d.expr.text = .ok text) c.otherDecorators s.decorators
  methods : ∀ m ∈ s.methods, ComesFrom c.name c.body m
  interface : (s.methods.flatMap Method.interfaceNames).Nodup
  client : ("client" :: s.methods.flatMap Method.clientNames).Nodup

/-- The names of the methods so far were claimed. -/
structure Collects (owner : String) (start : ServiceBody) (body : List Stmt) (acc : ServiceBody) :
    Prop where
  methods : ∀ m ∈ acc.methods, ComesFrom owner body m
  interface : start.interface.Adds acc.interface (acc.methods.flatMap Method.interfaceNames)
  client : start.client.Adds acc.client (acc.methods.flatMap Method.clientNames)

theorem Collects.statement {owner : String} {start acc acc' : ServiceBody} {body : List Stmt}
    (hacc : Collects owner start body acc) {s : Stmt}
    (h : readServiceStatement owner acc s = .ok acc') :
    Collects owner start (body ++ [s]) acc' := by
  have hmore : ∀ m, ComesFrom owner body m → ComesFrom owner (body ++ [s]) m := by
    rintro m ⟨t, ht, hd⟩
    exact ⟨t, List.mem_append_left _ ht, hd⟩
  unfold readServiceStatement at h
  split at h
  · obtain rfl := Except.ok.inj h
    exact ⟨fun m hm => hmore m (hacc.methods m hm), hacc.interface, hacc.client⟩
  · split at h
    · cases h
    · next d hd =>
      obtain ⟨method, hmethod, h⟩ := exists_of_bind h
      obtain ⟨-, h⟩ := not_of_check (by rintro u ⟨⟩) h
      obtain ⟨interface, hinterface, h⟩ := exists_of_bind h
      obtain ⟨client, hclient, h⟩ := exists_of_bind h
      obtain rfl := Except.ok.inj h
      refine ⟨?_, ?_, ?_⟩
      · intro m hm
        rcases List.mem_append.mp hm with hm | hm
        · exact hmore m (hacc.methods m hm)
        · obtain rfl := List.mem_singleton.mp hm
          exact ⟨s, by simp, d, hd, hmethod⟩
      · rw [List.flatMap_append, List.flatMap_singleton]
        exact hacc.interface.trans (Scope.adds_claimAll hinterface)
      · rw [List.flatMap_append, List.flatMap_singleton]
        exact hacc.client.trans (Scope.adds_claimAll hclient)

theorem reads_of_readService {c : MarkedClass} {s : Service} (h : readService c = .ok s) :
    Reads c s := by
  unfold readService at h
  obtain ⟨client, hclient, h⟩ := exists_of_bind h
  obtain ⟨acc, hacc, h⟩ := exists_of_bind h
  obtain ⟨bases, hbases, h⟩ := exists_of_bind h
  obtain ⟨keywords, hkeywords, h⟩ := exists_of_bind h
  obtain ⟨decorators, hdecorators, h⟩ := exists_of_bind h
  obtain rfl := Except.ok.inj h
  have hcollects := fold_of_foldlM hacc (P := Collects c.name _)
    ⟨by simp, .nothing _, .nothing _⟩ fun _ _ _ _ hbefore hstep => hbefore.statement hstep
  have hclient := (Scope.adds_claimName hclient).trans hcollects.client
  refine ⟨rfl, rfl, ⟨bases, keywords, rfl, forall₂_of_mapM hbases, forall₂_of_mapM hkeywords⟩,
    forall₂_of_mapM hdecorators, hcollects.methods, ?_, ?_⟩
  · have := hcollects.interface.nodup (by simp [Scope.empty, Scope.names])
    rwa [hcollects.interface.names] at this
  · have := hclient.nodup (by simp [Scope.empty, Scope.names])
    rwa [hclient.names] at this

/-! ### Modules -/

/-- The names that the expansion of a service binds at module level. -/
def Service.moduleNames (s : Service) : List String :=
  [s.name, s.clientName, s.factoryName, s.typeVariable] ++ s.methods.map s.constantName

/-- The names that a module binds itself and that none of its services has. -/
def ownNames (declared : List String) (body : List Stmt) : List String :=
  ((boundNames body).filter fun entry => !declared.contains entry.1).map (·.1)

/-- A module that declares something. -/
structure Declares (sourceLines : List String) (body : List Stmt) (marked : List MarkedClass)
    (m : Module) : Prop where
  classes : markedClasses (.ofModule body) body = .ok marked
  services : List.Forall₂ Reads (marked.filter (·.found.marker == .service)) m.services
  servers : List.Forall₂ (fun c s => readServer sourceLines m.services c = .ok s)
    (marked.filter (·.found.marker == .server)) m.servers
  nodup : (importAliases ++ ownNames (m.services.map (·.name)) body ++
    m.services.flatMap Service.moduleNames).Nodup

theorem adds_claimModuleNames {declared : List String} {body : List Stmt} {t : Scope}
    (h : claimModuleNames declared body = .ok t) :
    (Scope.empty "module").Adds t (importAliases ++ ownNames declared body) := by
  unfold claimModuleNames at h
  obtain ⟨u, hu, h⟩ := exists_of_bind h
  have hown : u.Adds t (ownNames declared body) := by
    rw [ownNames, List.map_eq_flatMap]
    exact Scope.adds_foldlM (fun _ _ _ _ hclaim => Scope.adds_claimName hclaim) h
  exact (Scope.adds_claimAll hu).trans hown

theorem adds_claimService {s : Service} {start : Position} {t u : Scope}
    (h : claimService t s start = .ok u) :
    t.Adds u ([s.clientName, s.factoryName, s.typeVariable] ++ s.methods.map s.constantName) := by
  unfold claimService at h
  obtain ⟨v, hv, h⟩ := exists_of_bind h
  have hconstants : v.Adds u (s.methods.map s.constantName) := by
    rw [List.map_eq_flatMap]
    exact Scope.adds_foldlM (fun _ _ _ _ hclaim => Scope.adds_claimName hclaim) h
  exact (Scope.adds_claimAll hv).trans hconstants

/-- The services that were read and the names that were claimed for them. -/
structure Gathers (start : Scope) (classes : List MarkedClass) (acc : List Service × Scope) :
    Prop where
  services : List.Forall₂ Reads classes acc.1
  names : start.Adds acc.2 (acc.1.flatMap Service.moduleNames)

theorem Gathers.addService {start : Scope} {classes : List MarkedClass} {c : MarkedClass}
    {acc acc' : List Service × Scope} (hacc : Gathers start classes acc)
    (h : addService acc c = .ok acc') : Gathers start (classes ++ [c]) acc' := by
  unfold Schema.addService at h
  obtain ⟨named, hnamed, h⟩ := exists_of_bind h
  obtain ⟨s, hs, h⟩ := exists_of_bind h
  obtain ⟨claimed, hclaimed, h⟩ := exists_of_bind h
  obtain rfl := Except.ok.inj h
  have hreads := reads_of_readService hs
  have hname := Scope.adds_claimName hnamed
  rw [← hreads.name] at hname
  refine ⟨List.rel_append hacc.services (.cons hreads .nil), ?_⟩
  rw [List.flatMap_append, List.flatMap_singleton]
  exact hacc.names.trans (hname.trans (adds_claimService hclaimed))

theorem names_eq_of_reads {classes : List MarkedClass} {services : List Service}
    (h : List.Forall₂ Reads classes services) : classes.map (·.name) = services.map (·.name) := by
  induction h with
  | nil => rfl
  | cons hreads _ ih => rw [List.map_cons, List.map_cons, hreads.name, ih]

theorem declares_of_ofBody {sourceLines : List String} {body : List Stmt} {m : Module}
    (h : Module.ofBody sourceLines body = .ok m) (hm : m.isEmpty = false) :
    ∃ marked, Declares sourceLines body marked m := by
  unfold Module.ofBody at h
  dsimp only at h
  split at h
  · obtain rfl := Except.ok.inj h
    simp [Module.isEmpty] at hm
  · obtain ⟨-, -, h⟩ := exists_of_bind h
    obtain ⟨marked, hmarked, h⟩ := exists_of_bind h
    split at h
    · obtain rfl := Except.ok.inj h
      simp [Module.isEmpty] at hm
    · obtain ⟨scope, hscope, h⟩ := exists_of_bind h
      obtain ⟨⟨services, scope'⟩, hservices, h⟩ := exists_of_bind h
      obtain ⟨servers, hservers, h⟩ := exists_of_bind h
      obtain rfl := Except.ok.inj h
      have hgathers : Gathers scope (marked.filter (·.found.marker == .service))
          (services, scope') :=
        fold_of_foldlM hservices ⟨.nil, .nothing _⟩ fun _ _ _ _ hbefore hstep =>
          hbefore.addService hstep
      have hnames := names_eq_of_reads hgathers.services
      refine ⟨marked, hmarked, hgathers.services, forall₂_of_mapM hservers, ?_⟩
      have hadds := (adds_claimModuleNames hscope).trans hgathers.names
      have := hadds.nodup (by simp [Scope.empty, Scope.names])
      rwa [hadds.names, hnames] at this

end Schema

end ServiceStubs
