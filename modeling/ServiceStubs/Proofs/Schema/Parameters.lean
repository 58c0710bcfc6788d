import ServiceStubs.Proofs.Schema.Servers

/-!
# The parameters of a method that was read

A method that is read has a receiver, and everything else it takes binds one value by position. So
its parameters are those of its definition behind the receiver, in their order and by their names.
What is not checked is whether two of them have one name.

## Main definitions

* `Schema.Definition.parameterNames`: the names of the parameters of a definition
* `Schema.Module.methods`: the methods of the services and servers of a module
* `Schema.DefinedIn`: the functions that the classes of a module define

## Main statements

* `Schema.exists_receiver_of_readMethod`: the parameters of a definition that was read
* `Schema.parameterNames_of_readMethod`: their names, and those of the method
* `Schema.exists_definition`: every method comes from a definition
-/

namespace ServiceStubs

namespace Schema

open ServiceStubs.Tree

/-! ### Definitions -/

/-- The names of the parameters of a definition, in order. -/
def Definition.parameterNames (d : Definition) : List String := d.params.map (·.name)

/-- Whether a position binds one value to the parameter. -/
def IsPositional (p : Param) : Prop := p.kind = .positional ∨ p.kind = .plain

section Parameters

variable {owner : String} {d : Definition} {m : Method} {params others : List Param}

theorem isPositional_of_checkKinds (h : checkKinds owner params = .ok ()) :
    ∀ p ∈ params, IsPositional p := by
  have hnone {k : ParamKind} (hfind : params.find? (·.kind == k) = none) :
      ∀ p ∈ params, p.kind ≠ k := fun p hp => by simpa using List.find?_eq_none.mp hfind p hp
  cases hrest : params.find? (·.kind == .rest) with
  | some p =>
    simp only [checkKinds, hrest] at h
    cases h
  | none =>
    cases hkeywordRest : params.find? (·.kind == .keywordRest) with
    | some p =>
      simp only [checkKinds, hrest, hkeywordRest] at h
      cases h
    | none =>
      cases hkeyword : params.find? (·.kind == .keyword) with
      | some p =>
        simp only [checkKinds, hrest, hkeywordRest, hkeyword] at h
        cases h
      | none =>
        intro p hp
        have hrest := hnone hrest p hp
        have hkeywordRest := hnone hkeywordRest p hp
        have hkeyword := hnone hkeyword p hp
        rw [IsPositional]
        cases hkind : p.kind <;> simp_all

theorem positionalOf_eq (h : ∀ p ∈ params, IsPositional p) : positionalOf params = params := by
  rw [positionalOf, List.filter_eq_self]
  intro p hp
  rcases h p hp with hkind | hkind <;> simp [hkind]

/-- What stands behind the receiver. -/
theorem exists_receiver {method : String} {start : Position}
    (h : behindReceiver method start params = .ok others) :
    ∃ receiver, receiver.name = "self" ∧ positionalOf params = receiver :: others := by
  unfold behindReceiver at h
  split at h
  · cases h
  · next first rest hpositional =>
    split at h
    · next hself =>
      obtain rfl := Except.ok.inj h
      exact ⟨first, by simpa using hself, hpositional⟩
    · split at h <;> cases h

theorem name_of_readParameter {p : Param} {q : Parameter} (h : readParameter owner p = .ok q) :
    q.name = p.name ∧ p.name ∉ reservedNames := by
  unfold readParameter at h
  obtain ⟨hreserved, h⟩ := not_of_check (by rintro u ⟨⟩) h
  dsimp only at h
  have hname : q.name = p.name := by
    cases htype : p.type <;> cases hvalue : p.defaultValue <;> simp only [htype, hvalue] at h
    all_goals
      obtain ⟨type, -, h⟩ := exists_of_bind h
      obtain ⟨value, -, h⟩ := exists_of_bind h
      obtain rfl := Except.ok.inj h
      rfl
  exact ⟨hname, by simpa using hreserved⟩

/-- **The parameters of a definition that was read**: the receiver, and those of the method. -/
theorem exists_receiver_of_readMethod (h : readMethod owner d = .ok m) :
    ∃ receiver others, d.params = receiver :: others ∧ receiver.name = "self" ∧
      (∀ p ∈ d.params, IsPositional p) ∧
      List.Forall₂ (fun p q => readParameter (owner ++ "." ++ d.name) p = .ok q) others
        m.parameters := by
  unfold readMethod at h
  obtain ⟨-, h⟩ := not_of_check (by rintro u ⟨⟩) h
  obtain ⟨decorators, -, h⟩ := exists_of_bind h
  obtain ⟨others, hothers, h⟩ := exists_of_bind h
  obtain ⟨⟨⟩, hkinds, h⟩ := exists_of_bind h
  obtain ⟨parameters, hparameters, h⟩ := exists_of_bind h
  obtain ⟨returnType, -, h⟩ := exists_of_bind h
  obtain rfl := Except.ok.inj h
  have hpositional := isPositional_of_checkKinds hkinds
  obtain ⟨receiver, hreceiver, hparams⟩ := exists_receiver hothers
  rw [positionalOf_eq hpositional] at hparams
  exact ⟨receiver, others, hparams, hreceiver, hpositional, forall₂_of_mapM hparameters⟩

/-- **The names of the parameters** are those behind the receiver, and none of them is reserved. -/
theorem parameterNames_of_readMethod (h : readMethod owner d = .ok m) :
    d.parameterNames = "self" :: m.argumentNames ∧ ∀ n ∈ m.argumentNames, n ∉ reservedNames := by
  obtain ⟨receiver, others, hparams, hreceiver, -, hparameters⟩ := exists_receiver_of_readMethod h
  have hnames : others.map (·.name) = m.argumentNames := by
    have hsame := hparameters.imp fun p q hread => (name_of_readParameter hread).1.symm
    rwa [← List.forall₂_map_right_iff, ← List.forall₂_map_left_iff, List.forall₂_eq_eq_eq] at hsame
  refine ⟨by rw [Definition.parameterNames, hparams, List.map_cons, hreceiver, hnames],
    fun n hn => ?_⟩
  obtain ⟨q, hq, rfl⟩ := List.mem_map.mp hn
  obtain ⟨p, -, hread⟩ := (exists_of_forall₂ hparameters).2 q hq
  obtain ⟨hname, hreserved⟩ := name_of_readParameter hread
  rwa [hname]

end Parameters

/-! ### Modules -/

/-- The methods of the services and servers of a module. -/
def Module.methods (m : Module) : List Method :=
  m.services.flatMap (·.methods) ++ m.servers.flatMap (·.methods)

/-- The function is defined in the body of a class among the statements. -/
def DefinedIn (body : List Stmt) (owner : String) (d : Definition) : Prop :=
  ∃ span bases keywords decorators statements,
    .stmt span (.classDef owner bases keywords decorators statements) ∈ body ∧
      ∃ s ∈ statements, definition? s = some d

theorem comesFrom_of_readServer {sourceLines : List String} {services : List Service}
    {c : MarkedClass} {server : Server} (h : readServer sourceLines services c = .ok server) :
    ∀ m ∈ server.methods, ComesFrom c.name c.body m := by
  unfold readServer at h
  obtain ⟨methods, hmethods, h⟩ := exists_of_bind h
  obtain ⟨-, h⟩ := not_of_check (by rintro u ⟨⟩) h
  obtain rfl := Except.ok.inj h
  intro m hm
  obtain ⟨d, hd, hread⟩ := (exists_of_forall₂ (forall₂_of_mapM hmethods)).2 m hm
  obtain ⟨s, hs, hdefinition⟩ := List.mem_filterMap.mp (List.mem_filter.mp hd).1
  exact ⟨s, hs, d, hdefinition, hread⟩

/-- **Every method comes from a definition** in a class of the module. -/
theorem exists_definition {source : String} {m : Module} (h : Module.ofSource source = .ok m)
    {method : Method} (hmethod : method ∈ m.methods) :
    ∃ body owner d, Grammar.readModule source.toList = .ok body ∧ DefinedIn body owner d ∧
      readMethod owner d = .ok method := by
  have hm : m.isEmpty = false := by
    rcases List.mem_append.mp hmethod with hmem | hmem <;>
      obtain ⟨s, hs, -⟩ := List.mem_flatMap.mp hmem
    · exact isEmpty_eq_false_of_mem hs
    · exact isEmpty_eq_false_of_mem_servers hs
  obtain ⟨body, marked, hread, hdeclares⟩ := exists_declares h hm
  -- whichever class it stands in, that is a marked one
  have hclass : ∃ c ∈ marked, ComesFrom c.name c.body method := by
    rcases List.mem_append.mp hmethod with hmem | hmem <;>
      obtain ⟨s, hs, hmem⟩ := List.mem_flatMap.mp hmem
    · obtain ⟨c, hc, hreads⟩ := hdeclares.exists_reads hs
      exact ⟨c, hc, hreads.methods method hmem⟩
    · obtain ⟨c, hc, hserver⟩ := (exists_of_forall₂ hdeclares.servers).2 s hs
      exact ⟨c, (List.mem_filter.mp hc).1, comesFrom_of_readServer hserver method hmem⟩
  obtain ⟨c, hc, s, hs, d, hdefinition, hmethod⟩ := hclass
  obtain ⟨_, hstatement, rfl, -⟩ := (mem_markedClasses_iff hdeclares.classes).mp hc
  exact ⟨body, c.name, d, hread, ⟨c.span, c.bases, c.keywords, c.decorators, c.body, hstatement, s,
    hs, hdefinition⟩, hmethod⟩

end Schema

end ServiceStubs
