import ServiceStubs.Proofs.Expansion.Artifacts
import ServiceStubs.Proofs.Expansion.Characters
import ServiceStubs.Proofs.Schema.Parameters
import ServiceStubs.Proofs.Schema.Servers

/-!
# Methods added to a server

The methods that the expansion adds to a server are read off their lines. Each is the transport
method of a function in the body, and none of them is a name that a statement of the body defines,
assigns to by itself or annotates.

A function that is defined several times gets a transport method for each definition. Other ways to
bind a name, such as the target of an import or of an assignment to several names at once, are not
looked for.

## Main definitions

* `Expansion.injectedNames`: the names of the methods added to a server

## Main statements

* `Expansion.injectedNames_apart`: what is added is neither authored nor more than what is defined
-/

namespace ServiceStubs

namespace Expansion

open Schema Tree

/-- The names of the methods that are added to a server. -/
def injectedNames (server : Server) : List String :=
  (serverMethods server).lines.filterMap functionName?

theorem appendGrpc_injective : Function.Injective fun n : String => n ++ "_grpc" :=
  by
  intro a b h
  rw [← String.toList_inj] at h ⊢
  simpa using h

theorem injectedNames_eq {server : Server} (h : ∀ m ∈ server.methods, Plain m.name) :
    injectedNames server = server.methods.map (·.transportName) := by
  have hmethod : ∀ m ∈ server.methods,
      ("" :: (serverMethod m).lines).filterMap functionName? = [m.transportName] := by
    intro m hm
    rw [List.filterMap_cons_none functionName?_empty]
    exact functionNames_function (h m hm).transportName _ _ _
  rw [injectedNames, serverMethods]
  dsimp only
  rw [List.flatMap_map, List.filterMap_flatMap, List.map_eq_flatMap]
  exact List.flatMap_congr hmethod

/-- **What is added to a server** is bound by no statement of its body that authors it, and a
transport method is added at most once for each definition of its method. -/
theorem injectedNames_apart {source : String} {m : Module} (h : Module.ofSource source = .ok m)
    {server : Server} (hserver : server ∈ m.servers) :
    ∃ body c, Grammar.readModule source.toList = .ok body ∧
      (∃ s ∈ body, Marks (.ofModule body) s c) ∧ c.found.marker = .server ∧
      Serves (Text.splitLines source) c server ∧
      (∀ n ∈ injectedNames server,
        (∃ d ∈ c.body.filterMap definition?, d.name ++ "_grpc" = n) ∧ ∀ s ∈ c.body, ¬ Authors n s) ∧
      ∀ n, (injectedNames server).count (n ++ "_grpc") ≤
        ((c.body.filterMap definition?).map (·.name)).count n := by
  obtain ⟨body, c, hread, hmarks, hmarker, hbody, hreads⟩ := exists_readServer h hserver
  have hplain : ∀ m ∈ server.methods, Plain m.name := fun m hm =>
    .of_isIdentifier (Declares.isName_of_comesFrom hbody (comesFrom_of_readServer hreads m hm)).1
  have hnames := names_of_readServer hreads
  have hsub : (server.methods.map (·.name)).Sublist ((c.body.filterMap definition?).map (·.name)) :=
    hnames ▸ List.filter_sublist.map _
  have hinjected : injectedNames server = (server.methods.map (·.name)).map (· ++ "_grpc") := by
    rw [injectedNames_eq hplain, List.map_map]
    rfl
  refine ⟨body, c, hread, hmarks, hmarker, serves_of_readServer hreads,
    fun n hn => ⟨?_, fun s hs hauthors => ?_⟩, fun n => ?_⟩
  · rw [hinjected] at hn
    obtain ⟨name, hname, rfl⟩ := List.mem_map.mp hn
    obtain ⟨d, hd, rfl⟩ := List.mem_map.mp (hsub.subset hname)
    exact ⟨d, hd, rfl⟩
  · rw [injectedNames_eq hplain] at hn
    obtain ⟨m, hm, rfl⟩ := List.mem_map.mp hn
    exact transportName_notMem_authoredNames hreads hm (mem_authoredNames hs hauthors)
  · rw [hinjected, List.count_map_of_injective _ _ appendGrpc_injective]
    exact hsub.count_le n

/-! ### Two definitions and a tuple -/

/-- A server with the given lines in its body. -/
def serverSource (lines : String) : String :=
  "from grpc_stub_generator import server\n@server\nclass B:\n" ++ lines

theorem injectedNames_apart_call :
    ∃ m server, Module.ofSource (serverSource " def f(self): pass\n") = .ok m ∧
      server ∈ m.servers ∧ injectedNames server = ["f_grpc"] ∧
      ∃ body c, Grammar.readModule (serverSource " def f(self): pass\n").toList = .ok body ∧
        (∃ s ∈ body, Marks (.ofModule body) s c) ∧ c.found.marker = .server ∧
        Serves (Text.splitLines (serverSource " def f(self): pass\n")) c server ∧
        (∀ n ∈ injectedNames server,
          (∃ d ∈ c.body.filterMap definition?, d.name ++ "_grpc" = n) ∧
            ∀ s ∈ c.body, ¬ Authors n s) ∧
        ∀ n, (injectedNames server).count (n ++ "_grpc") ≤
          ((c.body.filterMap definition?).map (·.name)).count n := by
  have hread : (Module.ofSource (serverSource " def f(self): pass\n")).toOption.map
      (·.servers.map injectedNames) = some [["f_grpc"]] := by
    rw [Module.ofSource_eq (show (serverSource " def f(self): pass\n").toList = _ from
      toList_append_eq String.toList_ofList String.toList_ofList)]
    decide +kernel
  obtain ⟨m, hm, hservers⟩ := exists_of_toOption_map hread
  obtain ⟨server, hserver, hnames⟩ := List.mem_map.mp (hservers ▸ List.mem_singleton.mpr rfl)
  exact ⟨m, server, hm, hserver, hnames, injectedNames_apart hm hserver⟩

/-- The names that a statement assigns to as one pair. -/
def pairTargets (s : Stmt) : List String :=
  match s.node with
  | .assign [.tuple [.name a, .name b]] _ => [a, b]
  | _ => []

theorem binds_of_mem_pairTargets {n : String} {s : Stmt} (h : n ∈ pairTargets s) : Binds n s := by
  obtain ⟨span, node⟩ := s
  dsimp only [pairTargets, Stmt.node] at h
  split at h
  · rcases by simpa using h with rfl | rfl
    · exact .assign List.mem_cons_self (.tuple (List.mem_cons_self) .name)
    · exact .assign List.mem_cons_self (.tuple (List.mem_cons_of_mem _ List.mem_cons_self) .name)
  · cases h

/-- A server that defines a method twice and binds its transport method in a pair. -/
def pairedSource : String :=
  serverSource " def f(self): pass\n def f(self): pass\n f_grpc, g = 0, 0\n"

/-- The transport method is added twice, over the one that the body binds. -/
theorem injectedNames_meet_pair :
    ∃ m server body c, Module.ofSource pairedSource = .ok m ∧ server ∈ m.servers ∧
      Grammar.readModule pairedSource.toList = .ok body ∧
      (∃ s ∈ body, Marks (.ofModule body) s c) ∧
      readServer (Text.splitLines pairedSource) m.services c = .ok server ∧
      injectedNames server = ["f_grpc", "f_grpc"] ∧ ∃ s ∈ c.body, Binds "f_grpc" s := by
  have hread : (Module.ofSource pairedSource).toOption.map (·.servers.map injectedNames) =
      some [["f_grpc", "f_grpc"]] := by
    rw [Module.ofSource_eq (show pairedSource.toList = _ from
      toList_append_eq String.toList_ofList String.toList_ofList)]
    decide +kernel
  have htargets : (Grammar.readModule pairedSource.toList).toOption.map (fun body =>
      (markedClasses (.ofModule body) body).toOption.map
        (·.map fun c => c.body.flatMap pairTargets)) = some (some [["f_grpc", "g"]]) := by
    rw [show pairedSource.toList = _ from toList_append_eq String.toList_ofList String.toList_ofList]
    decide +kernel
  obtain ⟨m, hm, hservers⟩ := exists_of_toOption_map hread
  obtain ⟨server, hserver, hnames⟩ := List.mem_map.mp (hservers ▸ List.mem_singleton.mpr rfl)
  obtain ⟨body, c, hbody, hmarks, -, -, hreads⟩ := exists_readServer hm hserver
  obtain ⟨_, hsame, hclasses⟩ := exists_of_toOption_map htargets
  obtain rfl := Except.ok.inj (hbody.symm.trans hsame)
  obtain ⟨marked, hmarked, hpairs⟩ := exists_of_toOption_map hclasses
  have hc := List.mem_map_of_mem (f := fun c => c.body.flatMap pairTargets)
    ((mem_markedClasses_iff hmarked).mpr hmarks)
  rw [hpairs, List.mem_singleton] at hc
  obtain ⟨s, hs, hpair⟩ := List.mem_flatMap.mp (hc ▸ List.mem_cons_self : "f_grpc" ∈ _)
  exact ⟨m, server, body, c, hm, hserver, hbody, hmarks, hreads, hnames, s, hs,
    binds_of_mem_pairTargets hpair⟩

end Expansion

end ServiceStubs
