import Mathlib.Data.List.Perm.Basic
import ServiceStubs.Proofs.Expansion.Artifacts
import ServiceStubs.Proofs.Expansion.Characters
import ServiceStubs.Proofs.Schema.Bindings
import ServiceStubs.Proofs.Schema.Origin

/-!
# The names of an expanded module

The names that an expansion binds at module level are read off the lines that it adds: the aliases
of its imports, and for each service its constants, its interface, its type variable, its factory
and its client. No two of them are the same, and a statement of the module that is looked at binds
none of them, except those that are the name of a service.

## Main definitions

* `Expansion.Draft.generatedNames`: the names that an expansion binds at module level

## Main statements

* `Expansion.Draft.generatedNames_apart`: they are distinct, and the module does not bind them
-/

namespace ServiceStubs

namespace Expansion

open Schema

namespace Draft

/-- The names that the lines of an expansion bind at module level. -/
def generatedNames (d : Draft) : List String :=
  d.complete.importLines.filterMap boundName? ++
    d.declared.services.flatMap fun s => (service s).lines.filterMap boundName?

/-! ### Imports -/

theorem importedNames_sublist (d : Draft) :
    (d.importLines.filterMap boundName?).Sublist importAliases := by
  have hall : (Import.all.map Import.line).filterMap boundName? = importAliases := by decide
  rw [← hall]
  exact ((List.filter_sublist).map _).filterMap _

/-! ### Services -/

/-- What a service binds is what was claimed for it, in another order. -/
theorem boundNames_service_perm (s : Service) (hs : Plain s.name) :
    ((service s).lines.filterMap boundName?).Perm s.moduleNames := by
  have hown : [s.name, s.typeVariable, s.factoryName, s.clientName].Perm
      [s.name, s.clientName, s.factoryName, s.typeVariable] := by
    refine .cons _ ?_
    exact (List.reverse_perm [s.clientName, s.factoryName, s.typeVariable])
  rw [boundNames_service s hs, Service.moduleNames]
  exact List.perm_append_comm.trans (hown.append_right _)

/-! ### The module -/

theorem mem_ownNames {declared : List String} {body : List Tree.Stmt} {n : String} {s : Tree.Stmt}
    (hs : s ∈ body) (h : Binds n s) (hn : n ∉ declared) : n ∈ ownNames declared body := by
  obtain ⟨line, hline⟩ := mem_boundNames_of_binds hs h
  rw [ownNames]
  exact List.mem_map.mpr ⟨(n, line), List.mem_filter.mpr ⟨hline, by simpa using hn⟩, rfl⟩

/-- **The names that an expansion binds are distinct**, and no statement of the module that is
looked at binds one of them unless it is the name of a service. -/
theorem generatedNames_apart {source filename : String} {d : Draft}
    (h : Draft.ofSource source filename = .ok d) (hd : d.hasExpansions = true) :
    d.generatedNames.Nodup ∧ ∃ body, Grammar.readModule source.toList = .ok body ∧
      ∀ n ∈ d.generatedNames, n ∉ d.declared.services.map (·.name) →
        ∀ s ∈ body, ¬ Binds n s := by
  unfold Draft.ofSource at h
  obtain ⟨m, hm, h⟩ := exists_of_bind h
  obtain rfl := Except.ok.inj h
  have hempty : m.isEmpty = false := by simpa [Draft.hasExpansions] using hd
  obtain ⟨body, marked, hread, hdeclares⟩ := exists_declares hm hempty
  have hnamed := Grammar.named_of_readModule hread
  have hservices : (m.services.flatMap fun s => (service s).lines.filterMap boundName?).Perm
      (m.services.flatMap Service.moduleNames) :=
    List.Perm.flatMap_left _ fun s hs =>
      boundNames_service_perm s (hdeclares.plain_service hnamed hs).1
  have hnodup := hdeclares.nodup
  rw [List.append_assoc] at hnodup
  obtain ⟨haliases, hrest, hapart⟩ := List.nodup_append'.mp hnodup
  obtain ⟨-, hmodule, hown⟩ := List.nodup_append'.mp hrest
  have hsub := importedNames_sublist (Draft.complete
    ⟨m, Text.splitLines source, filename, [], none⟩)
  refine ⟨List.nodup_append'.mpr ⟨haliases.sublist hsub, hservices.nodup_iff.mpr hmodule, ?_⟩,
    body, hread, fun n hn hdeclared s hs hbinds => ?_⟩
  · intro n hn hn'
    exact hapart (hsub.subset hn) (List.mem_append_right _ (hservices.mem_iff.mp hn'))
  · have hmem := mem_ownNames hs hbinds hdeclared
    rcases List.mem_append.mp hn with hn | hn
    · exact hapart (hsub.subset hn) (List.mem_append_left _ hmem)
    · exact hown hmem (hservices.mem_iff.mp hn)

/-- An expansion binds all that was claimed for the services of the module. -/
theorem mem_generatedNames {source filename : String} {d : Draft}
    (h : Draft.ofSource source filename = .ok d) {n : String}
    (hn : n ∈ d.declared.services.flatMap Service.moduleNames) : n ∈ d.generatedNames := by
  unfold Draft.ofSource at h
  obtain ⟨m, hm, h⟩ := exists_of_bind h
  obtain rfl := Except.ok.inj h
  obtain ⟨s, hs, hn⟩ := List.mem_flatMap.mp hn
  obtain ⟨body, marked, hread, hdeclares⟩ := exists_declares hm (isEmpty_eq_false_of_mem hs)
  have hplain := (hdeclares.plain_service (Grammar.named_of_readModule hread) hs).1
  have hbound := (boundNames_service_perm s hplain).mem_iff.mpr hn
  exact List.mem_append_right _ (List.mem_flatMap.mpr ⟨s, hs, hbound⟩)

/-- A service with one method. -/
def callSource : String :=
  "from grpc_stub_generator import service\n@service\nclass A:\n def f(self): ...\n"

theorem generatedNames_apart_call :
    ∃ d, Draft.ofSource callSource "a.py" = .ok d ∧ d.hasExpansions = true ∧
      "A_METHOD_F" ∈ d.generatedNames ∧
      (d.generatedNames.Nodup ∧ ∃ body, Grammar.readModule callSource.toList = .ok body ∧
        ∀ n ∈ d.generatedNames, n ∉ d.declared.services.map (·.name) →
          ∀ s ∈ body, ¬ Binds n s) := by
  have hread : (Draft.ofSource callSource "a.py").toOption.map
      (fun d => (d.hasExpansions, d.declared.services.flatMap Service.moduleNames)) =
      some (true, ["A", "AClient", "create_a", "_AT", "A_METHOD_F"]) := by
    rw [Draft.ofSource_eq (show callSource.toList = _ from String.toList_ofList)]
    decide +kernel
  obtain ⟨d, hd, hnames⟩ := exists_of_toOption_map hread
  obtain ⟨hexpands, hnames⟩ := Prod.mk.inj hnames
  have hname : "A_METHOD_F" ∈ d.generatedNames := mem_generatedNames hd (by simp [hnames])
  exact ⟨d, hd, hexpands, hname, generatedNames_apart hd hexpands⟩

/-! ### Statements that are not looked at -/

/-- The name that a loop assigns to. -/
def loopTarget? (s : Tree.Stmt) : Option String :=
  match s.node with
  | .forLoop _ (.name n) _ _ _ => some n
  | _ => none

/-- A module that binds the name of its service once more, and the name of its client in a loop. -/
def loopSource : String :=
  "from grpc_stub_generator import service\n@service\nclass A: pass\n" ++
    "A = 0\nfor AClient in []: pass\n"

/-- The name of a service and the target of a loop are bound by the module and by its expansion. -/
theorem generatedNames_meet_loop :
    ∃ d body, Draft.ofSource loopSource "a.py" = .ok d ∧ d.hasExpansions = true ∧
      Grammar.readModule loopSource.toList = .ok body ∧
      "A" ∈ d.generatedNames ∧ (bindingsOfAll body).map (·.1) = ["service", "A", "A"] ∧
      "AClient" ∈ d.generatedNames ∧ body.filterMap loopTarget? = ["AClient"] := by
  have hread : (Draft.ofSource loopSource "a.py").toOption.map
      (fun d => (d.hasExpansions, d.declared.services.flatMap Service.moduleNames)) =
      some (true, ["A", "AClient", "create_a", "_AT"]) := by
    rw [Draft.ofSource_eq (show loopSource.toList = _ from
      toList_append_eq String.toList_ofList String.toList_ofList)]
    decide +kernel
  have hbody : (Grammar.readModule loopSource.toList).toOption.map
      (fun body => ((bindingsOfAll body).map (·.1), body.filterMap loopTarget?)) =
      some (["service", "A", "A"], ["AClient"]) := by
    rw [show loopSource.toList = _ from toList_append_eq String.toList_ofList String.toList_ofList]
    decide +kernel
  obtain ⟨d, hd, hnames⟩ := exists_of_toOption_map hread
  obtain ⟨body, hbody, hbound⟩ := exists_of_toOption_map hbody
  obtain ⟨hexpands, hnames⟩ := Prod.mk.inj hnames
  obtain ⟨hbound, htargets⟩ := Prod.mk.inj hbound
  have hservice : "A" ∈ d.generatedNames := mem_generatedNames hd (by simp [hnames])
  have hclient : "AClient" ∈ d.generatedNames := mem_generatedNames hd (by simp [hnames])
  exact ⟨d, body, hd, hexpands, hbody, hservice, hbound, hclient, htargets⟩

end Draft

end Expansion

end ServiceStubs
