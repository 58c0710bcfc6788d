import Mathlib.Data.List.Flatten
import Mathlib.Data.List.Perm.Basic
import ServiceStubs.Call.Service
import ServiceStubs.Proofs.Expansion.Artifacts
import ServiceStubs.Proofs.Expansion.Characters
import ServiceStubs.Proofs.Expansion.Private
import ServiceStubs.Proofs.Schema.Origin

/-!
# The artifacts of a service agree

Constants, interface, factory and client are written one by one, and each derives the names it needs
from the declaration. Because every derived name was claimed while the module was read, they fit
together: a constant is bound once in the whole module, so the factory and the client mean the same
method by it, and calls of two methods never meet on one path.

The factory stands at the top level and asks the implementation for a transport method by the name
it was written with, while the interface is a class and may bind that method under another. The
client is a class too and may read a constant under another name than the module binds. So the
artifacts agree where neither of the two names is private.

## Main definitions

* `Expansion.Agrees`: the artifacts of a service say the same of its methods
* `Expansion.SharesNames`: no name that one artifact takes from another is private
* `Expansion.Meets`: what an artifact takes from another is bound there

## Main statements

* `Expansion.artifacts_agree`: the artifacts of every service that was read agree and meet if it
  shares its names, and no two services of a module share a constant or a path
* `Expansion.artifacts_part_private`: a transport method that is asked for under another name than
  it is bound under
-/

namespace ServiceStubs

namespace Expansion

open Schema

/-- The constants of a service as its artifact defines them, in order. -/
def definedConstants (s : Service) : List String := (constantsIn (constants s).lines).map (·.1)

/-- The paths that the constants of a service stand for. -/
def wirePaths (s : Service) : List String :=
  (constantsIn (constants s).lines).map fun c => (Call.Method.mk .unary c.2).path

/-- What the artifacts of a service say, name by name as it is written. -/
structure Agrees (s : Service) : Prop where
  /-- There is a constant for each method, and its wire name is the constant's own. -/
  constants : constantsIn (constants s).lines =
    s.methods.map fun m => (s.constantName m, s.constantName m)
  /-- The factory pairs each constant with the transport method of its method. -/
  handlers : registrationsIn (factory s).lines =
    s.methods.map fun m => (s.constantName m, m.transportName)
  /-- The interface defines each method and its transport method, and nothing twice. -/
  members : ∃ members, (interface s).lines = interfaceHeading s ++ members ∧
    members.filterMap memberName? = s.methods.map (·.name) ++ s.methods.map (·.transportName) ∧
    (members.filterMap memberName?).Nodup
  /-- Both variants with options call the constant of their method. -/
  calls : callsIn (client s).lines = s.methods.flatMap (methodCalls s)
  /-- The client defines each of these variants once. -/
  variants : ∀ c ∈ callsIn (client s).lines,
    ((client s).lines.filterMap memberName?).count c.1 = 1
  /-- The factory registers constants that are defined. -/
  registered : ∀ r ∈ registrationsIn (factory s).lines, r.1 ∈ definedConstants s

/-- No transport method and no constant of the service starts like a private name. -/
def SharesNames (s : Service) : Prop :=
  ∀ m ∈ s.methods, ¬privateMark <+: m.transportName.toList ∧
    ¬privateMark <+: (s.constantName m).toList

/-- What the artifacts of a service take from each other, under the names that the classes among
them bind and read. -/
structure Meets (s : Service) : Prop where
  /-- The interface binds nothing twice, and what it binds holds the handlers of the factory. -/
  members : ∃ members, (interface s).lines = interfaceHeading s ++ members ∧
    ((members.filterMap memberName?).map (boundIn s.name)).Nodup ∧
    ∀ r ∈ registrationsIn (factory s).lines,
      r.2 ∈ (members.filterMap memberName?).map (boundIn s.name)
  /-- The client binds each variant that calls once. -/
  variants : ∀ c ∈ callsIn (client s).lines,
    (((client s).lines.filterMap memberName?).map (boundIn s.clientName)).count
      (boundIn s.clientName c.1) = 1
  /-- What the client reads as a constant is one. -/
  called : ∀ c ∈ callsIn (client s).lines, boundIn s.clientName c.2.2 ∈ definedConstants s

/-! ### One service -/

section Service

variable {s : Service} {c : MarkedClass}

theorem definedConstants_eq (s : Service) : definedConstants s = s.methods.map s.constantName := by
  rw [definedConstants, constantsIn_constants, List.map_map]
  rfl

theorem wirePaths_eq (s : Service) :
    wirePaths s = (s.methods.map s.constantName).map ("/" ++ ·) := by
  rw [wirePaths, constantsIn_constants, List.map_map, List.map_map]
  rfl

theorem nodup_members (h : Reads c s) :
    (s.methods.map (·.name) ++ s.methods.map (·.transportName)).Nodup := by
  -- the names were claimed method by method
  have hperm : (s.methods.flatMap Method.interfaceNames).Perm
      (s.methods.map (·.name) ++ s.methods.map (·.transportName)) := by
    have hpairs : s.methods.flatMap Method.interfaceNames =
        s.methods.flatMap fun m => [m.name] ++ [m.transportName] := rfl
    rw [hpairs, List.map_eq_flatMap, List.map_eq_flatMap]
    exact (List.flatMap_append_perm _ _ _).symm
  exact hperm.nodup_iff.mp h.interface

/-- The last sign of its name tells a variant with options from the constructor. -/
theorem ne_constructor_of_mem_methodCalls {m : Method} {call : String × String × String}
    (h : call ∈ methodCalls s m) : call.1 ≠ "__init__" := by
  simp only [methodCalls, List.mem_cons, List.not_mem_nil, or_false] at h
  intro heq
  have hlast := congrArg (·.toList.getLast?) heq
  rcases h with rfl | rfl <;> simp at hlast

theorem mem_clientNames_of_mem_methodCalls {m : Method} {call : String × String × String}
    (h : call ∈ methodCalls s m) : call.1 ∈ m.clientNames := by
  simp only [methodCalls, List.mem_cons, List.not_mem_nil, or_false] at h
  rcases h with rfl | rfl <;> simp [Method.clientNames]

/-- **The artifacts of a service that was read agree.** -/
theorem agrees_of_reads (h : Reads c s) (hs : Plain s.name) (hm : ∀ m ∈ s.methods, Plain m.name) :
    Agrees s := by
  have hhandlers := registrationsIn_factory s hs hm
  have hcalls := callsIn_client s hs hm
  obtain ⟨members, hlines, hmembers⟩ := memberNames_interface s hm
  refine ⟨constantsIn_constants s, hhandlers, ⟨members, hlines, hmembers, ?_⟩, hcalls, ?_, ?_⟩
  · rw [hmembers]
    exact nodup_members h
  · intro call hcall
    rw [hcalls] at hcall
    obtain ⟨m, hmem, hcall⟩ := List.mem_flatMap.mp hcall
    rw [memberNames_client s hs hm,
      List.count_cons_of_ne (ne_constructor_of_mem_methodCalls hcall).symm]
    exact List.count_eq_one_of_mem (List.nodup_cons.mp h.client).2
      (List.mem_flatMap.mpr ⟨m, hmem, mem_clientNames_of_mem_methodCalls hcall⟩)
  · intro r hr
    rw [hhandlers] at hr
    obtain ⟨m, hmem, rfl⟩ := List.mem_map.mp hr
    rw [definedConstants_eq]
    exact List.mem_map_of_mem hmem

/-- What comes behind the name of a method starts with one underscore, as the end of its transport
method does. So the one whole starts like a private name only if the other does. -/
theorem not_privateMark_prefix_append {name ending : String}
    (h : ¬privateMark <+: (name ++ "_grpc").toList) (hhead : ending.toList.head? = some '_')
    (hending : ¬privateMark <+: ending.toList) : ¬privateMark <+: (name ++ ending).toList := by
  obtain ⟨rest, hrest⟩ := List.head?_eq_some_iff.mp hhead
  rw [String.toList_append] at h ⊢
  generalize name.toList = cs at h ⊢
  rcases cs with _ | ⟨a, _ | ⟨b, cs⟩⟩
  · exact hending
  · simpa [privateMark, hrest] using h
  · simpa [privateMark] using h

namespace SharesNames

variable {m : Method}

/-- Neither a method nor one of its variants is private in any class. -/
theorem boundIn_name (h : SharesNames s) (hm : m ∈ s.methods) (className : String) :
    boundIn className m.name = m.name :=
  boundIn_of_not_prefix fun hstart => (h m hm).1 (hstart.trans (by simp [Method.transportName]))

theorem boundIn_transportName (h : SharesNames s) (hm : m ∈ s.methods) (className : String) :
    boundIn className m.transportName = m.transportName := boundIn_of_not_prefix (h m hm).1

theorem boundIn_clientNames (h : SharesNames s) (hm : m ∈ s.methods) (className : String) :
    ∀ n ∈ m.clientNames, boundIn className n = n := by
  have hbehind (ending : String) (hhead : ending.toList.head? = some '_')
      (hending : ¬privateMark <+: ending.toList) :
      boundIn className (m.name ++ ending) = m.name ++ ending :=
    boundIn_of_not_prefix (not_privateMark_prefix_append (h m hm).1 hhead hending)
  simp only [Method.clientNames, List.forall_mem_cons, List.not_mem_nil, false_imp_iff,
    implies_true, and_true]
  exact ⟨h.boundIn_name hm className, hbehind _ (by decide) (by decide),
    hbehind _ (by decide) (by decide), hbehind _ (by decide) (by decide)⟩

end SharesNames

theorem map_boundIn_eq_self {className : String} {names : List String}
    (h : ∀ n ∈ names, boundIn className n = n) : names.map (boundIn className) = names :=
  (List.map_congr_left h).trans (List.map_id names)

/-- **The artifacts of a service meet** where no name that one takes from another is private. -/
theorem meets_of_sharesNames (hagrees : Agrees s) (h : SharesNames s)
    (hclient : (client s).lines.filterMap memberName? =
      "__init__" :: s.methods.flatMap Method.clientNames) : Meets s := by
  obtain ⟨members, hlines, hmembers, hnodup⟩ := hagrees.members
  have hinterface : (members.filterMap memberName?).map (boundIn s.name) =
      members.filterMap memberName? := by
    refine map_boundIn_eq_self fun n hn => ?_
    rw [hmembers, List.mem_append] at hn
    rcases hn with hn | hn
    · obtain ⟨m, hm, rfl⟩ := List.mem_map.mp hn
      exact h.boundIn_name hm s.name
    · obtain ⟨m, hm, rfl⟩ := List.mem_map.mp hn
      exact h.boundIn_transportName hm s.name
  have hvariants : ((client s).lines.filterMap memberName?).map (boundIn s.clientName) =
      (client s).lines.filterMap memberName? := by
    refine map_boundIn_eq_self fun n hn => ?_
    rw [hclient, List.mem_cons] at hn
    rcases hn with rfl | hn
    · -- the constructor ends in underscores too
      rfl
    · obtain ⟨m, hm, hn⟩ := List.mem_flatMap.mp hn
      exact h.boundIn_clientNames hm s.clientName n hn
  refine ⟨⟨members, hlines, by rwa [hinterface], fun r hr => ?_⟩, fun c hc => ?_, fun c hc => ?_⟩
  · rw [hinterface, hmembers]
    rw [hagrees.handlers] at hr
    obtain ⟨m, hm, rfl⟩ := List.mem_map.mp hr
    exact List.mem_append_right _ (List.mem_map_of_mem hm)
  · have hcall := hc
    rw [hagrees.calls] at hcall
    obtain ⟨m, hm, hcall⟩ := List.mem_flatMap.mp hcall
    rw [hvariants, h.boundIn_clientNames hm s.clientName _ (mem_clientNames_of_mem_methodCalls hcall)]
    exact hagrees.variants c hc
  · rw [hagrees.calls] at hc
    obtain ⟨m, hm, hc⟩ := List.mem_flatMap.mp hc
    have hconstant : c.2.2 = s.constantName m := by
      simp only [methodCalls, List.mem_cons, List.not_mem_nil, or_false] at hc
      rcases hc with rfl | rfl <;> rfl
    rw [hconstant, boundIn_of_not_prefix (h m hm).2, definedConstants_eq]
    exact List.mem_map_of_mem hm

end Service

/-! ### All services of a module -/

/-- The class that a service was read from, and names that hold no signs. -/
theorem exists_plain_reads {source : String} {m : Module} (h : Module.ofSource source = .ok m)
    {s : Service} (hs : s ∈ m.services) :
    ∃ c, Reads c s ∧ Plain s.name ∧ ∀ method ∈ s.methods, Plain method.name := by
  obtain ⟨body, marked, hread, hdeclares⟩ := exists_declares h (isEmpty_eq_false_of_mem hs)
  obtain ⟨c, -, hreads⟩ := hdeclares.exists_reads hs
  exact ⟨c, hreads, hdeclares.plain_service (Grammar.named_of_readModule hread) hs⟩

theorem nodup_definedConstants {sourceLines : List String} {body : List Tree.Stmt}
    {marked : List MarkedClass} {m : Module} (h : Declares sourceLines body marked m) :
    (m.services.flatMap definedConstants).Nodup := by
  refine (h.nodup.of_append_right).sublist (List.Sublist.flatMap_right _ fun s _ => ?_)
  rw [definedConstants_eq]
  exact List.sublist_append_right _ _

/-- **The artifacts of the services of a module agree**, they meet if no name that one takes from
another is private, and no two methods of the module share a constant or a path. -/
theorem artifacts_agree {source : String} {m : Module} (h : Module.ofSource source = .ok m) :
    (m.services.flatMap definedConstants).Nodup ∧ (m.services.flatMap wirePaths).Nodup ∧
      ∀ s ∈ m.services, Agrees s ∧ (SharesNames s → Meets s) := by
  by_cases hm : m.isEmpty = false
  · obtain ⟨body, marked, hread, hdeclares⟩ := exists_declares h hm
    have hconstants := nodup_definedConstants hdeclares
    refine ⟨hconstants, ?_, fun s hs => ?_⟩
    · have hpaths : m.services.flatMap wirePaths =
          (m.services.flatMap definedConstants).map ("/" ++ ·) := by
        rw [List.map_flatMap]
        refine List.flatMap_congr fun s _ => ?_
        rw [wirePaths_eq, definedConstants_eq]
      rw [hpaths]
      exact hconstants.map fun a b hab => (String.append_right_inj "/").mp hab
    · obtain ⟨c, hreads, hplain, hmethods⟩ := exists_plain_reads h hs
      have hagrees := agrees_of_reads hreads hplain hmethods
      exact ⟨hagrees, fun hshares =>
        meets_of_sharesNames hagrees hshares (memberNames_client s hplain hmethods)⟩
  · have hnone : m.services = [] := by
      cases hservices : m.services with
      | nil => rfl
      | cons s rest => exact absurd (isEmpty_eq_false_of_mem (hservices ▸ List.mem_cons_self)) hm
    simp [hnone]

/-- Two services that share the name of a method. -/
def liftSource : String :=
  "from grpc_stub_generator import service\n" ++
    "@service\nclass Up:\n def go(self): ...\n@service\nclass Down:\n def go(self): ...\n"

/-- The two methods have different constants, and everything fits together. -/
theorem artifacts_agree_lift :
    ∃ m, Module.ofSource liftSource = .ok m ∧
      m.services.flatMap definedConstants = ["UP_METHOD_GO", "DOWN_METHOD_GO"] ∧
      ((m.services.flatMap definedConstants).Nodup ∧ (m.services.flatMap wirePaths).Nodup ∧
        ∀ s ∈ m.services, Agrees s ∧ Meets s) := by
  have hread : (Module.ofSource liftSource).toOption.map (fun m =>
      (m.services.flatMap definedConstants, m.services.flatMap fun s => s.methods.map fun d =>
        (d.transportName, s.constantName d))) =
      some (["UP_METHOD_GO", "DOWN_METHOD_GO"],
        [("go_grpc", "UP_METHOD_GO"), ("go_grpc", "DOWN_METHOD_GO")]) := by
    rw [Module.ofSource_eq
      (show liftSource.toList = _ from toList_append_eq String.toList_ofList String.toList_ofList)]
    decide +kernel
  obtain ⟨m, hm, hnames⟩ := exists_of_toOption_map hread
  obtain ⟨hconstants, htaken⟩ := Prod.mk.inj hnames
  have hshares : ∀ s ∈ m.services, SharesNames s := by
    intro s hs d hd
    have hmem : (d.transportName, s.constantName d) ∈ m.services.flatMap fun s =>
        s.methods.map fun d => (d.transportName, s.constantName d) :=
      List.mem_flatMap.mpr ⟨s, hs, List.mem_map_of_mem hd⟩
    rw [htaken] at hmem
    rcases List.mem_pair.mp hmem with heq | heq <;>
      · obtain ⟨htransport, hconstant⟩ := Prod.mk.inj heq
        rw [htransport, hconstant]
        decide
  obtain ⟨hapart, hpaths, hagree⟩ := artifacts_agree hm
  exact ⟨m, hm, hconstants, hapart, hpaths,
    fun s hs => ⟨(hagree s hs).1, (hagree s hs).2 (hshares s hs)⟩⟩

/-! ### Private names -/

/-- A service with a private method. -/
def secretSource : String :=
  "from grpc_stub_generator import service\n@service\nclass A:\n def __f(self): ...\n"

/-- A service whose constants start like private names. -/
def blankSource : String :=
  "from grpc_stub_generator import service\n@service\nclass _:\n def f(self): ...\n"

/-- The factory asks for a transport method under another name than the interface binds it under,
and a client reads a constant that is not defined. -/
theorem artifacts_part_private :
    (∃ m s members, Module.ofSource secretSource = .ok m ∧ s ∈ m.services ∧
      (interface s).lines = interfaceHeading s ++ members ∧
      (members.filterMap memberName?).map (boundIn s.name) = ["_A__f", "_A__f_grpc"] ∧
      (registrationsIn (factory s).lines).map (·.2) = ["__f_grpc"]) ∧
    ∃ m s, Module.ofSource blankSource = .ok m ∧ s ∈ m.services ∧
      definedConstants s = ["__METHOD_F"] ∧
      (callsIn (client s).lines).map (fun c => boundIn s.clientName c.2.2) =
        ["_Client__METHOD_F", "_Client__METHOD_F"] := by
  have hsecret : (Module.ofSource secretSource).toOption.map (·.services.map fun s =>
      ((s.methods.map (·.name) ++ s.methods.map (·.transportName)).map (boundIn s.name),
        s.methods.map (·.transportName))) = some [(["_A__f", "_A__f_grpc"], ["__f_grpc"])] := by
    rw [Module.ofSource_eq (show secretSource.toList = _ from String.toList_ofList)]
    decide +kernel
  have hblank : (Module.ofSource blankSource).toOption.map (·.services.map fun s =>
      (definedConstants s, (s.methods.flatMap (methodCalls s)).map fun c =>
        boundIn s.clientName c.2.2)) =
      some [(["__METHOD_F"], ["_Client__METHOD_F", "_Client__METHOD_F"])] := by
    rw [Module.ofSource_eq (show blankSource.toList = _ from String.toList_ofList)]
    decide +kernel
  obtain ⟨m, hm, hnames⟩ := exists_of_toOption_map hsecret
  obtain ⟨s, hs, hnames⟩ := List.mem_map.mp (hnames ▸ List.mem_singleton.mpr rfl)
  obtain ⟨hbound, htransport⟩ := Prod.mk.inj hnames
  obtain ⟨m', hm', hnames'⟩ := exists_of_toOption_map hblank
  obtain ⟨s', hs', hnames'⟩ := List.mem_map.mp (hnames' ▸ List.mem_singleton.mpr rfl)
  obtain ⟨hdefined, hread⟩ := Prod.mk.inj hnames'
  obtain ⟨_, hreads, hplain, hmethods⟩ := exists_plain_reads hm hs
  have hagrees := agrees_of_reads hreads hplain hmethods
  obtain ⟨_, hreads', hplain', hmethods'⟩ := exists_plain_reads hm' hs'
  have hagrees' := agrees_of_reads hreads' hplain' hmethods'
  obtain ⟨members, hlines, hmembers, -⟩ := hagrees.members
  refine ⟨⟨m, s, members, hm, hs, hlines, hmembers ▸ hbound, ?_⟩, m', s', hm', hs', hdefined, ?_⟩
  · rw [hagrees.handlers, List.map_map]
    exact htransport
  · rw [hagrees'.calls]
    exact hread

end Expansion

end ServiceStubs
