import ServiceStubs.Proofs.Expansion.Agreement
import ServiceStubs.Proofs.Expansion.Characters

/-!
# What a generated class binds

The body of a class binds each of its functions, and the functions of an instance bind its
attributes. A later binding of a name replaces an earlier one, so the interface and the client of a
service are whole only if no name is bound in them twice. Every name of a method and of its variants
was claimed when the service was read, and so was the attribute of the client, but not its
constructor: a method of that name replaces it.

Under the name that a class binds a private member there may be another of its members, so names
that are distinct as they are written can still be one in the class.

## Main definitions

* `Expansion.MembersApart`: when the members of the classes of a service are distinct

## Main statements

* `Expansion.members_apart`: the members of the classes of every service that was read
-/

namespace ServiceStubs

namespace Expansion

open Schema

/-! ### Attributes -/

/-- The attribute that a line in a function at the left margin gives a value. -/
def assigned? (line : String) : Option String := behind? "    self." (· == ' ') line

/-- The attribute that a line in a function of a class gives a value. -/
def attribute? (line : String) : Option String := behind? "        self." (· == ' ') line

theorem assigned?_eq_none {line : String} (h : ¬"    self.".toList <+: line.toList) :
    assigned? line = none := behind?_eq_none h

/-- What stands in front of a start and of a line says nothing of the name behind the start. -/
theorem behind?_append (lead start line : String) (ends : Char → Bool) :
    behind? (lead ++ start) ends (lead ++ line) = behind? start ends line := by
  have hdrop : (lead ++ line).toList.drop (lead ++ start).toList.length =
      line.toList.drop start.toList.length := by
    rw [String.toList_append, String.toList_append, List.length_append, List.drop_append,
      List.drop_eq_nil_of_le (Nat.le_add_right _ _), Nat.add_sub_cancel_left, List.nil_append]
  have hprefix : (lead ++ start).toList.isPrefixOf (lead ++ line).toList =
      start.toList.isPrefixOf line.toList := by
    rw [Bool.eq_iff_iff, List.isPrefixOf_iff_prefix, List.isPrefixOf_iff_prefix,
      String.toList_append, String.toList_append, List.prefix_append_right_inj]
  rw [behind?, behind?, hdrop, hprefix]

theorem attributes_indent (ls : List String) :
    (Code.indent ls).filterMap attribute? = ls.filterMap assigned? :=
  filterMap_indent (by decide) (by decide)
    (fun line => behind?_append Code.indentation "    self." line _) ls

/-- A function that only returns something assigns to nothing. -/
theorem assigned_function (name : String) (parameters : List String) (returns : Option String)
    {body : String} (hbody : body.toList.head? = some 'r') :
    (Code.function name parameters returns [body]).filterMap assigned? = [] := by
  obtain ⟨header, hlines⟩ := function_eq name parameters returns [body]
  obtain ⟨cs, hcs⟩ : ∃ cs, body.toList = 'r' :: cs := List.head?_eq_some_iff.mp hbody
  have hne : body ≠ "" := by
    rintro rfl
    cases hbody
  have hheader : assigned? ("def " ++ (name ++ ("(" ++ header))) = none :=
    assigned?_eq_none (by simp)
  have hreturn : assigned? (Code.indentation ++ body) = none :=
    assigned?_eq_none (by simp [Code.indentation, hcs])
  rw [hlines, List.filterMap_cons_none hheader]
  simp [Code.indent, hne, hreturn]

theorem assigned_clientMethods (s : Service) (m : Method) :
    (clientMethods s m).lines.filterMap assigned? = [] := by
  have hempty : assigned? "" = none := by decide
  simp only [clientMethods, List.filterMap_append, List.filterMap_cons_none hempty]
  rw [assigned_function _ _ _ (by simp), assigned_function _ _ _ (by simp),
    assigned_function _ _ _ (by simp), assigned_function _ _ _ (by simp)]
  rfl

/-- **The client of a service** has one attribute. -/
theorem attributes_client (s : Service) (hs : Plain s.name) :
    (client s).lines.filterMap attribute? = ["client"] := by
  have hempty : assigned? "" = none := by decide
  have hheader : attribute? (Code.classHeader s.clientName []) = none :=
    behind?_eq_none (by simp [Code.classHeader])
  have hdocumented : assigned? ("\"\"\"" ++ ("Client of the `" ++ s.name ++ "` service.") ++
      "\"\"\"") = none := assigned?_eq_none (by simp)
  have hconstructor : clientConstructor.filterMap assigned? = ["client"] := by decide
  rw [client_lines s hs, List.filterMap_cons_none hheader, attributes_indent,
    List.filterMap_append, List.filterMap_append, List.filterMap_cons_none hdocumented,
    List.filterMap_cons_none hempty, hconstructor, List.filterMap_flatMap,
    List.flatMap_congr fun m _ => assigned_clientMethods s m]
  simp

/-! ### Members -/

/-- The names that a client binds: its attributes and its functions. -/
def clientMembers (s : Service) : List String :=
  (client s).lines.filterMap attribute? ++ (client s).lines.filterMap memberName?

/-- When the members of the generated classes of a service are distinct. -/
structure MembersApart (s : Service) : Prop where
  /-- The interface binds each method and its transport method, and no name twice. In the class they
  are distinct unless one is bound there as another. -/
  interface : ∃ members, (interface s).lines = interfaceHeading s ++ members ∧
    members.filterMap memberName? = s.methods.map (·.name) ++ s.methods.map (·.transportName) ∧
    (members.filterMap memberName?).Nodup ∧
    (((members.filterMap memberName?).map (boundIn s.name)).Nodup ↔
      ∀ n ∈ members.filterMap memberName?,
        boundIn s.name n ∈ members.filterMap memberName? → boundIn s.name n = n)
  /-- The client binds its attribute, its constructor, and four variants of each method. -/
  client : clientMembers s = "client" :: "__init__" :: s.methods.flatMap Method.clientNames
  /-- Nothing replaces a variant or the attribute. -/
  variants : ("client" :: s.methods.flatMap Method.clientNames).Nodup
  /-- It binds no name twice, unless a method takes that of the constructor. -/
  constructor : (clientMembers s).Nodup ↔ ∀ m ∈ s.methods, m.name ≠ "__init__"
  /-- Then its members are distinct in the class unless one is bound there as another. -/
  bound : (∀ m ∈ s.methods, m.name ≠ "__init__") →
    (((clientMembers s).map (boundIn s.clientName)).Nodup ↔
      ∀ n ∈ clientMembers s, boundIn s.clientName n ∈ clientMembers s → boundIn s.clientName n = n)

/-- Of the variants of a method only the plain one can be named like the constructor. -/
theorem constructor_mem_clientNames_iff (m : Method) :
    "__init__" ∈ m.clientNames ↔ m.name = "__init__" := by
  have hlast (ending : String) (c : Char) (hc : ending.toList.getLast? = some c) (hne : c ≠ '_') :
      "__init__" ≠ m.name ++ ending := by
    intro heq
    have hend := congrArg (·.toList.getLast?) heq
    simp [hc] at hend
    exact hne hend.symm
  simp only [Method.clientNames, List.mem_cons, List.not_mem_nil, or_false]
  constructor
  · rintro (h | h | h | h)
    · exact h.symm
    · exact absurd h (hlast "_opt" 't' (by decide) (by decide))
    · exact absurd h (hlast "_async" 'c' (by decide) (by decide))
    · exact absurd h (hlast "_async_opt" 't' (by decide) (by decide))
  · intro h
    exact .inl h.symm

theorem clientMembers_eq {s : Service} (hs : Plain s.name) (hm : ∀ m ∈ s.methods, Plain m.name) :
    clientMembers s = "client" :: "__init__" :: s.methods.flatMap Method.clientNames := by
  rw [clientMembers, attributes_client s hs, memberNames_client s hs hm]
  rfl

theorem membersApart_of_reads {s : Service} {c : MarkedClass} (h : Reads c s) (hs : Plain s.name)
    (hm : ∀ m ∈ s.methods, Plain m.name) : MembersApart s := by
  obtain ⟨members, hlines, hmembers⟩ := memberNames_interface s hm
  have hnodup : (members.filterMap memberName?).Nodup := by
    rw [hmembers]
    exact nodup_members h
  have hclient := clientMembers_eq hs hm
  have hconstructor : (clientMembers s).Nodup ↔ ∀ m ∈ s.methods, m.name ≠ "__init__" := by
    have hmem : "__init__" ∈ s.methods.flatMap Method.clientNames ↔
        ∃ m ∈ s.methods, m.name = "__init__" := by
      simp only [List.mem_flatMap, constructor_mem_clientNames_iff]
    obtain ⟨hattribute, hvariants⟩ := List.nodup_cons.mp h.client
    rw [hclient, List.nodup_cons, List.nodup_cons, hmem]
    push Not
    exact ⟨fun hall => hall.2.1, fun hne => ⟨by simpa using hattribute, hne, hvariants⟩⟩
  exact ⟨⟨members, hlines, hmembers, hnodup, nodup_map_boundIn hnodup⟩, hclient, h.client,
    hconstructor, fun hne => nodup_map_boundIn (hconstructor.mpr hne)⟩

/-- **The members of generated classes.** In the classes of every service that was read no name is
bound twice, but for the constructor of a client that a method takes the name of. -/
theorem members_apart {source : String} {m : Module} (h : Module.ofSource source = .ok m) :
    ∀ s ∈ m.services, MembersApart s := by
  intro s hs
  obtain ⟨c, hreads, hplain, hmethods⟩ := exists_plain_reads h hs
  exact membersApart_of_reads hreads hplain hmethods

/-- A service with a public and a private method. -/
def whisperSource : String :=
  "from grpc_stub_generator import service\n" ++
    "@service\nclass Ear:\n def hear(self): ...\n def __whisper(self): ...\n"

/-- All members of its classes are distinct. -/
theorem members_apart_whisper :
    ∃ m s, Module.ofSource whisperSource = .ok m ∧ s ∈ m.services ∧
      s.methods.map (·.name) = ["hear", "__whisper"] ∧ MembersApart s ∧
      (clientMembers s).Nodup ∧ ((clientMembers s).map (boundIn s.clientName)).Nodup ∧
      "_EarClient__whisper" ∈ (clientMembers s).map (boundIn s.clientName) := by
  have hread : (Module.ofSource whisperSource).toOption.map (·.services.map fun s =>
      (s.methods.map (·.name), s.methods.flatMap Method.clientNames, s.clientName)) =
      some [(["hear", "__whisper"], ["hear", "hear_opt", "hear_async", "hear_async_opt", "__whisper",
        "__whisper_opt", "__whisper_async", "__whisper_async_opt"], "EarClient")] := by
    rw [Module.ofSource_eq
      (show whisperSource.toList = _ from toList_append_eq String.toList_ofList String.toList_ofList)]
    decide +kernel
  obtain ⟨m, hm, hservices⟩ := exists_of_toOption_map hread
  obtain ⟨s, hs, hnames⟩ := List.mem_map.mp (hservices ▸ List.mem_singleton.mpr rfl)
  simp only [Prod.mk.injEq] at hnames
  obtain ⟨hmethods, hvariants, hname⟩ := hnames
  have hapart := members_apart hm s hs
  have hne : ∀ d ∈ s.methods, d.name ≠ "__init__" := by
    intro d hd
    have hmem : d.name ∈ s.methods.map (·.name) := List.mem_map_of_mem hd
    rw [hmethods] at hmem
    rcases List.mem_pair.mp hmem with h | h <;> rw [h] <;> decide
  refine ⟨m, s, hm, hs, hmethods, hapart, hapart.constructor.mpr hne, (hapart.bound hne).mpr ?_, ?_⟩
  · rw [hapart.client, hvariants, hname]
    decide +kernel
  · rw [hapart.client, hvariants, hname]
    decide +kernel

/-! ### Members that replace others -/

/-- A service with a method named like the constructor of its client. -/
def constructorSource : String :=
  "from grpc_stub_generator import service\n@service\nclass A:\n def __init__(self): ...\n"

/-- A service with a private method, and with one of the name that its interface binds that under.
-/
def privateSource : String :=
  "from grpc_stub_generator import service\n" ++
    "@service\nclass A:\n def __f(self): ...\n def _A__f(self): ...\n"

/-- A client binds the name of its constructor twice, and an interface binds two methods as one. -/
theorem members_meet_constructor :
    (∃ m, Module.ofSource constructorSource = .ok m ∧
      m.services.map (fun s => (clientMembers s).count "__init__") = [2]) ∧
    ∃ m, Module.ofSource privateSource = .ok m ∧
      m.services.map (fun s => s.methods.map fun d => boundIn s.name d.name) =
        [["_A__f", "_A__f"]] := by
  have hconstructor : (Module.ofSource constructorSource).toOption.map
      (·.services.map fun s => s.methods.flatMap Method.clientNames) =
      some [["__init__", "__init___opt", "__init___async", "__init___async_opt"]] := by
    rw [Module.ofSource_eq (show constructorSource.toList = _ from String.toList_ofList)]
    decide +kernel
  have hprivate : (Module.ofSource privateSource).toOption.map
      (·.services.map fun s => s.methods.map fun d => boundIn s.name d.name) =
      some [["_A__f", "_A__f"]] := by
    rw [Module.ofSource_eq
      (show privateSource.toList = _ from toList_append_eq String.toList_ofList String.toList_ofList)]
    decide +kernel
  obtain ⟨m, hm, hvariants⟩ := exists_of_toOption_map hconstructor
  refine ⟨⟨m, hm, ?_⟩, exists_of_toOption_map hprivate⟩
  have hcount : m.services.map (fun s => (clientMembers s).count "__init__") =
      (m.services.map fun s => s.methods.flatMap Method.clientNames).map fun names =>
        ("client" :: "__init__" :: names).count "__init__" := by
    rw [List.map_map]
    refine List.map_congr_left fun s hs => ?_
    obtain ⟨c, -, hplain, hmethods⟩ := exists_plain_reads hm hs
    rw [clientMembers_eq hplain hmethods]
    rfl
  rw [hcount, hvariants]
  decide

end Expansion

end ServiceStubs
