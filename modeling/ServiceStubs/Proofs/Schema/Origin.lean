import ServiceStubs.Proofs.Expansion.Names
import ServiceStubs.Proofs.Schema.Declarations

/-!
# Where declarations come from

A service is a class at the top level of the module, and its methods are functions in the body of
that class. So both are called by names.

## Main definitions

* `Schema.Marks`: a statement that is a marked class

## Main statements

* `Schema.exists_declares`: a text that declares something was read statement by statement
* `Schema.mem_markedClasses_iff`: which classes are marked
* `Schema.Declares.isName_service`: what services and methods are called
-/

namespace ServiceStubs

namespace Schema

open Tree Grammar

/-- A text that declares something has statements, and its declarations come from them. -/
theorem exists_declares {source : String} {m : Module} (h : Module.ofSource source = .ok m)
    (hm : m.isEmpty = false) :
    ∃ body marked, readModule source.toList = .ok body ∧
      Declares (Text.splitLines source) body marked m := by
  unfold Module.ofSource at h
  split at h
  · cases h
  · next body hbody =>
    obtain ⟨marked, hmarked⟩ := declares_of_ofBody h hm
    exact ⟨body, marked, hbody, hmarked⟩

theorem isEmpty_eq_false_of_mem {m : Module} {s : Service} (hs : s ∈ m.services) :
    m.isEmpty = false := by
  unfold Module.isEmpty
  cases hservices : m.services with
  | nil => simp [hservices] at hs
  | cons => rfl

theorem isEmpty_eq_false_of_mem_servers {m : Module} {s : Server} (hs : s ∈ m.servers) :
    m.isEmpty = false := by
  rw [Module.isEmpty, Bool.and_eq_false_iff]
  exact .inr (List.isEmpty_eq_false_iff_exists_mem.mpr ⟨s, hs⟩)

/-! ### Classes -/

/-- The statement is the class, and the class has the marker. -/
structure Marks (markers : MarkerNames) (s : Stmt) (c : MarkedClass) : Prop where
  statement : s = .stmt c.span (.classDef c.name c.bases c.keywords c.decorators c.body)
  found : markers.find c.name c.decorators = .ok (some c.found)

theorem marks_of_markedClass? {markers : MarkerNames} {s : Stmt} {c : MarkedClass}
    (h : markedClass? markers s = .ok (some c)) : Marks markers s c := by
  obtain ⟨span, node⟩ := s
  unfold markedClass? at h
  split at h
  · next name bases keywords decorators body hnode =>
    obtain ⟨found, hfound, h⟩ := exists_of_bind h
    cases found with
    | none => cases h
    | some found =>
      dsimp only at h
      split at h
      · cases h
      · obtain rfl := Option.some.inj (Except.ok.inj h)
        refine ⟨?_, hfound⟩
        rw [show node = _ from hnode]
        rfl
  · cases h

theorem markedClass?_eq_some {markers : MarkerNames} {s : Stmt} {c : MarkedClass}
    {o : Option MarkedClass} (h : markedClass? markers s = .ok o) (hc : Marks markers s c) :
    o = some c := by
  obtain ⟨hstatement, hfound⟩ := hc
  subst hstatement
  unfold markedClass? at h
  obtain ⟨found, hfind, h⟩ := exists_of_bind h
  obtain rfl := Except.ok.inj (hfound.symm.trans hfind)
  dsimp only at h
  split at h
  · cases h
  · exact (Except.ok.inj h).symm

/-- The marked classes of a module are its statements that have a marker. -/
theorem mem_markedClasses_iff {markers : MarkerNames} {body : List Stmt}
    {marked : List MarkedClass} (h : markedClasses markers body = .ok marked) {c : MarkedClass} :
    c ∈ marked ↔ ∃ s ∈ body, Marks markers s c := by
  unfold markedClasses at h
  obtain ⟨found, hfound, h⟩ := exists_of_bind h
  obtain rfl := Except.ok.inj h
  obtain ⟨hforth, hback⟩ := exists_of_forall₂ (forall₂_of_mapM hfound)
  constructor
  · intro hc
    obtain ⟨o, ho, rfl⟩ := List.mem_filterMap.mp hc
    obtain ⟨s, hs, hmarks⟩ := hback _ ho
    exact ⟨s, hs, marks_of_markedClass? hmarks⟩
  · rintro ⟨s, hs, hmarks⟩
    obtain ⟨o, ho, hread⟩ := hforth s hs
    obtain rfl := markedClass?_eq_some hread hmarks
    exact List.mem_filterMap.mpr ⟨_, ho, rfl⟩

theorem definition?_eq_none {span : Span} {node : StmtNode} (h : isDefinition node = false) :
    definition? (.stmt span node) = none := by
  cases node with
  | function => cases h
  | _ => rfl

namespace Declares

variable {sourceLines : List String} {body : List Stmt} {marked : List MarkedClass} {m : Module}

theorem exists_reads (h : Declares sourceLines body marked m) {s : Service}
    (hs : s ∈ m.services) : ∃ c ∈ marked, Reads c s := by
  obtain ⟨c, hc, hreads⟩ := (exists_of_forall₂ h.services).2 s hs
  exact ⟨c, (List.mem_filter.mp hc).1, hreads⟩

theorem isName_class (h : Declares sourceLines body marked m) (hnamed : ∀ s ∈ body, Named s)
    {c : MarkedClass} (hc : c ∈ marked) : Token.IsName c.name ∧ ∀ s ∈ c.body, Named s := by
  obtain ⟨_, hmem, rfl, -⟩ := (mem_markedClasses_iff h.classes).mp hc
  cases hnamed _ hmem with
  | other hother => cases hother
  | classDef hname hbody => exact ⟨hname, hbody⟩

theorem isName_of_comesFrom {owner : String} {statements : List Stmt}
    (hnamed : ∀ s ∈ statements, Named s) {method : Method}
    (h : ComesFrom owner statements method) : Token.IsName method.name := by
  obtain ⟨⟨span, node⟩, hs, d, hd, hread⟩ := h
  rw [(name_of_readMethod hread).1]
  cases hnamed _ hs with
  | function hname _ _ =>
    obtain rfl := Option.some.inj hd
    exact hname
  | classDef => cases hd
  | other hother =>
    rw [definition?_eq_none hother] at hd
    cases hd

/-- **A service and its methods are called by names.** -/
theorem isName_service (h : Declares sourceLines body marked m) (hnamed : ∀ s ∈ body, Named s)
    {s : Service} (hs : s ∈ m.services) :
    Token.IsName s.name ∧ ∀ d ∈ s.methods, Token.IsName d.name := by
  obtain ⟨c, hc, hreads⟩ := h.exists_reads hs
  obtain ⟨hname, hbody⟩ := h.isName_class hnamed hc
  exact ⟨hreads.name ▸ hname, fun d hd => isName_of_comesFrom hbody (hreads.methods d hd)⟩

theorem plain_service (h : Declares sourceLines body marked m) (hnamed : ∀ s ∈ body, Named s)
    {s : Service} (hs : s ∈ m.services) : Plain s.name ∧ ∀ d ∈ s.methods, Plain d.name :=
  have hname := h.isName_service hnamed hs
  ⟨.of_isIdentifier hname.1.1, fun d hd => .of_isIdentifier (hname.2 d hd).1⟩

end Declares

end Schema

end ServiceStubs
