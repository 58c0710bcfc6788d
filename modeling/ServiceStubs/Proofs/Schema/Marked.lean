import Mathlib.Logic.Relation
import ServiceStubs.Proofs.Expansion.Characters
import ServiceStubs.Proofs.Schema.Declarations

/-!
# Marked classes and declarations

Which statements stand in the blocks of others is said here form by form, and every class that
stands in one is met when the classes of a module are collected, however deep. So a module is
rejected if a class below its top level is marked, and if it is read, its services and servers are
the marked classes at its top level: one after the other, each once, and none besides.

## Main definitions

* `Schema.Child`, `Schema.Below`: statements in the blocks of others
* `Schema.MarkerNames.markersOn`: the markers that a statement carries
* `Schema.IsServiceAt`, `Schema.IsServerAt`: a declaration and the class that it was read from
* `Schema.DeclaresMarked`: the declarations of a module are its marked classes

## Main statements

* `Schema.exists_mem_nestedClasses`: a class in a block is met
* `Schema.declarations_marked`: what is declared is marked, and the other way round
-/

namespace ServiceStubs

namespace Schema

open Tree

/-! ### Statements in blocks -/

/-- The first statement stands in a block of the second. -/
inductive Child (s : Stmt) : Stmt → Prop
  | function {span : Span} {isAsync : Bool} {name : String} {params : List Param}
    {returns : Option Expr} {decorators : List Decorator} {body : List Stmt} (hs : s ∈ body) :
    Child s (.stmt span (.function isAsync name params returns decorators body))
  | classDef {span : Span} {name : String} {bases : List Expr} {keywords : List Keyword}
    {decorators : List Decorator} {body : List Stmt} (hs : s ∈ body) :
    Child s (.stmt span (.classDef name bases keywords decorators body))
  | forLoop {span : Span} {isAsync : Bool} {target source : Expr} {body orElse : List Stmt}
    (hs : s ∈ body ++ orElse) : Child s (.stmt span (.forLoop isAsync target source body orElse))
  | whileLoop {span : Span} {condition : Expr} {body orElse : List Stmt} (hs : s ∈ body ++ orElse) :
    Child s (.stmt span (.whileLoop condition body orElse))
  | branch {span : Span} {condition : Expr} {body orElse : List Stmt} (hs : s ∈ body ++ orElse) :
    Child s (.stmt span (.branch condition body orElse))
  | withBlock {span : Span} {isAsync : Bool} {items : List WithItem} {body : List Stmt}
    (hs : s ∈ body) : Child s (.stmt span (.withBlock isAsync items body))
  | matchOn {span : Span} {subject : Expr} {cases : List Case} {pattern : Pattern}
    {guard : Option Expr} {body : List Stmt} (hcase : .case pattern guard body ∈ cases)
    (hs : s ∈ body) : Child s (.stmt span (.matchOn subject cases))
  | tryBlock {span : Span} {grouped : Bool} {body orElse always : List Stmt} {handlers : List Handler}
    (hs : s ∈ body ++ handlers.flatMap Handler.body ++ orElse ++ always) :
    Child s (.stmt span (.tryBlock grouped body handlers orElse always))

/-- The first statement stands in a block of the second, however deep. -/
def Below : Stmt → Stmt → Prop := Relation.TransGen Child

theorem classesInAll_eq (depth : Nat) (ss : List Stmt) :
    classesInAll depth ss = ss.flatMap (classesIn depth) := by
  induction ss with
  | nil => rw [classesInAll, List.flatMap_nil]
  | cons s ss ih => rw [classesInAll, List.flatMap_cons, ih]

theorem classesInHandlers_eq (depth : Nat) (hs : List Handler) :
    classesInHandlers depth hs = (hs.flatMap Handler.body).flatMap (classesIn (depth + 1)) := by
  induction hs with
  | nil => rw [classesInHandlers, List.flatMap_nil, List.flatMap_nil]
  | cons h hs ih =>
    obtain ⟨type, name, body⟩ := h
    rw [classesInHandlers, classesInAll_eq, ih, List.flatMap_cons, List.flatMap_append]
    rfl

theorem mem_classesInCases {depth : Nat} {cases : List Case} {pattern : Pattern}
    {guard : Option Expr} {body : List Stmt} (hcase : .case pattern guard body ∈ cases)
    {c : NestedClass} (hc : c ∈ classesInAll (depth + 1) body) : c ∈ classesInCases depth cases := by
  induction cases with
  | nil => cases hcase
  | cons first rest ih =>
    obtain ⟨p, g, b⟩ := first
    rw [classesInCases]
    rcases List.mem_cons.1 hcase with heq | hrest
    · cases heq
      exact List.mem_append_left _ hc
    · exact List.mem_append_right _ (ih hrest)

/-- The classes in a statement are among those in the statement around it, at a greater depth. -/
theorem Child.classesIn_subset {s t : Stmt} (h : Child s t) (depth : Nat) :
    ∃ depth' > depth, classesIn depth' s ⊆ classesIn depth t := by
  have hblock {d : Nat} {ss : List Stmt} (hs : s ∈ ss) : classesIn d s ⊆ classesInAll d ss := by
    rw [classesInAll_eq]
    exact fun c hc => List.mem_flatMap.2 ⟨s, hs, hc⟩
  have hnext : depth + 1 > depth := Nat.lt_succ_self depth
  cases h with
  | function hs =>
    refine ⟨depth + 1, hnext, ?_⟩
    rw [classesIn]
    exact hblock hs
  | classDef hs =>
    refine ⟨depth + 1, hnext, ?_⟩
    rw [classesIn]
    exact List.subset_cons_of_subset _ (hblock hs)
  | forLoop hs | whileLoop hs | branch hs =>
    refine ⟨depth + 1, hnext, ?_⟩
    rw [classesIn, classesInAll_eq, classesInAll_eq, ← List.flatMap_append, ← classesInAll_eq]
    exact hblock hs
  | withBlock hs =>
    refine ⟨depth + 1, hnext, ?_⟩
    rw [classesIn]
    exact hblock hs
  | matchOn hcase hs =>
    refine ⟨depth + 1 + 1, by omega, ?_⟩
    rw [classesIn]
    exact fun c hc => mem_classesInCases hcase (hblock hs hc)
  | @tryBlock _ _ body orElse always handlers hs =>
    -- Handlers are one level deeper than the other blocks.
    rw [classesIn]
    simp only [List.mem_append] at hs
    rcases hs with ((hs | hs) | hs) | hs
    · refine ⟨depth + 1, hnext, fun c hc => ?_⟩
      simp [hblock hs hc]
    · refine ⟨depth + 1 + 1, by omega, fun c hc => ?_⟩
      have hmem : c ∈ classesInHandlers (depth + 1) handlers := by
        rw [classesInHandlers_eq]
        exact List.mem_flatMap.2 ⟨s, hs, hc⟩
      simp [hmem]
    · refine ⟨depth + 1, hnext, fun c hc => ?_⟩
      simp [hblock hs hc]
    · refine ⟨depth + 1, hnext, fun c hc => ?_⟩
      simp [hblock hs hc]

theorem Below.classesIn_subset {s t : Stmt} (h : Below s t) (depth : Nat) :
    ∃ depth' > depth, classesIn depth' s ⊆ classesIn depth t := by
  induction h generalizing depth with
  | single hchild => exact hchild.classesIn_subset depth
  | tail _ hchild ih =>
    obtain ⟨d, hd, hsubset⟩ := hchild.classesIn_subset depth
    obtain ⟨d', hd', hsubset'⟩ := ih d
    exact ⟨d', hd.trans hd', List.Subset.trans hsubset' hsubset⟩

/-- **A class in a block is met**, however deep it stands. -/
theorem exists_mem_nestedClasses {body : List Stmt} {t : Stmt} (ht : t ∈ body) {span : Span}
    {name : String} {bases : List Expr} {keywords : List Keyword} {decorators : List Decorator}
    {inner : List Stmt} (h : Below (.stmt span (.classDef name bases keywords decorators inner)) t) :
    ∃ c ∈ nestedClasses body, c.name = name ∧ c.decorators = decorators := by
  obtain ⟨depth, hdepth, hsubset⟩ := h.classesIn_subset 0
  refine ⟨⟨depth, name, decorators, span.start⟩, ?_, rfl, rfl⟩
  rw [nestedClasses, List.mem_mergeSort, List.mem_filter, classesInAll_eq]
  refine ⟨List.mem_flatMap.2 ⟨t, ht, hsubset ?_⟩, by simpa using hdepth⟩
  rw [classesIn]
  exact List.mem_cons_self

/-! ### Marked classes -/

namespace MarkerNames

variable {names : MarkerNames} {decorators : List Decorator} {className : String}

/-- The markers that a statement carries: those that decorators of a class name. -/
def markersOn (names : MarkerNames) (s : Stmt) : List Marker :=
  match s.node with
  | .classDef _ _ _ decorators _ => decorators.filterMap fun d => names.resolve d.expr
  | _ => []

theorem map_markersOf (names : MarkerNames) (decorators : List Decorator) :
    (names.markersOf decorators).map (·.marker) =
      decorators.filterMap fun d => names.resolve d.expr := by
  have hgo (k : Nat) : ((decorators.zipIdx k).filterMap fun p =>
      (names.resolve p.1.expr).map fun m => (⟨m, p.1, p.2⟩ : Found)).map (·.marker) =
        decorators.filterMap fun d => names.resolve d.expr := by
    induction decorators generalizing k with
    | nil => rfl
    | cons d ds ih =>
      rw [List.zipIdx_cons, List.filterMap_cons, List.filterMap_cons]
      cases names.resolve d.expr <;> simp [ih (k + 1)]
  exact hgo 0

/-- A class without a marker, with one, and with several. -/
theorem find_cases (names : MarkerNames) (className : String) (decorators : List Decorator) :
    (names.markersOf decorators = [] ∧ names.find className decorators = .ok Option.none) ∨
      (∃ found, names.markersOf decorators = [found] ∧
        names.find className decorators = .ok (some found)) ∨
      ∃ e, names.find className decorators = .error (.rejected e) := by
  unfold find
  split
  · exact .inl ⟨‹_›, rfl⟩
  · exact .inr (.inl ⟨_, ‹_›, rfl⟩)
  · exact .inr (.inr ⟨_, rfl⟩)

end MarkerNames

/-- The check of the classes below the top level is passed, and then none of them is marked, or
the module is rejected. -/
theorem checkNested_cases (names : MarkerNames) (body : List Stmt) :
    (checkNested names body = .ok () ∧
      ∀ c ∈ nestedClasses body, names.markersOf c.decorators = []) ∨
      ∃ e, checkNested names body = .error (.rejected e) := by
  unfold checkNested
  induction nestedClasses body with
  | nil => exact .inl ⟨rfl, by simp⟩
  | cons c cs ih =>
    rw [List.forM]
    rcases names.find_cases c.name c.decorators with ⟨hnone, hfind⟩ | ⟨found, -, hfind⟩ | ⟨e, hfind⟩
    · rcases ih with ⟨hrest, hcs⟩ | ⟨e, he⟩
      · exact .inl ⟨by rw [hfind]; exact hrest, List.forall_mem_cons.2 ⟨hnone, hcs⟩⟩
      · exact .inr ⟨e, by rw [hfind]; exact he⟩
    · rw [hfind]
      exact .inr ⟨_, rfl⟩
    · rw [hfind]
      exact .inr ⟨e, rfl⟩

/-- A marked class and the statement that it was read from, which carries its marker and no other.
-/
structure IsClassOf (names : MarkerNames) (s : Stmt) (c : MarkedClass) : Prop where
  node : s.node = .classDef c.name c.bases c.keywords c.decorators c.body
  span : c.span = s.span
  found : names.markersOf c.decorators = [c.found]

theorem markersOn_of_node {names : MarkerNames} {s : Stmt} {name : String} {bases : List Expr}
    {keywords : List Keyword} {decorators : List Decorator} {body : List Stmt}
    (h : s.node = .classDef name bases keywords decorators body) :
    names.markersOn s = (names.markersOf decorators).map (·.marker) := by
  rw [MarkerNames.map_markersOf, MarkerNames.markersOn, h]

theorem IsClassOf.markersOn {names : MarkerNames} {s : Stmt} {c : MarkedClass}
    (h : IsClassOf names s c) : names.markersOn s = [c.found.marker] := by
  rw [markersOn_of_node h.node, h.found, List.map_singleton]

/-- A statement at the top level carries no marker, or it is a class with one, or it is rejected. -/
theorem markedClass?_cases (names : MarkerNames) (s : Stmt) :
    (markedClass? names s = .ok none ∧ names.markersOn s = []) ∨
      (∃ c, markedClass? names s = .ok (some c) ∧ IsClassOf names s c) ∨
      ∃ e, markedClass? names s = .error e := by
  obtain ⟨span, node⟩ := s
  cases node with
  | classDef name bases keywords decorators body =>
    simp only [markedClass?, Stmt.node]
    rcases names.find_cases name decorators with ⟨hnone, hfind⟩ | ⟨found, hfound, hfind⟩ | ⟨e, hfind⟩
    · exact .inl ⟨by rw [hfind]; rfl, by rw [markersOn_of_node rfl, hnone, List.map_nil]⟩
    · rw [hfind]
      simp only [bind, Except.bind]
      split
      · exact .inr (.inr ⟨_, rfl⟩)
      · exact .inr (.inl ⟨_, rfl, rfl, rfl, hfound⟩)
    · exact .inr (.inr ⟨_, by rw [hfind]; rfl⟩)
  | _ => exact .inl ⟨rfl, rfl⟩

theorem forall₂_markedClasses {names : MarkerNames} {body : List Stmt} {marked : List MarkedClass}
    (h : markedClasses names body = .ok marked) :
    (∀ s ∈ body, (names.markersOn s).length ≤ 1) ∧ ∀ k : Marker,
      List.Forall₂ (IsClassOf names) (body.filter fun s => k ∈ names.markersOn s)
        (marked.filter (·.found.marker == k)) := by
  obtain ⟨found, hfound, hmarked⟩ := exists_of_bind h
  have hsteps := forall₂_of_mapM hfound
  obtain rfl := Except.ok.inj hmarked
  clear h hfound hmarked
  induction hsteps with
  | nil => exact ⟨by simp, fun k => .nil⟩
  | @cons s c body found hs _ ih =>
    rcases markedClass?_cases names s with ⟨hnone, hmarkers⟩ | ⟨c', hsome, hclass⟩ | ⟨e, herror⟩
    · cases hs.symm.trans hnone
      exact ⟨by simpa [hmarkers] using ih.1, by simpa [hmarkers] using ih.2⟩
    · cases hs.symm.trans hsome
      have hmarkers := hclass.markersOn
      refine ⟨by simpa [hmarkers] using ih.1, fun k => ?_⟩
      by_cases hk : c'.found.marker = k
      · subst hk
        simpa [hmarkers] using List.Forall₂.cons hclass (ih.2 c'.found.marker)
      · simpa [hmarkers, hk, Ne.symm hk] using ih.2 k
    · cases hs.symm.trans herror

/-! ### Declarations -/

/-- A service and the class that it was read from. It has the name of the class and its place. -/
structure IsServiceAt (names : MarkerNames) (s : Stmt) (v : Service) : Prop where
  read : ∃ c, IsClassOf names s c ∧ readService c = .ok v
  name : ∃ bases keywords decorators body, s.node = .classDef v.name bases keywords decorators body
  lastLine : v.lastLine = s.endLine
  column : v.column = s.start.column

/-- A server and the class that it was read from. It has the name of the class and its place. -/
structure IsServerAt (names : MarkerNames) (sourceLines : List String) (services : List Service)
    (s : Stmt) (v : Server) : Prop where
  read : ∃ c, IsClassOf names s c ∧ readServer sourceLines services c = .ok v
  name : ∃ bases keywords decorators body, s.node = .classDef v.name bases keywords decorators body
  lastLine : v.lastLine = s.endLine

theorem IsClassOf.isServiceAt {names : MarkerNames} {s : Stmt} {c : MarkedClass} {v : Service}
    (hc : IsClassOf names s c) (h : readService c = .ok v) : IsServiceAt names s v := by
  have hread := h
  unfold readService at h
  obtain ⟨client, -, h⟩ := exists_of_bind h
  obtain ⟨acc, -, h⟩ := exists_of_bind h
  obtain ⟨bases, -, h⟩ := exists_of_bind h
  obtain ⟨keywords, -, h⟩ := exists_of_bind h
  obtain ⟨decorators, -, h⟩ := exists_of_bind h
  obtain rfl := Except.ok.inj h
  exact ⟨⟨c, hc, hread⟩, ⟨_, _, _, _, hc.node⟩, by rw [Stmt.endLine, ← hc.span],
    by rw [Stmt.start, ← hc.span]⟩

theorem IsClassOf.isServerAt {names : MarkerNames} {sourceLines : List String}
    {services : List Service} {s : Stmt} {c : MarkedClass} {v : Server} (hc : IsClassOf names s c)
    (h : readServer sourceLines services c = .ok v) : IsServerAt names sourceLines services s v := by
  have hread := h
  unfold readServer at h
  obtain ⟨methods, -, h⟩ := exists_of_bind h
  obtain ⟨-, h⟩ := not_of_check (by rintro u ⟨⟩) h
  obtain rfl := Except.ok.inj h
  exact ⟨⟨c, hc, hread⟩, ⟨_, _, _, _, hc.node⟩, by rw [Stmt.endLine, ← hc.span]⟩

/-- The declarations of a module are its marked classes. They stand at its top level and carry one
marker each. The services come in their order, and so do the servers. -/
structure DeclaresMarked (names : MarkerNames) (sourceLines : List String) (body : List Stmt)
    (m : Module) : Prop where
  topLevel : ∀ t ∈ body, ∀ s, Below s t → names.markersOn s = []
  single : ∀ s ∈ body, (names.markersOn s).length ≤ 1
  services : List.Forall₂ (IsServiceAt names) (body.filter fun s => .service ∈ names.markersOn s)
    m.services
  servers : List.Forall₂ (IsServerAt names sourceLines m.services)
    (body.filter fun s => .server ∈ names.markersOn s) m.servers

theorem MarkerNames.markersOn_of_isEmpty {names : MarkerNames} (h : names.isEmpty = true) (s : Stmt) :
    names.markersOn s = [] := by
  obtain ⟨hdirect, hpackages⟩ : names.direct = [] ∧ names.packages = [] := by
    simpa [MarkerNames.isEmpty] using h
  have hresolve (e : Expr) : names.resolve e = Option.none := by
    simp only [MarkerNames.resolve, hdirect, hpackages, List.lookup_nil, List.contains_nil,
      Bool.false_eq_true, if_false]
    split <;> rfl
  unfold MarkerNames.markersOn
  split <;> simp [hresolve]

/-- Classes below the top level carry no markers if none of those that are met does. -/
theorem markersOn_of_below {names : MarkerNames} {body : List Stmt} {s t : Stmt}
    (h : ∀ c ∈ nestedClasses body, names.markersOf c.decorators = []) (ht : t ∈ body)
    (hs : Below s t) : names.markersOn s = [] := by
  obtain ⟨span, node⟩ := s
  cases node with
  | classDef name bases keywords decorators inner =>
    obtain ⟨c, hc, -, rfl⟩ := exists_mem_nestedClasses ht hs
    rw [markersOn_of_node rfl, h c hc, List.map_nil]
  | _ => rfl

/-- Lists that are in step with a third one between them. -/
theorem forall₂_through {α β γ : Type} {R : α → β → Prop} {S : β → γ → Prop} {T : α → γ → Prop}
    (hstep : ∀ a b c, R a b → S b c → T a c) {as : List α} {bs : List β} {cs : List γ}
    (h : List.Forall₂ R as bs) (h' : List.Forall₂ S bs cs) : List.Forall₂ T as cs := by
  induction h generalizing cs with
  | nil =>
    cases h'
    exact .nil
  | cons hab _ ih =>
    cases h' with
    | cons hbc hrest => exact .cons (hstep _ _ _ hab hbc) (ih hrest)

theorem forall₂_readService {start : Scope} {classes : List MarkedClass} {services : List Service}
    {scope : Scope} (h : classes.foldlM addService ([], start) = .ok (services, scope)) :
    List.Forall₂ (fun c v => readService c = .ok v) classes services := by
  refine fold_of_foldlM (P := fun before acc =>
    List.Forall₂ (fun c v => readService c = .ok v) before acc.1) h .nil fun before c acc acc' hacc hstep => ?_
  unfold addService at hstep
  obtain ⟨named, -, hstep⟩ := exists_of_bind hstep
  obtain ⟨v, hv, hstep⟩ := exists_of_bind hstep
  obtain ⟨claimed, -, hstep⟩ := exists_of_bind hstep
  obtain rfl := Except.ok.inj hstep
  exact List.rel_append hacc (.cons hv .nil)

theorem declaresMarked_of_ofBody {sourceLines : List String} {body : List Stmt} {m : Module}
    (h : Module.ofBody sourceLines body = .ok m) :
    DeclaresMarked (.ofModule body) sourceLines body m := by
  unfold Module.ofBody at h
  dsimp only at h
  split at h
  case isTrue hempty =>
    obtain rfl := Except.ok.inj h
    have hnone := MarkerNames.markersOn_of_isEmpty hempty
    refine ⟨fun t _ s _ => hnone s, fun s _ => by simp [hnone s], ?_, ?_⟩ <;> simp [hnone]
  case isFalse hnames =>
    obtain ⟨_, hnested, h⟩ := exists_of_bind h
    obtain ⟨marked, hmarked, h⟩ := exists_of_bind h
    have hbelow : ∀ t ∈ body, ∀ s, Below s t → (MarkerNames.ofModule body).markersOn s = [] := by
      rcases checkNested_cases (.ofModule body) body with ⟨-, hnone⟩ | ⟨e, he⟩
      · exact fun t ht s hs => markersOn_of_below hnone ht hs
      · cases hnested.symm.trans he
    obtain ⟨hsingle, hclasses⟩ := forall₂_markedClasses hmarked
    split at h
    case isTrue hempty =>
      obtain rfl := Except.ok.inj h
      obtain rfl := List.isEmpty_iff.1 hempty
      have hnone (k : Marker) := List.forall₂_nil_right_iff.1 (hclasses k)
      exact ⟨hbelow, hsingle, by rw [hnone]; exact .nil, by rw [hnone]; exact .nil⟩
    case isFalse =>
      obtain ⟨scope, -, h⟩ := exists_of_bind h
      obtain ⟨⟨services, scope'⟩, hservices, h⟩ := exists_of_bind h
      obtain ⟨servers, hservers, h⟩ := exists_of_bind h
      obtain rfl := Except.ok.inj h
      exact ⟨hbelow, hsingle,
        forall₂_through (fun s c v hc hv => hc.isServiceAt hv) (hclasses .service)
          (forall₂_readService hservices),
        forall₂_through (fun s c v hc hv => hc.isServerAt hv) (hclasses .server)
          (forall₂_of_mapM hservers)⟩

/-- A module with a marked class in a block is rejected. -/
theorem ofBody_of_below {sourceLines : List String} {body : List Stmt} {s t : Stmt} (ht : t ∈ body)
    (hs : Below s t) (hmarked : (MarkerNames.ofModule body).markersOn s ≠ []) :
    ∃ e, Module.ofBody sourceLines body = .error (.rejected e) := by
  have hnames : ¬(MarkerNames.ofModule body).isEmpty = true := fun hempty =>
    hmarked (MarkerNames.markersOn_of_isEmpty hempty s)
  rcases checkNested_cases (.ofModule body) body with ⟨-, hnone⟩ | ⟨e, he⟩
  · exact absurd (markersOn_of_below hnone ht hs) hmarked
  · refine ⟨e, ?_⟩
    unfold Module.ofBody
    dsimp only
    rw [if_neg hnames, he]
    rfl

/-- **What is declared is marked, and the other way round.** The services and the servers of a
module that is read are the classes anywhere in it that carry a marker: all of them stand at its top
level. A marked class that does not stand there makes the module be rejected. -/
theorem declarations_marked (source : String) :
    (∀ m, Module.ofSource source = .ok m → ∃ body, Grammar.readModule source.toList = .ok body ∧
      DeclaresMarked (.ofModule body) (Text.splitLines source) body m) ∧
    ∀ body, Grammar.readModule source.toList = .ok body → ∀ t ∈ body, ∀ s, Below s t →
      (MarkerNames.ofModule body).markersOn s ≠ [] →
        ∃ e, Module.ofSource source = .error (.rejected e) := by
  unfold Module.ofSource
  cases Grammar.readModule source.toList with
  | error place => exact ⟨fun m h => (by cases h), fun body h => (by cases h)⟩
  | ok body =>
    refine ⟨fun m h => ⟨body, rfl, declaresMarked_of_ofBody h⟩, fun body' h t ht s hs hmarked => ?_⟩
    obtain rfl := Except.ok.inj h
    exact ofBody_of_below ht hs hmarked

/-- A service and a server that are marked through two names, and a class that is not marked. -/
def aliasSource : String :=
  "import grpc_stub_generator as g\nfrom grpc_stub_generator import server as s\n" ++
    "@g.service\nclass A: pass\nclass B: pass\n@s\nclass C(A):\n pass\n"

/-- A service in a function. -/
def nestedSource : String :=
  "from grpc_stub_generator import service\ndef f():\n @service\n class A: pass\n"

/-- The statement of a function that comes second. -/
def inSecond? : List Stmt → Option Stmt
  | [_, .stmt _ (.function _ _ _ _ _ [s])] => some s
  | _ => none

theorem exists_below_of_inSecond? {body : List Stmt} {s : Stmt} (h : inSecond? body = some s) :
    ∃ t ∈ body, Below s t := by
  unfold inSecond? at h
  split at h
  · obtain rfl := Option.some.inj h
    exact ⟨_, List.mem_cons_of_mem _ (List.mem_singleton_self _),
      .single (.function (List.mem_singleton_self _))⟩
  · cases h

theorem declarations_marked_alias :
    (∃ m body, Module.ofSource aliasSource = .ok m ∧ m.services.map (·.name) = ["A"] ∧
      m.servers.map (·.name) = ["C"] ∧ Grammar.readModule aliasSource.toList = .ok body ∧
      DeclaresMarked (.ofModule body) (Text.splitLines aliasSource) body m) ∧
    ∃ e, Module.ofSource nestedSource = .error (.rejected e) := by
  have hread : (Module.ofSource aliasSource).toOption.map (fun m =>
      (m.services.map (·.name), m.servers.map (·.name))) = some (["A"], ["C"]) := by
    rw [Module.ofSource_eq
      (show aliasSource.toList = _ from toList_append_eq String.toList_ofList String.toList_ofList)]
    decide +kernel
  have hnested : (Grammar.readModule nestedSource.toList).toOption.map (fun body =>
      (inSecond? body).map (MarkerNames.ofModule body).markersOn) = some (some [.service]) := by
    rw [show nestedSource.toList = _ from String.toList_ofList]
    decide +kernel
  obtain ⟨m, hm, hnames⟩ := exists_of_toOption_map hread
  obtain ⟨hservices, hservers⟩ := Prod.mk.inj hnames
  obtain ⟨body, hbody, hdeclares⟩ := (declarations_marked aliasSource).1 m hm
  obtain ⟨outer, houter, hmarkers⟩ := exists_of_toOption_map hnested
  obtain ⟨s, hs, hmarked⟩ := Option.map_eq_some_iff.1 hmarkers
  obtain ⟨t, ht, hbelow⟩ := exists_below_of_inSecond? hs
  exact ⟨⟨m, body, hm, hservices, hservers, hbody, hdeclares⟩,
    (declarations_marked nestedSource).2 outer houter t ht s hbelow (by simp [hmarked])⟩

end Schema

end ServiceStubs
