import Mathlib.Data.List.Find
import ServiceStubs.Call.Service

/-!
# A builder and the services that it built

A builder goes on collecting handlers after it built a service, and the tables that they are kept
in can be changed. A service that had the table of its builder would serve what is added later. So
the tables are numbered here (`Workshop`), the builder and each service know theirs by its number,
and to add a handler changes the table of the builder in its place.

A service gets a table of its own, a copy. From then on nothing changes this table, as only the
table of the builder is ever changed (`Workshop.Keeps`), so the service routes what was added
before it was built.

## Main definitions

* `Registration`, `Workshop.operate`, `Workshop.run`: operations on one builder
* `Workshop.accepted`: the routes of the additions that succeeded
* `Workshop.Keeps`: the invariant

## Main statements

* `Workshop.Keeps.operate`, `Workshop.Keeps.run`: the invariant and its preservation
* `Workshop.find?_accepted`: the first addition for a path is the one that succeeds
* `Workshop.services_of_history`: what a service routes, whatever happens after it was built
-/

namespace ServiceStubs

namespace Call

variable {η : Type}

/-! ### One addition -/

/-- What a builder collects: handlers for unary methods, at most one for each path. -/
structure Registered (routes : List (Route η)) : Prop where
  unary : ∀ r ∈ routes, r.method.kind = .unary
  paths : (routes.map (·.method.path)).Nodup

/-- Whether a handler would be added to the ones of some routes. -/
def Admits (routes : List (Route η)) (m : Method) : Prop :=
  m.kind = .unary ∧ ∀ r ∈ routes, r.method.path ≠ m.path

theorem ServiceBuilder.add_of_admits {routes : List (Route η)} {m : Method}
    (hm : Admits routes m) (h : η) :
    (ServiceBuilder.mk routes).add m h = .ok ⟨routes ++ [⟨m, h⟩]⟩ := by
  have hany : (routes.any fun r => r.method.path == m.path) = false := by
    simpa using hm.2
  simp [ServiceBuilder.add, hm.1, hany]

/-- Why a handler for a method is not added. -/
def refusal (m : Method) : HandlerError :=
  if m.kind = .unary then .alreadyRegistered m.name else .notUnary m.name

theorem ServiceBuilder.add_of_not_admits {routes : List (Route η)} {m : Method}
    (hm : ¬ Admits routes m) (h : η) :
    (ServiceBuilder.mk routes).add m h = .error (refusal m) := by
  by_cases hkind : m.kind = .unary
  · have hany : (routes.any fun r => r.method.path == m.path) = true := by
      simpa [Admits, hkind] using hm
    simp [ServiceBuilder.add, refusal, hkind, hany]
  · simp [ServiceBuilder.add, refusal, hkind]

theorem Registered.append {routes : List (Route η)} (h : Registered routes) {m : Method}
    (hm : Admits routes m) (handler : η) : Registered (routes ++ [⟨m, handler⟩]) where
  unary r hr := by
    rcases List.mem_append.mp hr with hr | hr
    · exact h.unary r hr
    · rw [List.mem_singleton.mp hr]
      exact hm.1
  paths := by
    rw [List.map_append, List.nodup_append]
    refine ⟨h.paths, by simp, ?_⟩
    intro path hpath other hother
    obtain ⟨r, hr, rfl⟩ := List.mem_map.mp hpath
    obtain rfl : other = m.path := by simpa using hother
    exact hm.2 r hr

/-! ### A builder at work -/

/-- An operation on a builder. -/
inductive Registration (η : Type)
  | add (m : Method) (h : η)
  | build
  deriving DecidableEq, Repr

/-- What an operation on a builder comes to. -/
inductive Receipt
  | added
  | refused (e : HandlerError)
  /-- A service was built, and this is its number. -/
  | built (service : ℕ)
  deriving DecidableEq, Repr

/-- Tables of handlers that can be changed, with the one of a builder and those of the services that
it built. -/
structure Workshop (η : Type) where
  /-- All tables that were ever made. -/
  tables : List (List (Route η))
  builder : ℕ
  services : List ℕ

namespace Workshop

/-- A new builder, with an empty table. -/
def new : Workshop η := ⟨[[]], 0, []⟩

/-- What the builder has collected. -/
def collected (w : Workshop η) : ServiceBuilder η := ⟨w.tables[w.builder]?.getD []⟩

/-- The service with a number, as its table is now. -/
def service? (w : Workshop η) (i : ℕ) : Option (Service η) :=
  w.services[i]?.bind fun t => w.tables[t]?.map Service.mk

/-- One operation. A handler is added to the table of the builder, and a service gets a new table
that begins as a copy of that. -/
def operate (w : Workshop η) : Registration η → Receipt × Workshop η
  | .add m h =>
    match w.collected.add m h with
    | .ok b => (.added, { w with tables := w.tables.set w.builder b.routes })
    | .error e => (.refused e, w)
  | .build =>
    (.built w.services.length,
      { w with
        tables := w.tables ++ [w.collected.build.routes]
        services := w.services ++ [w.tables.length] })

/-- Operations, one after the other. -/
def run (w : Workshop η) (ops : List (Registration η)) : Workshop η :=
  ops.foldl (fun w op => (w.operate op).2) w

@[simp] theorem run_nil (w : Workshop η) : w.run [] = w := rfl

@[simp] theorem run_cons (w : Workshop η) (op : Registration η) (ops : List (Registration η)) :
    w.run (op :: ops) = (w.operate op).2.run ops := rfl

theorem run_append (w : Workshop η) (ops later : List (Registration η)) :
    w.run (ops ++ later) = (w.run ops).run later := List.foldl_append

/-- The route that an operation adds, if it is an addition that succeeds. -/
def accepts (w : Workshop η) (op : Registration η) : List (Route η) :=
  match op, (w.operate op).1 with
  | .add m h, .added => [⟨m, h⟩]
  | _, _ => []

/-- The routes of the additions that succeed, in order. -/
def accepted (w : Workshop η) : List (Registration η) → List (Route η)
  | [] => []
  | op :: ops => w.accepts op ++ (w.operate op).2.accepted ops

/-- The routes of all additions, those that fail too. -/
def attempted (ops : List (Registration η)) : List (Route η) :=
  ops.filterMap fun
    | .add m h => some ⟨m, h⟩
    | .build => none

/-! ### The tables -/

/-- The table of the builder holds the routes that were added, and no service has it. -/
structure Keeps (w : Workshop η) (added : List (Route η)) : Prop where
  registered : Registered added
  collected : w.tables[w.builder]? = some added
  /-- The services have tables of their own. -/
  own : ∀ t ∈ w.services, t < w.tables.length ∧ t ≠ w.builder

theorem keeps_new : (new : Workshop η).Keeps [] :=
  ⟨⟨by simp, by simp⟩, rfl, by simp [new]⟩

theorem Keeps.collected_eq {w : Workshop η} {added : List (Route η)} (h : w.Keeps added) :
    w.collected = ⟨added⟩ := by
  simp [Workshop.collected, h.collected]

theorem Keeps.operate_add {w : Workshop η} {added : List (Route η)} (h : w.Keeps added)
    {m : Method} (hm : Admits added m) (handler : η) :
    w.operate (.add m handler) =
      (.added, { w with tables := w.tables.set w.builder (added ++ [⟨m, handler⟩]) }) := by
  simp [Workshop.operate, h.collected_eq, ServiceBuilder.add_of_admits hm]

theorem Keeps.operate_refused {w : Workshop η} {added : List (Route η)} (h : w.Keeps added)
    {m : Method} (hm : ¬ Admits added m) (handler : η) :
    w.operate (.add m handler) = (.refused (refusal m), w) := by
  simp [Workshop.operate, h.collected_eq, ServiceBuilder.add_of_not_admits hm]

theorem Keeps.added_iff {w : Workshop η} {added : List (Route η)} (h : w.Keeps added) (m : Method)
    (handler : η) : (w.operate (.add m handler)).1 = .added ↔ Admits added m := by
  by_cases hm : Admits added m
  · simp [h.operate_add hm, hm]
  · simp [h.operate_refused hm, hm]

theorem Keeps.operate_build {w : Workshop η} {added : List (Route η)} (h : w.Keeps added) :
    w.operate .build =
      (.built w.services.length,
        { w with tables := w.tables ++ [added], services := w.services ++ [w.tables.length] }) := by
  simp [Workshop.operate, h.collected_eq, ServiceBuilder.build]

/-- **The invariant is preserved.** -/
theorem Keeps.operate {w : Workshop η} {added : List (Route η)} (h : w.Keeps added)
    (op : Registration η) : (w.operate op).2.Keeps (added ++ w.accepts op) := by
  have hbuilder := (List.getElem?_eq_some_iff.mp h.collected).1
  cases op with
  | add m handler =>
    by_cases hm : Admits added m
    · simp only [accepts, h.operate_add hm]
      refine ⟨h.registered.append hm handler, ?_, fun t ht => ?_⟩
      · exact List.getElem?_set_self hbuilder
      · simpa using h.own t ht
    · simpa only [accepts, h.operate_refused hm, List.append_nil] using h
  | build =>
    simp only [accepts, h.operate_build, List.append_nil]
    refine ⟨h.registered, ?_, fun t ht => ?_⟩
    · rw [List.getElem?_append_left hbuilder, h.collected]
    · rcases List.mem_append.mp ht with ht | ht
      · have := h.own t ht
        exact ⟨by simp; omega, this.2⟩
      · obtain rfl : t = w.tables.length := by simpa using ht
        exact ⟨by simp, Nat.ne_of_gt hbuilder⟩

theorem Keeps.run {w : Workshop η} {added : List (Route η)} (h : w.Keeps added)
    (ops : List (Registration η)) : (w.run ops).Keeps (added ++ w.accepted ops) := by
  induction ops generalizing w added with
  | nil => simpa [accepted] using h
  | cons op ops ih => simpa [accepted] using ih (h.operate op)

/-- No operation changes a service that was built. -/
theorem Keeps.service?_operate {w : Workshop η} {added : List (Route η)} (h : w.Keeps added)
    {i : ℕ} {s : Service η} (hs : w.service? i = some s) (op : Registration η) :
    (w.operate op).2.service? i = some s := by
  obtain ⟨t, ht, htable⟩ := Option.bind_eq_some_iff.mp hs
  have hown := h.own t (List.mem_of_getElem? ht)
  cases op with
  | add m handler =>
    by_cases hm : Admits added m
    · simp [h.operate_add hm, service?, ht, List.getElem?_set_ne hown.2.symm, htable]
    · simpa only [h.operate_refused hm] using hs
  | build =>
    simp [h.operate_build, service?, List.getElem?_append_left (List.getElem?_eq_some_iff.mp ht).1,
      ht, List.getElem?_append_left hown.1, htable]

theorem Keeps.service?_run {w : Workshop η} {added : List (Route η)} (h : w.Keeps added)
    {i : ℕ} {s : Service η} (hs : w.service? i = some s) (ops : List (Registration η)) :
    (w.run ops).service? i = some s := by
  induction ops generalizing w added with
  | nil => exact hs
  | cons op ops ih => exact ih (h.operate op) (h.service?_operate hs op)

/-! ### The first addition for a path -/

/-- Whether a route is for a unary method of a path. -/
def isFor (path : String) (r : Route η) : Bool := r.method.kind == .unary && r.method.path == path

/-- An addition that fails is for no unary method, or for a path that has a handler. -/
theorem find?_append_of_not_admits {added : List (Route η)} (h : Registered added) {m : Method}
    (hm : ¬ Admits added m) (handler : η) (later : List (Route η)) (path : String) :
    (added ++ ⟨m, handler⟩ :: later).find? (isFor path) =
      (added ++ later).find? (isFor path) := by
  rw [List.find?_append, List.find?_append, List.find?_cons]
  cases hfor : isFor path (⟨m, handler⟩ : Route η) with
  | false => rfl
  | true =>
    obtain ⟨hkind, hpath⟩ : m.kind = .unary ∧ m.path = path := by simpa [isFor] using hfor
    obtain ⟨r, hr, hrpath⟩ : ∃ r ∈ added, r.method.path = m.path := by
      simpa [Admits, hkind] using hm
    have hsome : (added.find? (isFor path)).isSome :=
      List.find?_isSome.mpr ⟨r, hr, by simp [isFor, h.unary r hr, hrpath, hpath]⟩
    rw [Option.or_of_isSome hsome, Option.or_of_isSome hsome]

/-- The first addition for a unary method of a path is the one that succeeds. -/
theorem Keeps.find?_accepted {w : Workshop η} {added : List (Route η)} (h : w.Keeps added)
    (ops : List (Registration η)) (path : String) :
    (added ++ w.accepted ops).find? (isFor path) =
      (added ++ attempted ops).find? (isFor path) := by
  induction ops generalizing w added with
  | nil => simp [accepted, attempted]
  | cons op ops ih =>
    have ih := ih (h.operate op)
    cases op with
    | build => simpa [accepted, attempted, accepts, h.operate_build] using ih
    | add m handler =>
      have hattempted : attempted (.add m handler :: ops) = ⟨m, handler⟩ :: attempted ops := rfl
      by_cases hm : Admits added m
      · simpa [accepted, hattempted, accepts, h.operate_add hm] using ih
      · rw [hattempted, find?_append_of_not_admits h.registered hm]
        simpa [accepted, accepts, h.operate_refused hm] using ih

theorem find?_isFor {added : List (Route η)} (h : Registered added) (path : String) :
    (Service.mk added).find? path = added.find? (isFor path) :=
  List.find?_congr fun r hr => by simp [isFor, h.unary r hr]

/-! ### After every history -/

/-- **A service routes what was added before it was built.** After every sequence of operations on a
new builder:

* an addition succeeds exactly if it is for a unary method of a path that has no handler yet;
* an addition that fails does so with the error for its method, and leaves everything as it was;
* a service that is built then stays what it is, whatever follows. It routes a path exactly if an
  addition for a unary method of the path succeeded, to the handler of the first of them, which is
  the first addition for a unary method of the path at all. Its paths are those of the additions
  that succeeded, in their order and without repetition, and it is as long as there are paths. -/
theorem services_of_history (before : List (Registration η)) :
    let w := (new : Workshop η).run before
    let added := (new : Workshop η).accepted before
    (∀ m h, (w.operate (.add m h)).1 = .added ↔
      m.kind = .unary ∧ ∀ r ∈ added, r.method.path ≠ m.path) ∧
    (∀ m h, (w.operate (.add m h)).1 ≠ .added →
      w.operate (.add m h) = (.refused (refusal m), w)) ∧
    ∃ i s, (w.operate .build).1 = .built i ∧
      (∀ later, ((new : Workshop η).run (before ++ .build :: later)).service? i = some s) ∧
      (∀ path, (s.find? path).isSome ↔
        ∃ r ∈ added, r.method.kind = .unary ∧ r.method.path = path) ∧
      (∀ path, s.find? path = added.find? (isFor path) ∧
        s.find? path = (attempted before).find? (isFor path)) ∧
      s.paths = added.map (·.method.path) ∧ s.paths.Nodup ∧ s.size = s.paths.length := by
  intro w added
  have hw : w.Keeps added := by simpa using (keeps_new (η := η)).run before
  refine ⟨fun m h => hw.added_iff m h,
    fun m h hfails => hw.operate_refused (hfails ∘ (hw.added_iff m h).mpr) h,
    w.services.length, ⟨added⟩, ?_, fun later => ?_, fun path => ?_,
    fun path => ⟨find?_isFor hw.registered path, ?_⟩, rfl, hw.registered.paths, ?_⟩
  · simp [hw.operate_build]
  · rw [run_append, run_cons]
    refine (hw.operate .build).service?_run ?_ later
    simp [hw.operate_build, service?]
  · simp only [Service.find?, List.find?_isSome, beq_iff_eq]
    exact ⟨fun ⟨r, hr, hpath⟩ => ⟨r, hr, hw.registered.unary r hr, hpath⟩,
      fun ⟨r, hr, _, hpath⟩ => ⟨r, hr, hpath⟩⟩
  · rw [find?_isFor hw.registered]
    simpa using keeps_new.find?_accepted before path
  · simp [Service.size, Service.paths]

/-- The first service does not get the handler that is added after it was built, and the second
handler for a path is not added at all. -/
example :
    let w := (new : Workshop ℕ).run [.add ⟨.unary, "Hello"⟩ 1, .build, .add ⟨.unary, "Hello"⟩ 2,
      .add ⟨.unary, "Bye"⟩ 3, .build]
    (w.service? 0).map (·.paths) = some ["/Hello"] ∧
      (w.service? 1).map (·.routes.map (·.handler)) = some [1, 3] := by
  decide

end Workshop

end Call

end ServiceStubs
