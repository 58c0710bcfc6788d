import ServiceStubs.Proofs.Wire.Calls
import ServiceStubs.Proofs.Wire.Keys
import ServiceStubs.Proofs.Wire.Pushing

/-!
# Objects that are finished at once

Atoms, tuples, frozen sets and the instances that a call makes are whole when their parts are
there. Each is written, when it has no number yet, so that the machine comes to a copy of it.

## Main definitions

* `Writing`: an object that is written, when its parts can be

## Main statements

* `Writing.copies_atom`, `Writing.copies_tuple`, `Writing.copies_frozenSet`, `Writing.copies_call`
-/

namespace ServiceStubs

namespace Wire

/-- An object is written at the given place, in the middle of which are none of its parts. With
`sub` its parts are written, while it has no number or its unfinished copy has one. -/
structure Writing (g : Registry) (s : Store) (pending : Pending) (sub : Ref → Write) (r : Ref)
    (o : Object) : Prop where
  plain : g.IsPlain
  safe : g.KeepsSafeNames
  there : s.get? r = some o
  built : s.Built g r
  fresh : ∀ x, (o.identity r, x) ∉ pending
  parts : ∀ a ∈ o.parts, ∀ x,
    Pushes g s ((o.identity r, x) :: pending) (sub a) [Sign.copy s a]

/-- A writer makes a copy of an object that has no number. -/
def Copies (g : Registry) (s : Store) (pending : Pending) (r : Ref) (o : Object) (w : Write) :
    Prop :=
  ∀ S : Scene, S.InStep s pending → S.writer.known[o.identity r]? = none →
    Emits g w S (S.Stacked s pending [Sign.copy s r])

namespace Writing

variable {g : Registry} {s : Store} {pending : Pending} {sub : Ref → Write} {r : Ref} {o o' : Object}
  {S S₁ : Scene} {ps : List Sign}

/-- An object of this kind bears its number from the start. -/
theorem proper (h : Writing g s pending sub r o) : o.Proper g s := h.built.proper h.there

theorem copy_iff (h : Writing g s pending sub r o) {w : World} {x : Ref} :
    (Sign.names s (o.identity r)).holds w x ↔ (Sign.copy s r).holds w x :=
  World.names_iff_copy h.there

/-- An instruction makes a copy from what is on the stack. -/
theorem take {j : Instruction} (h : Writing g s pending sub r o) {pending' : Pending}
    (hj : j.isEmitted) (hle : S.world.Le S₁.world) (hS₁ : S₁.InStep s pending')
    (hstep : Machine.Performs g j S₁.machine
      (S₁.put o' none S.machine.stack S.machine.below).machine)
    (hlike : o.Like (S₁.world.Copy s) o') :
    Emits g (Writer.emit j) S₁ (S.Stacked s pending' [Sign.copy s r]) :=
  .take (some (o.identity r)) hj hle hS₁ hstep (World.copy_add h.there hlike)

/-! ### Atoms -/

theorem copies_atom {j : Instruction} (h : Writing g s pending sub r o) (hj : j.isEmitted)
    (hstep : Machine.step g j = Machine.pushNew o') (hskeleton : o'.skeleton = o.skeleton)
    (hparts : o.parts = []) : Copies g s pending r o (Writer.emit j) := by
  intro S hS _
  have hlike : o.Like (S.world.Copy s) o' := Object.like_of_parts hskeleton hparts
  refine h.take hj (.refl _) hS ?_ hlike
  unfold Machine.Performs
  rw [hstep]
  exact Machine.gives_pushNew o'

/-- An atom that gets a number. -/
theorem copies_kept {w : Write} (h : Writing g s pending sub r o)
    (hw : Copies g s pending r o w) :
    Copies g s pending r o (Writer.both w (Writer.keep (o.identity r))) := by
  refine fun S hS hnew => (hw S hS hnew).kept (some (o.identity r)) ?_
  rintro _ ⟨⟩
  exact ⟨fun _ _ hcopy => h.copy_iff.2 hcopy, h.fresh none⟩

/-! ### Tuples and frozen sets -/

/-- The parts of an object in the order in which it has them. -/
theorem forall_parts (h : Writing g s pending sub r o) (x : Option Ref) :
    List.Forall₂ (fun w p => Pushes g s ((o.identity r, x) :: pending) w [p]) (o.parts.map sub)
      (o.parts.map (Sign.copy s)) := by
  rw [List.forall₂_map_left_iff, List.forall₂_map_right_iff]
  exact List.forall₂_same.2 fun a ha => h.parts a ha x

/-- An object whose parts are there is finished, as it has no number by now. -/
theorem finishes {j : Instruction} {drop : List Instruction} (h : Writing g s pending sub r o)
    (hj : j.isEmitted) (hle : S.world.Le S₁.world)
    (hS₁ : S₁.InStep s ((o.identity r, none) :: pending))
    (hstep : Machine.Performs g j S₁.machine
      (S₁.put o' none S.machine.stack S.machine.below).machine)
    (hlike : o.Like (S₁.world.Copy s) o') :
    Emits g (Writer.finish (o.identity r) j drop) S₁ (S.Stacked s pending [Sign.copy s r]) := by
  refine .finish (hS₁.unknown _ List.mem_cons_self) (.both ?_)
  exact (h.take hj hle hS₁ hstep hlike).mono fun S₂ hS₂ =>
    .keep_finished hS₂ (fun _ _ hcopy => h.copy_iff.2 hcopy) (h.fresh none)

theorem copies_tuple {items : List Ref} (h : Writing g s pending sub r (.tuple items)) :
    Copies g s pending r (.tuple items) (Writer.body g s sub r (.tuple items)) := by
  intro S hS hnew
  cases items with
  | nil => exact h.copies_atom rfl rfl rfl rfl S hS hnew
  | cons a rest =>
    simp only [Writer.body]
    generalize hitems : a :: rest = items at h hnew ⊢
    have hlow : 1 ≤ items.length := by simp [← hitems]
    have hlike {w : World} {xs : List Ref} (hxs : Sign.All (items.map (Sign.copy s)) w xs) :
        (Object.tuple items).Like (w.Copy s) (.tuple xs) := by
      rw [Sign.all_copies] at hxs
      refine ⟨?_, hxs⟩
      simp [Object.skeleton, List.map_const', hxs.length_eq]
    have hparts := Pushes.each (h.forall_parts none)
    split
    · refine .both ((hparts S (hS.pend hnew rfl)).mono fun S₁ hS₁ => ?_)
      obtain ⟨xs, hpushed, hxs⟩ := hS₁
      refine h.finishes ?_ hpushed.le hpushed.inStep ?_ (hlike hxs)
      · exact Instruction.isEmitted_tupleOf.2 ⟨hlow, ‹_›⟩
      · have hlength : xs.length = items.length := by
          rw [← hxs.length_eq, List.length_map]
          rfl
        exact .of_stack hpushed.stack hpushed.below (Machine.performs_tupleOf hlength)
    · refine .marked (hS.pend hnew rfl) hparts fun S₁ xs hle hS₁ hstack hbelow hxs => ?_
      exact h.finishes rfl hle hS₁ (.of_stack hstack hbelow Machine.performs_tuple) (hlike hxs)

theorem shallow_parts (h : Writing g s pending sub r o) : ∀ a ∈ o.parts, s.Shallow s.size a :=
  fun _ ha => (h.built.part h.there ha).shallow

theorem copies_frozenSet {members : List Ref} (h : Writing g s pending sub r (.frozenSet members)) :
    Copies g s pending r (.frozenSet members) (Writer.body g s sub r (.frozenSet members)) := by
  intro S hS hnew
  refine .marked (hS.pend hnew rfl)
    (.each (h.forall_parts none)) fun S₁ xs hle hS₁ hstack hbelow hxs => ?_
  have hcopies : List.Forall₂ (S₁.world.Copy s) members xs := Sign.all_copies.1 hxs
  have hkeys : S₁.machine.store.Keys ([] ++ xs) := h.proper.copies h.shallow_parts hcopies
  have hlike : Object.Like (S₁.world.Copy s) (.frozenSet members) (.frozenSet xs) :=
    ⟨by simp [Object.skeleton, List.map_const', hcopies.length_eq], hcopies⟩
  exact h.finishes rfl hle hS₁
    (.of_stack hstack hbelow (Machine.performs_frozenSet hkeys.foldlM_insertKey)) hlike

/-! ### Calls -/

/-- A call, with arguments that make an object like the original, makes a copy. -/
theorem copies_call (h : Writing g s pending sub r o) {c : SafeClass} {args : Write}
    (hname : (o.identity r).isName = false)
    (hargs : Pushes g s ((o.identity r, none) :: pending) args [Sign.tuple ps])
    (hcreate : ∀ (w : World) (xs : List Ref), Sign.All ps w xs →
      ∃ o', c.create xs [] w.store = some (w.store.add o') ∧ o.Like (w.Copy s) o') :
    Copies g s pending r o (Writer.call g c (some (o.identity r)) args) := by
  refine fun S hS hnew => .call h.safe (p := Sign.copy s r) (some (o.identity r))
    (hS.pend hnew hname) ?_ hargs (fun w xs _ hps => ?_) fun S' hS' => ?_
  · rintro _ ⟨⟩
    exact List.mem_cons_self
  · obtain ⟨o', ho', hlike⟩ := hcreate w xs hps
    exact ⟨o', ho', World.copy_add h.there hlike⟩
  · exact .keep_finished hS' (fun _ _ hcopy => h.copy_iff.2 hcopy) (h.fresh none)

theorem copies_complex {re im : Binary64} (h : Writing g s pending sub r (.complex re im)) :
    Copies g s pending r (.complex re im) (Writer.body g s sub r (.complex re im)) := by
  refine h.copies_call rfl (.newTuple (.cons (.float re) (.cons (.float im) .nil)) (by simp)
    (by simp)) fun w xs hxs => ?_
  simp only [Sign.all_cons, Sign.all_nil] at hxs
  obtain ⟨a, _, rfl, ha, b, _, rfl, hb, rfl⟩ := hxs
  exact ⟨_, Build.complex_apply ha hb, Object.like_of_parts rfl rfl⟩

theorem copies_range {start stop step : Int}
    (h : Writing g s pending sub r (.range start stop step)) :
    Copies g s pending r (.range start stop step) (Writer.body g s sub r (.range start stop step)) := by
  refine h.copies_call rfl (.newTuple (.cons (.int start) (.cons (.int stop) (.cons (.int step) .nil)))
    (by simp) (by simp)) fun w xs hxs => ?_
  simp only [Sign.all_cons, Sign.all_nil] at hxs
  obtain ⟨a, _, rfl, ha, b, _, rfl, hb, c, _, rfl, hc, rfl⟩ := hxs
  exact ⟨_, Build.range_apply ha hb hc h.proper, Object.like_of_parts rfl rfl⟩

theorem copies_slice {start stop step : Ref} (h : Writing g s pending sub r (.slice start stop step)) :
    Copies g s pending r (.slice start stop step) (Writer.body g s sub r (.slice start stop step)) := by
  have hparts := fun a ha => h.parts a ha none
  simp only [Object.parts, List.forall_mem_cons] at hparts
  obtain ⟨hstart, hstop, hstep, -⟩ := hparts
  refine h.copies_call rfl (.newTuple (.cons hstart (.cons hstop (.cons hstep .nil)))
    (by simp) (by simp)) fun w xs hxs => ?_
  simp only [Sign.all_cons, Sign.all_nil] at hxs
  obtain ⟨a, _, rfl, ha, b, _, rfl, hb, c, _, rfl, hc, rfl⟩ := hxs
  exact ⟨_, Build.slice_apply a b c, rfl, .cons ha (.cons hb (.cons hc .nil))⟩

theorem copies_date {d : Date} (h : Writing g s pending sub r (.date d)) :
    Copies g s pending r (.date d) (Writer.body g s sub r (.date d)) := by
  refine h.copies_call rfl (.newTuple (.cons (.newBytes _) .nil) (by simp) (by simp))
    fun w xs hxs => ?_
  simp only [Sign.all_cons, Sign.all_nil] at hxs
  obtain ⟨a, _, rfl, ⟨shared, ha⟩, rfl⟩ := hxs
  exact ⟨_, Build.date_apply h.proper ha, Object.like_of_parts rfl rfl⟩

theorem copies_decimal {d : Decimal} (h : Writing g s pending sub r (.decimal d)) :
    Copies g s pending r (.decimal d) (Writer.body g s sub r (.decimal d)) := by
  refine h.copies_call rfl (.newTuple (.cons (.text (by simp)) .nil) (by simp) (by simp))
    fun w xs hxs => ?_
  simp only [Sign.all_cons, Sign.all_nil] at hxs
  obtain ⟨a, _, rfl, ⟨shared, ha⟩, rfl⟩ := hxs
  exact ⟨_, Build.decimal_apply ha (Decimal.ofText?_text h.proper), Object.like_of_parts rfl rfl⟩

/-! ### Times and time zones -/

/-- What stands for a value that may be missing is missing with it. -/
theorem exists_toList {R : Ref → Ref → Prop} {z : Option Ref} {ys : List Ref}
    (h : List.Forall₂ R z.toList ys) :
    ∃ z' : Option Ref, ys = z'.toList ∧ (z'.map fun _ => (0 : Ref)) = z.map fun _ => 0 := by
  cases z with
  | none => exact ⟨none, List.forall₂_nil_left_iff.1 h, rfl⟩
  | some a =>
    obtain ⟨x, ys, -, hys, rfl⟩ := List.forall₂_cons_left_iff.1 h
    obtain rfl := List.forall₂_nil_left_iff.1 hys
    exact ⟨some x, rfl, rfl⟩

theorem isZone_copies {w : World} {z z' : Option Ref}
    (h : List.Forall₂ (w.Copy s) z.toList z'.toList) (hz : ∀ a, z = some a → s.IsZone a) :
    ∀ x, z' = some x → ∃ o, w.store.get? x = some o ∧
      (o = .utc ∨ ∃ offset name, o = .timezone offset name) := by
  rintro x rfl
  obtain ⟨a, as, hax, -, hz'⟩ := List.forall₂_cons_right_iff.1 h
  cases z with
  | none => cases hz'
  | some b =>
    cases hz'
    rcases hz a rfl with hutc | ⟨offset, name, hzone⟩
    · exact ⟨_, hax.get?_leaf hutc rfl, .inl rfl⟩
    · obtain ⟨o, o', ho, ho', -, hskeleton, -⟩ := hax.like
      rw [hzone] at ho
      cases ho
      obtain ⟨p', name', rfl⟩ := Object.eq_timezone_of_skeleton hskeleton
      exact ⟨_, ho', .inr ⟨p', name', rfl⟩⟩

theorem copies_datetime {d : Date} {c : Clock} {zone : Option Ref}
    (h : Writing g s pending sub r (.datetime d c zone)) :
    Copies g s pending r (.datetime d c zone) (Writer.body g s sub r (.datetime d c zone)) := by
  obtain ⟨hd, hc, hzone⟩ := h.proper
  refine h.copies_call rfl (.newTuple (.cons (.newBytes _) (h.forall_parts none)) (by simp) ?_)
    fun w xs hxs => ?_
  · cases zone <;> simp
  rw [Sign.all_cons] at hxs
  obtain ⟨a, ys, rfl, ⟨shared, ha⟩, hys⟩ := hxs
  rw [Sign.all_copies] at hys
  obtain ⟨z', rfl, hz'⟩ := exists_toList hys
  refine ⟨_, Build.datetime_apply hd hc ha (isZone_copies hys hzone), ?_, hys⟩
  simp only [Object.skeleton, hz']

theorem copies_time {c : Clock} {zone : Option Ref} (h : Writing g s pending sub r (.time c zone)) :
    Copies g s pending r (.time c zone) (Writer.body g s sub r (.time c zone)) := by
  obtain ⟨hc, hzone⟩ := h.proper
  refine h.copies_call rfl (.newTuple (.cons (.newBytes _) (h.forall_parts none)) (by simp) ?_)
    fun w xs hxs => ?_
  · cases zone <;> simp
  rw [Sign.all_cons] at hxs
  obtain ⟨a, ys, rfl, ⟨shared, ha⟩, hys⟩ := hxs
  rw [Sign.all_copies] at hys
  obtain ⟨z', rfl, hz'⟩ := exists_toList hys
  refine ⟨_, Build.time_apply hc ha (isZone_copies hys hzone), ?_, hys⟩
  simp only [Object.skeleton, hz']

/-- The arguments of a duration. -/
theorem pushes_durationArgs (d : Duration) : Pushes g s pending
    (Writer.newTuple [Writer.int d.days, Writer.int d.seconds, Writer.int d.microseconds])
    [Sign.tuple [Sign.object (.int d.days), Sign.object (.int d.seconds),
      Sign.object (.int d.microseconds)]] :=
  .newTuple (.cons (.int _) (.cons (.int _) (.cons (.int _) .nil))) (by simp) (by simp)

theorem create_duration {d : Duration} (hs : d.seconds < 86400) (hm : d.microseconds < 1000000)
    (hrange : d.inRange) {w : World} {xs : List Ref} (hxs : Sign.All [Sign.object (.int d.days),
      Sign.object (.int d.seconds), Sign.object (.int d.microseconds)] w xs) :
    SafeClass.timedelta.create xs [] w.store = some (w.store.add (.timedelta d)) := by
  simp only [Sign.all_cons, Sign.all_nil] at hxs
  obtain ⟨a, _, rfl, ha, b, _, rfl, hb, c, _, rfl, hc, rfl⟩ := hxs
  exact Build.timedelta_apply hs hm hrange ha hb hc

theorem copies_timedelta {d : Duration} (h : Writing g s pending sub r (.timedelta d)) :
    Copies g s pending r (.timedelta d) (Writer.body g s sub r (.timedelta d)) := by
  obtain ⟨hs, hm, hrange⟩ := h.proper
  exact h.copies_call rfl (pushes_durationArgs d) fun w xs hxs =>
    ⟨_, create_duration hs hm hrange hxs, Object.like_of_parts rfl rfl⟩

theorem copies_utc (h : Writing g s pending sub r .utc) :
    Copies g s pending r .utc (Writer.body g s sub r .utc) := by
  have hzero {pending : Pending} : Pushes g s pending (Writer.duration g none ⟨0, 0, 0⟩)
      [Sign.object (.timedelta ⟨0, 0, 0⟩)] :=
    .call h.safe (pushes_durationArgs ⟨0, 0, 0⟩) fun w xs hxs =>
      create_duration (by decide) (by decide) (by decide) hxs
  refine h.copies_call rfl (.newTuple (.cons hzero.begin_ .nil) (by simp) (by simp)) fun w xs hxs => ?_
  simp only [Sign.all_cons, Sign.all_nil] at hxs
  obtain ⟨a, _, rfl, ha, rfl⟩ := hxs
  exact ⟨_, Build.utc_apply ha, Object.like_of_parts rfl rfl⟩

theorem copies_timezone {offset : Ref} {name : Option Ref}
    (h : Writing g s pending sub r (.timezone offset name)) :
    Copies g s pending r (.timezone offset name)
      (Writer.body g s sub r (.timezone offset name)) := by
  obtain ⟨d, hd, hoffset, hname⟩ := h.proper
  refine h.copies_call rfl (.newTuple (h.forall_parts none) (by simp) ?_) fun w xs hxs => ?_
  · cases name <;> simp
  obtain ⟨a, ys, ha, hys, rfl⟩ := List.forall₂_cons_left_iff.1 (Sign.all_copies.1 hxs)
  have hduration := ha.get?_leaf hd rfl
  cases name with
  | none =>
    obtain rfl := List.forall₂_nil_left_iff.1 hys
    exact ⟨_, Build.timezone_apply hduration hname hoffset, rfl, .cons ha .nil⟩
  | some n =>
    obtain ⟨t, shared, hn⟩ := hname
    obtain ⟨b, zs, hb, hzs, rfl⟩ := List.forall₂_cons_left_iff.1 hys
    obtain rfl := List.forall₂_nil_left_iff.1 hzs
    obtain ⟨shared', htext⟩ := hb.get?_text hn
    exact ⟨_, Build.timezone_apply_name hduration htext hoffset, rfl, .cons ha (.cons hb .nil)⟩

end Writing

end Wire

end ServiceStubs
