import ServiceStubs.Proofs.Wire.InStep
import ServiceStubs.Proofs.Wire.Value

/-!
# What writers put on the stack

A writer is described by the signs of the places that it puts on the stack, in whatever scene it
starts. Writers that stand one behind the other put their places one above the other, so the
description of a writer follows its parts. Atoms, tuples of arguments, classes and calls are
described here.

## Main definitions

* `Pushes`: a writer that puts places with given signs on the stack

## Main statements

* `Pushes.class_`: a class is found again by its name
* `Emits.call`: a call makes the instance again
-/

namespace ServiceStubs

namespace Wire

/-- A writer that puts places with given signs on the stack. -/
def Pushes (g : Registry) (s : Store) (pending : Pending) (w : Write) (ps : List Sign) : Prop :=
  ∀ S : Scene, S.InStep s pending → Emits g w S (S.Stacked s pending ps)

variable {g : Registry} {s : Store} {pending : Pending} {S S₁ : Scene} {w w' : Write}
  {post : Scene → Prop} {ps qs : List Sign} {p q : Sign} {i : Identity} {o : Object}

namespace Emits

/-- What is written next is put above what is there. -/
theorem push (h : Emits g w S₁ (S.Stacked s pending ps)) (hw' : Pushes g s pending w' qs) :
    Emits g (Writer.both w w') S₁ (S.Stacked s pending (ps ++ qs)) := by
  refine both (h.mono fun S₂ hS₂ => ?_)
  exact (hw' S₂ hS₂.inStep).mono fun S₃ hS₃ => hS₂.append hS₃

/-- An instruction takes what was put on the stack and puts a new object there. -/
theorem take {j : Instruction} (l : Option Identity) (hj : j.isEmitted)
    (hle : S.world.Le S₁.world) (h : S₁.InStep s pending)
    (hstep : Machine.Performs g j S₁.machine
      (S₁.put o l S.machine.stack S.machine.below).machine)
    (hp : p.holds (S₁.world.add o l) S₁.machine.store.size) :
    Emits g (Writer.emit j) S₁ (S.Stacked s pending [p]) :=
  emit _ hj hstep ((Scene.pushed_put o l hle h).stacked hp)

/-- The topmost object gets a number for what it stands for. -/
theorem keepAs_stacked {pending' : Pending} (i : Option Identity)
    (h : S.Stacked s pending' [p] S₁)
    (hi : ∀ j, i = some j → ∀ w x, p.holds w x → w.Names s j x)
    (hsome : ∀ j y, (j, some y) ∈ pending' → (j, some y) ∈ pending)
    (hnone : ∀ j, (j, none) ∈ pending → (j, none) ∈ pending' ∧ i ≠ some j)
    (hunnamed : ∀ b ∈ pending, b.1.isName = false) :
    Emits g (Writer.keepAs i) S₁ (S.Stacked s pending [p]) := by
  obtain ⟨x, hpushed, htop, hp⟩ := h.single
  refine keepAs i htop (Scene.Pushed.stacked (x := x) ⟨hpushed.le, ?_, hpushed.stack,
    hpushed.below⟩ hp)
  exact hpushed.inStep.keep i x (fun j hj => .inr (hi j hj _ _ hp)) hsome hnone hunnamed

/-- A new object gets a number, and it is not among the unfinished ones. -/
theorem kept (i : Option Identity) (h : Emits g w S₁ (S.Stacked s pending [p]))
    (hi : ∀ j, i = some j → (∀ w x, p.holds w x → w.Names s j x) ∧ (j, none) ∉ pending) :
    Emits g (Writer.both w (Writer.keepAs i)) S₁ (S.Stacked s pending [p]) := by
  refine both (h.mono fun S₂ hS₂ => ?_)
  refine keepAs_stacked i hS₂ (fun j hj => (hi j hj).1) (fun _ _ hmem => hmem) (fun j hj => ⟨hj, ?_⟩)
    hS₂.inStep.unnamed
  rintro rfl
  exact (hi j rfl).2 hj

/-- An object that had no number is finished, and gets one. -/
theorem keep_finished (h : S.Stacked s ((i, none) :: pending) [p] S₁)
    (hp : ∀ w x, p.holds w x → w.Names s i x) (hi : (i, none) ∉ pending) :
    Emits g (Writer.keep i) S₁ (S.Stacked s pending [p]) := by
  refine keepAs_stacked (some i) h (fun _ hj => ?_) (fun j y hmem => ?_)
    (fun j hj => ⟨List.mem_cons_of_mem _ hj, ?_⟩) (List.forall_mem_cons.1 h.inStep.unnamed).2
  · cases hj
    exact hp
  · exact (List.mem_cons.1 hmem).resolve_left (by simp)
  · rintro ⟨⟩
    exact hi hj

/-- Places above a new mark. -/
theorem marked (hS : S.InStep s pending) (hw : Pushes g s pending w ps)
    (hw' : ∀ (S₁ : Scene) (xs : List Ref), S.world.Le S₁.world → S₁.InStep s pending →
      S₁.machine.stack = xs.reverse → S₁.machine.below = S.machine.stack :: S.machine.below →
      Sign.All ps S₁.world xs → Emits g w' S₁ post) :
    Emits g (Writer.both (Writer.emit .mark) (Writer.both w w')) S post := by
  refine both (emit S.label rfl Machine.performs_mark (both ?_))
  refine (hw ⟨S.writer, ⟨S.machine.store, [], S.machine.stack :: S.machine.below, S.machine.memo⟩,
    S.label⟩ (hS.keeps rfl rfl (World.Le.refl S.world).keeps)).mono fun S₁ hS₁ => ?_
  obtain ⟨xs, hpushed, hps⟩ := hS₁
  exact hw' S₁ xs hpushed.le hpushed.inStep (by simpa using hpushed.stack) hpushed.below hps

end Emits

namespace Pushes

theorem mono (h : Pushes g s pending w [p]) (hpq : ∀ w x, p.holds w x → q.holds w x) :
    Pushes g s pending w [q] := by
  refine fun S hS => (h S hS).mono fun S' hS' => ?_
  obtain ⟨x, hpushed, -, hp⟩ := hS'.single
  exact hpushed.stacked (hpq _ _ hp)

theorem both (h : Pushes g s pending w ps) (h' : Pushes g s pending w' qs) :
    Pushes g s pending (Writer.both w w') (ps ++ qs) :=
  fun S hS => (h S hS).push h'

theorem begin_ (h : Pushes g s pending w ps) : Pushes g s pending (Writer.begin_ w) ps :=
  fun S hS => (h S hS).begin_

/-- Where a writer starts in step, no name is among the unfinished objects. -/
theorem of_unnamed (h : (∀ b ∈ pending, b.1.isName = false) → Pushes g s pending w ps) :
    Pushes g s pending w ps :=
  fun S hS => h hS.unnamed S hS

theorem nothing : Pushes g s pending Writer.nothing [] :=
  fun _ hS => .nothing ⟨[], ⟨World.Le.refl _, hS, rfl, rfl⟩, .nil⟩

theorem all_cons (w : Write) (ws : List Write) :
    Writer.all (w :: ws) = Writer.both w (Writer.all ws) := by
  simp [Writer.all, Writer.both]

theorem all {ws : List Write} {pss : List (List Sign)}
    (h : List.Forall₂ (Pushes g s pending) ws pss) :
    Pushes g s pending (Writer.all ws) pss.flatten := by
  induction h with
  | nil => exact nothing
  | cons hw _ ih =>
    rw [all_cons]
    exact hw.both ih

/-- Writers of one place each. -/
theorem each {ws : List Write} (h : List.Forall₂ (fun w p => Pushes g s pending w [p]) ws ps) :
    Pushes g s pending (Writer.all ws) ps := by
  induction h with
  | nil => exact nothing
  | cons hw _ ih =>
    rw [all_cons]
    exact hw.both ih

/-! ### Atoms -/

/-- An instruction that puts a new object on the stack, which gets a label or none. -/
theorem new {j : Instruction} (o : Object) (l : Option Identity) (hj : j.isEmitted)
    (hstep : Machine.step g j = Machine.pushNew o)
    (hp : ∀ w : World, p.holds (w.add o l) w.store.size) :
    Pushes g s pending (Writer.emit j) [p] := by
  refine fun S hS => .take l hj (.refl _) hS ?_ (hp _)
  unfold Machine.Performs
  rw [hstep]
  exact Machine.gives_pushNew o

/-- The topmost object gets the next number, under which it is never fetched. -/
theorem keepNew (h : Pushes g s pending w [p]) :
    Pushes g s pending (Writer.both w Writer.keepNew) [p] :=
  fun S hS => (h S hS).kept none (by simp)

/-- An object that has a number is fetched, else it is written. -/
theorem fetchOr (hi : ∀ x, (i, some x) ∉ pending)
    (h : ∀ S : Scene, S.InStep s pending → S.writer.known[i]? = none →
      Emits g w S (S.Stacked s pending [Sign.names s i])) :
    Pushes g s pending (Writer.fetchOr i w) [Sign.names s i] := by
  refine fun S hS => .fetchOr (fun n hn => ?_) (h S hS)
  obtain ⟨x, hx, hmem | hnames⟩ := hS.known i n hn
  · exact (hi x hmem).elim
  · refine .emit S.label rfl (Machine.performs_get hx) (Scene.Pushed.stacked (x := x) ?_ hnames)
    exact ⟨.refl _, hS.keeps rfl rfl (World.Le.refl S.world).keeps, rfl, rfl⟩

theorem int (n : Int) : Pushes g s pending (Writer.int n) [Sign.object (.int n)] :=
  (new (.int n) none rfl rfl fun w => w.get?_add_self ..).begin_

theorem float (x : Binary64) : Pushes g s pending (Writer.float x) [Sign.object (.float x)] :=
  (new (.float x) none rfl rfl fun w => w.get?_add_self ..).begin_

theorem emptyTuple : Pushes g s pending Writer.emptyTuple [Sign.object (.tuple [])] :=
  (new (.tuple []) none rfl rfl fun w => w.get?_add_self ..).begin_

theorem noArguments : Pushes g s pending Writer.emptyTuple [Sign.tuple []] :=
  emptyTuple.mono fun _ _ hx => ⟨[], hx, .nil⟩

theorem newBytes (bs : List UInt8) : Pushes g s pending (Writer.newBytes bs) [Sign.bytes bs] := by
  refine (keepNew ?_).begin_
  exact new (.bytes bs bs.isEmpty) none rfl rfl fun w => ⟨_, w.get?_add_self ..⟩

/-- A text that is one object wherever it occurs as a name, or that is never fetched. -/
theorem text {t : WideText} {i : Option Identity} (hi : ∀ j, i = some j → j.spelling? = some t) :
    Pushes g s pending (Writer.text i t) [Sign.text t] := by
  refine of_unnamed fun hpending => ?_
  have hnew (l : Option Identity) (w : World) :
      ∃ shared, (w.add (.text t (isAlwaysShared t)) l).store.get? w.store.size =
        some (.text t shared) := ⟨_, w.get?_add_self ..⟩
  cases i with
  | none => exact (keepNew (new _ none rfl rfl (hnew none))).begin_
  | some j =>
    have hj := hi j rfl
    have hname : j.isName := by cases j <;> cases hj <;> rfl
    have hnot (x : Option Ref) : (j, x) ∉ pending := by
      intro hmem
      rw [hpending _ hmem] at hname
      cases hname
    have hwritten : Pushes g s pending (Writer.both (Writer.emit (.text t)) (Writer.keepAs (some j)))
        [Sign.names s j] := by
      refine fun S hS => (new (p := Sign.names s j) (.text t (isAlwaysShared t)) (some j) rfl rfl ?_ S
        hS).kept (some j) ?_
      · exact fun w => (World.names_iff_text hj).2 ⟨w.label_add_self .., hnew _ w⟩
      · rintro _ ⟨⟩
        exact ⟨fun _ _ h => h, hnot none⟩
    exact ((fetchOr (fun x => hnot (some x)) fun S hS _ => hwritten S hS).begin_).mono
      fun w x h => ((World.names_iff_text hj).1 h).2

/-- A tuple of arguments. -/
theorem newTuple {ws : List Write} (h : List.Forall₂ (fun w p => Pushes g s pending w [p]) ws ps)
    (hlow : 1 ≤ ws.length) (hhigh : ws.length ≤ 3) :
    Pushes g s pending (Writer.newTuple ws) [Sign.tuple ps] := by
  refine begin_ fun S hS => .both ((each h S hS).mono fun S₁ hS₁ => ?_)
  obtain ⟨xs, hpushed, hps⟩ := hS₁
  refine Emits.kept (i := none) (.take none ?_ hpushed.le hpushed.inStep (o := .tuple xs) ?_ ?_)
    (by simp)
  · exact Instruction.isEmitted_tupleOf.2 ⟨hlow, hhigh⟩
  · have hlength : xs.length = ws.length := (h.length_eq.trans hps.length_eq).symm
    exact .of_stack hpushed.stack hpushed.below (Machine.performs_tupleOf hlength)
  · exact ⟨xs, World.get?_add_self .., hps.mono (World.le_add ..)⟩

/-! ### Classes and calls -/

/-- **A class is found again by its name.** -/
theorem class_ (hg : g.KeepsSafeNames) {c : Class} (hc : g.Carries c) :
    Pushes g s pending (Writer.class_ g c) [Sign.names s (.ofClass c)] := by
  refine of_unnamed fun hpending => ?_
  have hnot (x : Option Ref) : (Identity.ofClass c, x) ∉ pending := fun hmem => by
    cases hpending _ hmem
  refine (fetchOr (fun x => hnot (some x)) fun S hS _ => ?_).begin_
  have himportable : (!g.isImportable c) = false := by simp [hg.isImportable hc]
  rw [himportable, if_neg Bool.false_ne_true]
  -- The two parts of a name are written alike, whatever they are shared as.
  have hparts (module simple : Option Identity)
      (hmodule : Pushes g s pending (Writer.text module (g.nameOf c).1) [Sign.text (g.nameOf c).1])
      (hsimple : Pushes g s pending (Writer.text simple (g.nameOf c).2)
        [Sign.text (g.nameOf c).2]) :
      Emits g (Writer.both (Writer.text module (g.nameOf c).1)
        (Writer.both (Writer.text simple (g.nameOf c).2)
          (Writer.both (Writer.emit .stackGlobal) (Writer.keep (.ofClass c))))) S
        (S.Stacked s pending [Sign.names s (.ofClass c)]) := by
    refine .both ((hmodule S hS).mono fun S₁ hS₁ => ?_)
    refine .both ((hsimple S₁ hS₁.inStep).mono fun S₂ hS₂ => ?_)
    obtain ⟨x, hpushed, hx, htext⟩ := hS₁.single
    obtain ⟨y, hpushed', hy, htext'⟩ := hS₂.single
    refine Emits.kept (i := some (.ofClass c)) (.take (some (.ofClass c)) rfl
      (hS₁.le.trans hS₂.le) hS₂.inStep (o := .ofClass c) ?_ ?_) ?_
    · rw [hx] at hy
      exact .of_stack hy (hpushed'.below.trans hpushed.below) (Machine.performs_stackGlobal
        (Sign.text?_of_text ((Sign.text _).mono hS₂.le htext)) (Sign.text?_of_text htext')
        (hg.resolve? hc))
    · exact ⟨World.label_add_self .., World.get?_add_self ..⟩
    · rintro _ ⟨⟩
      exact ⟨fun _ _ h => h, hnot none⟩
  cases c with
  | safe c =>
    exact hparts _ _ (text (by rintro _ ⟨⟩; rfl)) (text (by rintro _ ⟨⟩))
  | defined id =>
    exact hparts _ _ (text (by rintro _ ⟨⟩; rfl)) (text (by rintro _ ⟨⟩; rfl))

end Pushes

/-- **A call makes the instance again.** Then it gets its number. -/
theorem Emits.call (hg : g.KeepsSafeNames) {c : SafeClass} {args : Write} {i : Option Identity}
    (l : Option Identity) (hS : S.InStep s pending) (hi : ∀ j, i = some j → (j, none) ∈ pending)
    (hargs : Pushes g s pending args [Sign.tuple ps])
    (hcreate : ∀ (w : World) (xs : List Ref), S.world.Le w → Sign.All ps w xs →
      ∃ o, c.create xs [] w.store = some (w.store.add o) ∧ p.holds (w.add o l) w.store.size)
    (hpost : ∀ S', S.Stacked s pending [p] S' → Emits g (Writer.keepAs i) S' post) :
    Emits g (Writer.call g c i args) S post := by
  refine .both ((Pushes.class_ hg (c := .safe c) trivial S hS).mono fun S₁ hS₁ => ?_)
  refine .both ((hargs S₁ hS₁.inStep).mono fun S₂ hS₂ => ?_)
  obtain ⟨x, hpushed, hx, hclass⟩ := hS₁.single
  obtain ⟨y, hpushed', hy, xs, htuple, hps⟩ := hS₂.single
  obtain ⟨o, ho, hp⟩ := hcreate S₂.world xs (hS₁.le.trans hS₂.le) hps
  have hreduce : Emits g (Writer.emit .reduce) S₂ (S.Stacked s pending [p]) := by
    refine .take l rfl (hS₁.le.trans hS₂.le) hS₂.inStep (o := o) ?_ hp
    rw [hx] at hy
    exact .of_stack hy (hpushed'.below.trans hpushed.below)
      (Machine.performs_reduce (hS₂.le.get?_some hclass.2) htuple ho)
  cases i with
  | none => exact .both (hreduce.mono hpost)
  | some i =>
    refine .both (hreduce.mono fun S₃ hS₃ => ?_)
    refine .get_known (f := Writer.byNumber
      (fun n => return [.instruction .pop, .instruction (Instruction.get n)]) (Writer.keep i)) ?_
    rw [hS₃.inStep.unknown i (hi i rfl)]
    exact hpost S₃ hS₃

/-- An instance that is made by a call at once. -/
theorem Pushes.call (hg : g.KeepsSafeNames) {c : SafeClass} {args : Write}
    (hargs : Pushes g s pending args [Sign.tuple ps])
    (hcreate : ∀ (w : World) (xs : List Ref), Sign.All ps w xs →
      c.create xs [] w.store = some (w.store.add o)) :
    Pushes g s pending (Writer.call g c none args) [Sign.object o] := by
  refine fun S hS => .call hg (p := Sign.object o) none hS (by simp) hargs
    (fun w xs _ hps => ⟨o, hcreate w xs hps, w.get?_add_self ..⟩) fun S' hS' => ?_
  exact .keepAs_stacked none hS' (by simp) (fun _ _ h => h) (by simp) hS.unnamed

end Wire

end ServiceStubs
