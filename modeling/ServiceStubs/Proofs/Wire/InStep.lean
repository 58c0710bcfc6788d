import ServiceStubs.Proofs.Wire.Copying
import ServiceStubs.Proofs.Wire.Performing
import ServiceStubs.Wire.Writer

/-!
# The machine in step with the writer

While a value is written, the machine that will read it can be followed: each instruction that the
writer puts out is carried out on the machine at once. The two are in step when each number that the
writer gave to an object leads to a copy of that object on the side of the machine. The objects in
the middle of which the writer is are kept in a list until they are copies. They have no number yet,
or one that leads to the unfinished copy.

A writer is described by what it puts on the stack (`Pushes`), in terms of the signs of the places.
One rule for each way in which writers are put together leads to such a description.

## Main definitions

* `Scene`, `Scene.InStep`: the writer and the machine in step
* `Emits`: what comes of what a writer puts out
* `Scene.Stacked`, `Pushes`: places with given signs on the stack
-/

namespace ServiceStubs

namespace Wire

/-- The writer, the machine that follows it, and the labels of the objects of the machine. -/
structure Scene where
  writer : Writer
  machine : Machine
  label : Ref → Option Identity

/-- The objects in the middle of which the writer is, with the places of their unfinished copies if
these are there already. -/
abbrev Pending := List (Identity × Option Ref)

namespace Scene

variable {s : Store} {pending pending' : Pending} {S S' S₁ S₂ : Scene} {ps qs : List Sign}
  {p : Sign} {i : Identity} {x : Ref} {xs ys : List Ref}

/-- The objects of the machine with their labels. -/
def world (S : Scene) : World := ⟨S.machine.store, S.label⟩

/-- The writer and the machine are in step. -/
structure InStep (s : Store) (pending : Pending) (S : Scene) : Prop where
  size : S.machine.memo.size = S.writer.count
  free : ∀ n, S.writer.count ≤ n → S.machine.memo[n]? = none
  known : ∀ i n, S.writer.known[i]? = some n →
    ∃ x, S.machine.memo[n]? = some x ∧ ((i, some x) ∈ pending ∨ S.world.Names s i x)
  unknown : ∀ i, (i, none) ∈ pending → S.writer.known[i]? = none
  unnamed : ∀ b ∈ pending, b.1.isName = false

/-- The machine changed, but what bears a label stayed. -/
theorem InStep.keeps (h : S.InStep s pending) (hwriter : S'.writer = S.writer)
    (hmemo : S'.machine.memo = S.machine.memo) (hle : S.world.Keeps S'.world) :
    S'.InStep s pending where
  size := by rw [hwriter, hmemo, h.size]
  free := by rw [hwriter, hmemo]; exact h.free
  known i n hi := by
    rw [hwriter] at hi
    rw [hmemo]
    obtain ⟨x, hx, hcases⟩ := h.known i n hi
    exact ⟨x, hx, hcases.imp_right fun hnames => hnames.keeps hle⟩
  unknown := by rw [hwriter]; exact h.unknown
  unnamed := h.unnamed

/-- An object without a number is written next. -/
theorem InStep.pend (h : S.InStep s pending) (hi : S.writer.known[i]? = none)
    (hname : i.isName = false) : S.InStep s ((i, none) :: pending) where
  size := h.size
  free := h.free
  known j n hj := by
    obtain ⟨x, hx, hcases⟩ := h.known j n hj
    exact ⟨x, hx, hcases.imp_left fun hmem => List.mem_cons_of_mem _ hmem⟩
  unknown j hj := by
    rcases List.mem_cons.1 hj with heq | hj
    · cases heq
      exact hi
    · exact h.unknown j hj
  unnamed := List.forall_mem_cons.2 ⟨hname, h.unnamed⟩

/-- An unfinished object became a copy. -/
theorem InStep.finished (h : S.InStep s ((i, some x) :: pending)) (hx : S.world.Names s i x) :
    S.InStep s pending where
  size := h.size
  free := h.free
  known j n hj := by
    obtain ⟨y, hy, hmem | hnames⟩ := h.known j n hj
    · rcases List.mem_cons.1 hmem with heq | hmem
      · cases heq
        exact ⟨x, hy, .inr hx⟩
      · exact ⟨y, hy, .inl hmem⟩
    · exact ⟨y, hy, .inr hnames⟩
  unknown j hj := h.unknown j (List.mem_cons_of_mem _ hj)
  unnamed := (List.forall_mem_cons.1 h.unnamed).2

/-- The scene after the topmost object got the next number. -/
def keep (S : Scene) (i : Option Identity) (x : Ref) : Scene where
  writer := ⟨i.elim S.writer.known (S.writer.known.insert · S.writer.count), S.writer.count + 1⟩
  machine := { S.machine with memo := S.machine.memo.insert S.machine.memo.size x }
  label := S.label

theorem InStep.keep (h : S.InStep s pending) (i : Option Identity) (x : Ref)
    (hi : ∀ j, i = some j → (j, some x) ∈ pending' ∨ S.world.Names s j x)
    (hsome : ∀ j y, (j, some y) ∈ pending → (j, some y) ∈ pending')
    (hnone : ∀ j, (j, none) ∈ pending' → (j, none) ∈ pending ∧ i ≠ some j)
    (hunnamed : ∀ b ∈ pending', b.1.isName = false) : (S.keep i x).InStep s pending' := by
  have hfresh : ¬ S.writer.count ∈ S.machine.memo := by
    rw [Std.HashMap.mem_iff_isSome_getElem?, h.free _ (Nat.le_refl _)]
    simp
  have hold {j : Identity} {n : Nat} (hj : S.writer.known[j]? = some n) :
      ∃ y, (S.keep i x).machine.memo[n]? = some y ∧
        ((j, some y) ∈ pending' ∨ (S.keep i x).world.Names s j y) := by
    obtain ⟨y, hy, hcases⟩ := h.known j n hj
    refine ⟨y, ?_, hcases.imp_left (hsome j y)⟩
    have hne : S.writer.count ≠ n := by
      rintro rfl
      rw [h.free _ (Nat.le_refl _)] at hy
      cases hy
    simp only [Scene.keep, Std.HashMap.getElem?_insert, h.size, beq_iff_eq, if_neg hne, hy]
  refine ⟨?_, fun n hn => ?_, fun j n hj => ?_, fun j hj => ?_, hunnamed⟩
  · simp only [Scene.keep, h.size, Std.HashMap.size_insert, if_neg hfresh]
  · have hn' : S.writer.count + 1 ≤ n := hn
    simp only [Scene.keep, Std.HashMap.getElem?_insert, h.size, beq_iff_eq,
      if_neg (show S.writer.count ≠ n by omega), h.free n (by omega)]
  · cases i with
    | none => exact hold hj
    | some i =>
      by_cases hij : i = j
      · subst hij
        have hn : S.writer.count = n := by
          simpa [Scene.keep, Std.HashMap.getElem?_insert] using hj
        subst hn
        refine ⟨x, ?_, hi i rfl⟩
        simp only [Scene.keep, Std.HashMap.getElem?_insert, h.size, beq_self_eq_true, if_true]
      · refine hold ?_
        simpa [Scene.keep, Std.HashMap.getElem?_insert, hij] using hj
  · obtain ⟨hmem, hne⟩ := hnone j hj
    cases i with
    | none => exact h.unknown j hmem
    | some i =>
      have hij : i ≠ j := fun heq => hne (congrArg some heq)
      simpa [Scene.keep, Std.HashMap.getElem?_insert, hij] using h.unknown j hmem

/-- The scene after an instruction that takes what is above `stack` and puts a new object there. -/
def put (S : Scene) (o : Object) (l : Option Identity) (stack : List Ref)
    (below : List (List Ref)) : Scene where
  writer := S.writer
  machine := ⟨(S.machine.store.add o).2, S.machine.store.size :: stack, below, S.machine.memo⟩
  label := Function.update S.label S.machine.store.size l

/-- The scene went on from an earlier one, and there are more places on the stack. -/
structure Pushed (S : Scene) (s : Store) (pending : Pending) (xs : List Ref) (S' : Scene) :
    Prop where
  le : S.world.Le S'.world
  inStep : S'.InStep s pending
  stack : S'.machine.stack = xs.reverse ++ S.machine.stack
  below : S'.machine.below = S.machine.below

theorem Pushed.append (h : S.Pushed s pending xs S₁) (h' : S₁.Pushed s pending' ys S₂) :
    S.Pushed s pending' (xs ++ ys) S₂ where
  le := h.le.trans h'.le
  inStep := h'.inStep
  stack := by rw [h'.stack, h.stack, List.reverse_append, List.append_assoc]
  below := h'.below.trans h.below

theorem pushed_put (o : Object) (l : Option Identity) (hle : S.world.Le S₁.world)
    (h : S₁.InStep s pending) : S.Pushed s pending [S₁.machine.store.size]
      (S₁.put o l S.machine.stack S.machine.below) where
  le := hle.trans (World.le_add S₁.world o l)
  inStep := h.keeps rfl rfl (World.le_add S₁.world o l).keeps
  stack := rfl
  below := rfl

/-- The scene went on from an earlier one, and there are places with signs on the stack. -/
def Stacked (S : Scene) (s : Store) (pending : Pending) (ps : List Sign) (S' : Scene) : Prop :=
  ∃ xs, S.Pushed s pending xs S' ∧ Sign.All ps S'.world xs

theorem Stacked.append (h : S.Stacked s pending ps S₁) (h' : S₁.Stacked s pending' qs S₂) :
    S.Stacked s pending' (ps ++ qs) S₂ := by
  obtain ⟨xs, hpushed, hps⟩ := h
  obtain ⟨ys, hpushed', hqs⟩ := h'
  exact ⟨xs ++ ys, hpushed.append hpushed', (hps.mono hpushed'.le).append hqs⟩

theorem Stacked.inStep (h : S.Stacked s pending ps S₁) : S₁.InStep s pending := by
  obtain ⟨_, hpushed, _⟩ := h
  exact hpushed.inStep

theorem Stacked.le (h : S.Stacked s pending ps S₁) : S.world.Le S₁.world := by
  obtain ⟨_, hpushed, _⟩ := h
  exact hpushed.le

/-- A lone place with a sign on the stack. -/
theorem Stacked.single (h : S.Stacked s pending [p] S₁) : ∃ x, S.Pushed s pending [x] S₁ ∧
    S₁.machine.stack = x :: S.machine.stack ∧ p.holds S₁.world x := by
  obtain ⟨xs, hpushed, hps⟩ := h
  obtain ⟨x, ys, hx, hys, rfl⟩ := List.forall₂_cons_left_iff.1 hps
  obtain rfl := List.forall₂_nil_left_iff.1 hys
  exact ⟨x, hpushed, hpushed.stack, hx⟩

theorem Pushed.stacked (h : S.Pushed s pending [x] S₁) (hp : p.holds S₁.world x) :
    S.Stacked s pending [p] S₁ :=
  ⟨[x], h, .cons hp .nil⟩

end Scene

/-! ### What a writer puts out -/

/-- An object is fetched if it has a number, and its body is written if not. Classes have numbers of
their own. -/
theorem Writer.object_succ {g : Registry} {s : Store} {r : Ref} {o : Object} (fuel : Nat)
    (ho : s.get? r = some o) (hclass : ∀ c, o ≠ .ofClass c) :
    Writer.object g s (fuel + 1) r = Writer.begin_
      (Writer.fetchOr (o.identity r) (Writer.body g s (Writer.object g s fuel) r o)) := by
  cases o with
  | ofClass c => exact (hclass c rfl).elim
  | _ => simp only [Writer.object, ho]

theorem Writer.both_of_ok {a b : Write} {w w' w'' : Writer} {ps qs : List Piece}
    (ha : a w = .ok (ps, w')) (hb : b w' = .ok (qs, w'')) :
    both a b w = .ok (ps ++ qs, w'') := by
  simp only [both, Bind.bind, StateT.bind, ha, hb, Except.bind]
  rfl

theorem Writer.of_both {a b : Write} {w w'' : Writer} {ps : List Piece}
    (h : both a b w = .ok (ps, w'')) :
    ∃ qs w' rs, a w = .ok (qs, w') ∧ b w' = .ok (rs, w'') ∧ ps = qs ++ rs := by
  rcases ha : a w with e | ⟨qs, w'⟩
  · simp only [both, Bind.bind, StateT.bind, ha, Except.bind] at h
    cases h
  rcases hb : b w' with e | ⟨rs, w₂⟩
  · simp only [both, Bind.bind, StateT.bind, ha, hb, Except.bind] at h
    cases h
  · cases (both_of_ok ha hb).symm.trans h
    exact ⟨qs, w', rs, rfl, hb, rfl⟩

theorem Writer.of_begin {a : Write} {w w' : Writer} {ps : List Piece}
    (h : begin_ a w = .ok (ps, w')) : ∃ qs, a w = .ok (qs, w') ∧ ps = .start :: qs := by
  obtain ⟨_, _, qs, hstart, ha, rfl⟩ := of_both h
  cases hstart
  exact ⟨qs, ha, rfl⟩

/-- What is written for an object that has a number, and for one that has none. -/
def Writer.byNumber (get : Nat → Write) (new : Write) : Option Nat → Write
  | some n => get n
  | none => new

/-- A writer puts out pieces, and the machine that follows it comes to a scene as told. -/
def Emits (g : Registry) (w : Write) (S : Scene) (post : Scene → Prop) : Prop :=
  ∃ ps S', w S.writer = .ok (ps, S'.writer) ∧
    Machine.Does g (instructionsOf ps) S.machine S'.machine ∧ post S'

variable {g : Registry} {s : Store} {pending : Pending} {S S₁ : Scene} {w w' : Write}
  {post post' : Scene → Prop} {ps qs : List Sign} {p q : Sign} {i : Identity}

namespace Emits

theorem mono (h : Emits g w S post) (hpost : ∀ S', post S' → post' S') : Emits g w S post' := by
  obtain ⟨ps, S', hw, hdoes, hS'⟩ := h
  exact ⟨ps, S', hw, hdoes, hpost S' hS'⟩

/-- Labels may change when nothing more is put out. -/
theorem relabel (h : Emits g w S post)
    (hpost : ∀ S', post S' → ∃ label, post' { S' with label := label }) : Emits g w S post' := by
  obtain ⟨ps, S', hw, hdoes, hS'⟩ := h
  obtain ⟨label, hlabel⟩ := hpost S' hS'
  exact ⟨ps, { S' with label := label }, hw, hdoes, hlabel⟩

theorem nothing (h : post S) : Emits g Writer.nothing S post := ⟨[], S, rfl, .nil _, h⟩

theorem both (h : Emits g w S fun S' => Emits g w' S' post) :
    Emits g (Writer.both w w') S post := by
  obtain ⟨ps, S₁, hw, hdoes, qs, S₂, hw', hdoes', hpost⟩ := h
  refine ⟨ps ++ qs, S₂, ?_, ?_, hpost⟩
  · exact Writer.both_of_ok hw hw'
  · rw [instructionsOf_append]
    exact hdoes.append hdoes'

theorem begin_ (h : Emits g w S post) : Emits g (Writer.begin_ w) S post :=
  both ⟨[.start], S, rfl, .nil _, h⟩

theorem emit {j : Instruction} {m : Machine} (label : Ref → Option Identity) (hj : j.isEmitted)
    (hstep : Machine.Performs g j S.machine m) (h : post ⟨S.writer, m, label⟩) :
    Emits g (Writer.emit j) S post :=
  ⟨[.instruction j], ⟨S.writer, m, label⟩, rfl, .cons hj hstep (.nil _), h⟩

theorem keepAs {x : Ref} {st : List Ref} (i : Option Identity) (htop : S.machine.stack = x :: st)
    (h : post (S.keep i x)) : Emits g (Writer.keepAs i) S post := by
  refine ⟨[.instruction .memoize], S.keep i x, ?_, ?_, h⟩
  · cases i <;> rfl
  · obtain ⟨writer, ⟨store, stack, below, memo⟩, label⟩ := S
    simp only at htop
    subst htop
    exact .cons rfl Machine.performs_memoize (.nil _)

/-- What is written can depend on whether an object has a number. -/
theorem get_known {f : Option Nat → Write} (h : Emits g (f S.writer.known[i]?) S post) :
    Emits g (do f (← get).known[i]?) S post := h

theorem fetchOr (hknown : ∀ n, S.writer.known[i]? = some n → Emits g (Writer.emit (.get n)) S post)
    (hnew : S.writer.known[i]? = none → Emits g w S post) :
    Emits g (Writer.fetchOr i w) S post := by
  refine get_known (f := Writer.byNumber (fun n => Writer.emit (.get n)) w) ?_
  cases hi : S.writer.known[i]? with
  | none => exact hnew hi
  | some n => exact hknown n hi

/-- An object without a number is finished and gets one. -/
theorem finish {take : Instruction} {drop : List Instruction} (hi : S.writer.known[i]? = none)
    (h : Emits g (Writer.both (Writer.emit take) (Writer.keep i)) S post) :
    Emits g (Writer.finish i take drop) S post := by
  refine get_known (f := Writer.byNumber
    (fun n => return (drop ++ [Instruction.get n]).map .instruction)
    (Writer.both (Writer.emit take) (Writer.keep i))) ?_
  rw [hi]
  exact h

end Emits

end Wire

end ServiceStubs
