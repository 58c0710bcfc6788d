import Mathlib.Data.List.Induction
import ServiceStubs.Proofs.Wire.Reading
import ServiceStubs.Wire.Machine

/-!
# What instructions do

The machine goes from one state to the next without fail where the stack and the store hold what an
instruction needs. Whatever was told before, nothing but the log depends on it.

## Main definitions

* `Run.Gives`: a computation comes to a result
* `Machine.Performs`, `Machine.Does`: one instruction, several instructions

## Main statements

* `Machine.run_yields`: a machine that does all instructions of an input comes to its topmost value
-/

namespace ServiceStubs

namespace Wire

theorem Logged.bind_apply {α β : Type} (x : Logged α) (f : α → Logged β) (log : Log) :
    (x >>= f) log = match x log with
      | (.ok a, log') => f a log'
      | (.error e, log') => (.error e, log') := by
  simp only [Bind.bind, ExceptT.bind, ExceptT.mk, StateT.bind]
  cases x log with
  | mk result log' => cases result <;> rfl

/-- A computation that comes to a result and a state, whatever was told before. -/
def Run.Gives {α : Type} (x : Run α) (m : Machine) (a : α) (m' : Machine) : Prop :=
  ∀ log, ∃ log', x m log = (.ok (a, m'), log')

namespace Run

variable {α β : Type} {m m' m'' : Machine}

theorem bind_apply (x : Run α) (f : α → Run β) (m : Machine) (log : Log) :
    (x >>= f) m log = match x m log with
      | (.ok (a, m'), log') => f a m' log'
      | (.error e, log') => (.error e, log') := by
  simp only [Bind.bind, StateT.bind, ExceptT.bind, ExceptT.mk]
  cases x m log with
  | mk result log' => cases result <;> rfl

theorem Gives.pure (a : α) : Gives (Pure.pure a) m a m := fun log => ⟨log, rfl⟩

theorem Gives.bind {x : Run α} {f : α → Run β} {a : α} {b : β} (hx : x.Gives m a m')
    (hf : (f a).Gives m' b m'') : (x >>= f).Gives m b m'' := by
  intro log
  obtain ⟨log₁, hx⟩ := hx log
  obtain ⟨log₂, hf⟩ := hf log₁
  refine ⟨log₂, ?_⟩
  rw [bind_apply, hx]
  exact hf

theorem Gives.discard {x : Run α} {a : α} (hx : x.Gives m a m') :
    (Functor.discard x).Gives m () m' := by
  unfold Functor.discard
  rw [LawfulFunctor.map_const, Function.comp_apply, map_eq_pure_bind]
  exact hx.bind (.pure _)

theorem Gives.get : (MonadState.get : Run Machine).Gives m m m := fun log => ⟨log, rfl⟩

theorem Gives.orFail (a : α) : (Machine.orFail (some a)).Gives m a m := .pure a

end Run

namespace Machine

variable {α : Type} {g : Registry} {t t' : Store} {stack : List Ref} {below : List (List Ref)}
  {memo : Std.HashMap Nat Ref} {m m' m'' : Machine} {r : Ref}

/-! ### The stack and the store -/

theorem gives_build {b : Build α} {a : α} (h : b t = some (a, t')) :
    (build b).Gives ⟨t, stack, below, memo⟩ a ⟨t', stack, below, memo⟩ := by
  intro log
  refine ⟨log, ?_⟩
  simp only [build, h]
  rfl

theorem gives_push (r : Ref) :
    (push r).Gives ⟨t, stack, below, memo⟩ () ⟨t, r :: stack, below, memo⟩ :=
  fun log => ⟨log, rfl⟩

theorem gives_pushNew (o : Object) :
    (pushNew o).Gives ⟨t, stack, below, memo⟩ () ⟨(t.add o).2, t.size :: stack, below, memo⟩ :=
  .bind (gives_build rfl) (gives_push _)

theorem gives_pop (r : Ref) :
    pop.Gives ⟨t, r :: stack, below, memo⟩ r ⟨t, stack, below, memo⟩ :=
  fun log => ⟨log, rfl⟩

theorem gives_top (r : Ref) :
    top.Gives ⟨t, r :: stack, below, memo⟩ r ⟨t, r :: stack, below, memo⟩ :=
  .bind (gives_pop r) (.bind (gives_push r) (.pure r))

theorem gives_popMany (xs : List Ref) :
    (popMany xs.length).Gives ⟨t, xs.reverse ++ stack, below, memo⟩ xs
      ⟨t, stack, below, memo⟩ := by
  induction xs using List.reverseRecOn with
  | nil => exact .pure []
  | append_singleton xs x ih =>
    rw [List.length_append, List.length_singleton, List.reverse_append]
    exact .bind (gives_pop x) (.bind ih (.pure _))

theorem gives_popToMark (xs : List Ref) :
    popToMark.Gives ⟨t, xs.reverse, stack :: below, memo⟩ xs ⟨t, stack, below, memo⟩ := by
  refine fun log => ⟨log, ?_⟩
  have hpop : popToMark ⟨t, xs.reverse, stack :: below, memo⟩ log =
      (.ok (xs.reverse.reverse, ⟨t, stack, below, memo⟩), log) := rfl
  rw [hpop, List.reverse_reverse]

theorem gives_object {o : Object} (h : t.get? r = some o) :
    (object r).Gives ⟨t, stack, below, memo⟩ o ⟨t, stack, below, memo⟩ :=
  gives_build (by simp only [Build.object, h, Option.map_some])

theorem gives_change (r : Ref) (o : Object) :
    (change r o).Gives ⟨t, stack, below, memo⟩ () ⟨t.set r o, stack, below, memo⟩ :=
  fun log => ⟨log, rfl⟩

/-! ### Classes -/

theorem gives_note (e : Event) : (note e).Gives m () m := fun log => ⟨e :: log, rfl⟩

theorem gives_resolve {name : FullName} {c : Class} (h : g.resolve? name = some c) :
    (resolve g name).Gives m c m := by
  simp only [resolve, h]
  exact .bind (gives_note _) (.pure c)

theorem gives_classAt {c : Class} (h : t.get? r = some (.ofClass c)) :
    (classAt r).Gives ⟨t, stack, below, memo⟩ c ⟨t, stack, below, memo⟩ :=
  .bind (gives_object h) (.pure c)

theorem gives_tupleAt {items : List Ref} (h : t.get? r = some (.tuple items)) :
    (tupleAt r).Gives ⟨t, stack, below, memo⟩ items ⟨t, stack, below, memo⟩ :=
  .bind (gives_object h) (.pure items)

theorem gives_dictAt {entries : List (Ref × Ref)} (h : t.get? r = some (.dict entries)) :
    (dictAt r).Gives ⟨t, stack, below, memo⟩ entries ⟨t, stack, below, memo⟩ :=
  .bind (gives_object h) (.pure entries)

theorem gives_call {c : SafeClass} {args : List Ref} {x : Ref}
    (h : c.create args [] t = some (x, t')) :
    (call g (.safe c) args).Gives ⟨t, stack, below, memo⟩ x ⟨t', stack, below, memo⟩ :=
  .bind (gives_note _) (gives_build h)

/-- The blank instance of a class. -/
def blankOf : Class → Option Object
  | .safe .uuid => some (.uuid none)
  | .defined id => some (.instance id [])
  | _ => none

theorem gives_createBlank (hg : g.IsPlain) {c : Class} {o : Object} (h : blankOf c = some o) :
    (createBlank g c [] []).Gives ⟨t, stack, below, memo⟩ t.size ⟨(t.add o).2, stack, below, memo⟩ := by
  have hadd : Build.add o t = some (t.size, (t.add o).2) := rfl
  refine .bind (gives_note _) ?_
  cases c with
  | defined id =>
    cases h
    dsimp only
    rw [hg id]
    exact gives_build hadd
  | safe c =>
    cases c <;> cases h
    exact gives_build hadd

/-- A blank instance of a plain class has nothing under any name. -/
theorem gives_callMember_blank (hg : g.IsPlain) {id : Nat} {name : WideText} {args : List Ref}
    (h : t.get? r = some (.instance id [])) :
    (callMember g id r name args).Gives ⟨t, stack, below, memo⟩ false ⟨t, stack, below, memo⟩ := by
  have hheld : Conduct.held r name t = some (none, t) := by
    have hobject : Build.object r t = some (.instance id [], t) := by
      simp only [Build.object, h, Option.map_some]
    simp only [Conduct.held, Bind.bind, StateT.bind, hobject, Option.bind_some]
    rfl
  have hmember : (g.conduct id).member r name t = some (none, t) := by
    rw [hg id]
    exact hheld
  exact .bind (gives_build hmember) (.pure false)

/-! ### Instructions -/

/-- An instruction that is carried out. -/
def Performs (g : Registry) (i : Instruction) (m m' : Machine) : Prop := (step g i).Gives m () m'

theorem Performs.of_stack {i : Instruction} (hstack : m.stack = stack) (hbelow : m.below = below)
    (h : Performs g i ⟨m.store, stack, below, m.memo⟩ m') : Performs g i m m' := by
  subst hstack hbelow
  exact h

theorem performs_mark : Performs g .mark ⟨t, stack, below, memo⟩ ⟨t, [], stack :: below, memo⟩ :=
  fun log => ⟨log, rfl⟩

theorem performs_tupleOf {n : Nat} {xs : List Ref} (h : xs.length = n) :
    Performs g (.tupleOf n) ⟨t, xs.reverse ++ stack, below, memo⟩
      ⟨(t.add (.tuple xs)).2, t.size :: stack, below, memo⟩ := by
  subst h
  exact .bind (gives_popMany xs) (gives_pushNew _)

theorem performs_tuple {xs : List Ref} :
    Performs g .tuple ⟨t, xs.reverse, stack :: below, memo⟩
      ⟨(t.add (.tuple xs)).2, t.size :: stack, below, memo⟩ :=
  .bind (gives_popToMark xs) (gives_pushNew _)

theorem performs_frozenSet {xs : List Ref} {members : List Ref}
    (h : xs.foldlM t.insertKey [] = some members) :
    Performs g .frozenSet ⟨t, xs.reverse, stack :: below, memo⟩
      ⟨(t.add (.frozenSet members)).2, t.size :: stack, below, memo⟩ := by
  refine .bind (gives_popToMark xs) (.bind .get (.bind ?_ (gives_pushNew _)))
  rw [h]
  exact .orFail members

theorem performs_stackGlobal {x y : Ref} {name : FullName} {c : Class}
    (hmodule : t.text? x = some name.1) (hname : t.text? y = some name.2)
    (h : g.resolve? name = some c) :
    Performs g .stackGlobal ⟨t, y :: x :: stack, below, memo⟩
      ⟨(t.add (.ofClass c)).2, t.size :: stack, below, memo⟩ := by
  refine .bind (gives_pop y) (.bind (gives_pop x) (.bind .get ?_))
  simp only [hmodule, hname]
  exact .bind (.orFail _) (.bind (.orFail _) (.bind (gives_resolve h) (gives_pushNew _)))

theorem performs_newObject (hg : g.IsPlain) {c : Class} {o : Object} {x args : Ref}
    (hc : t.get? x = some (.ofClass c)) (hargs : t.get? args = some (.tuple []))
    (h : blankOf c = some o) :
    Performs g .newObject ⟨t, args :: x :: stack, below, memo⟩
      ⟨(t.add o).2, t.size :: stack, below, memo⟩ :=
  .bind (gives_pop _) (.bind (gives_tupleAt hargs) (.bind (gives_pop _) (.bind (gives_classAt hc)
    (.bind (gives_createBlank hg h) (gives_push _)))))

theorem performs_reduce {c : SafeClass} {x args y : Ref} {items : List Ref}
    (hc : t.get? x = some (.ofClass (.safe c))) (hargs : t.get? args = some (.tuple items))
    (h : c.create items [] t = some (y, t')) :
    Performs g .reduce ⟨t, args :: x :: stack, below, memo⟩ ⟨t', y :: stack, below, memo⟩ :=
  .bind (gives_pop _) (.bind (gives_tupleAt hargs) (.bind (gives_pop _)
    (.bind (.bind (gives_object hc) (gives_call h)) (gives_push _))))

theorem performs_get {n : Nat} (h : memo[n]? = some r) :
    Performs g (.get n) ⟨t, stack, below, memo⟩ ⟨t, r :: stack, below, memo⟩ := by
  refine .bind .get ?_
  simp only [h]
  exact .bind (.orFail r) (gives_push r)

theorem performs_memoize :
    Performs g .memoize ⟨t, r :: stack, below, memo⟩
      ⟨t, r :: stack, below, memo.insert memo.size r⟩ :=
  .bind .get (.bind (gives_top r) fun log => ⟨log, rfl⟩)

/-! ### Runs -/

/-- Instructions that are carried out one after the other. Only those are meant that messages are
written with. -/
inductive Does (g : Registry) : List Instruction → Machine → Machine → Prop
  | nil (m : Machine) : Does g [] m m
  | cons {i : Instruction} {is : List Instruction} {m m' m'' : Machine} (hi : i.isEmitted)
    (h : Performs g i m m') (rest : Does g is m' m'') : Does g (i :: is) m m''

theorem Does.append {is js : List Instruction} (h : Does g is m m') (h' : Does g js m' m'') :
    Does g (is ++ js) m m'' := by
  induction h with
  | nil => exact h'
  | cons hi hstep _ ih => exact .cons hi hstep (ih h')

theorem Does.isEmitted {is : List Instruction} (h : Does g is m m') : ∀ i ∈ is, i.isEmitted := by
  induction h with
  | nil => simp
  | cons hi _ _ ih => exact List.forall_mem_cons.2 ⟨hi, ih⟩

variable {fuel : Nat} {input rest : Input}

section

variable {carryOut : Instruction → Run Unit}

theorem runWith_stop (hread : Instruction.read? input = some (.stop, rest)) :
    runWith carryOut (fuel + 1) input m = (do
      let (r, m) ← pop m
      return (r, m.store)) := by
  simp only [runWith, hread]

theorem runWith_step {i : Instruction} (hread : Instruction.read? input = some (i, rest))
    (hi : i ≠ .stop) : runWith carryOut (fuel + 1) input m = (do
      let (_, m) ← carryOut i m
      runWith carryOut fuel rest m) := by
  simp only [runWith, hread]

end

theorem run_stop (hread : Instruction.read? input = some (.stop, rest)) :
    run g (fuel + 1) input m = (do
      let (r, m) ← pop m
      return (r, m.store)) := runWith_stop hread

theorem run_step {i : Instruction} (hread : Instruction.read? input = some (i, rest))
    (hi : i ≠ .stop) : run g (fuel + 1) input m = (do
      let (_, m) ← step g i m
      run g fuel rest m) := runWith_step hread hi

theorem run_performs {i : Instruction} (hread : Instruction.read? input = some (i, rest))
    (hi : i ≠ .stop) (h : Performs g i m m') (log : Log) :
    ∃ log', run g (fuel + 1) input m log = run g fuel rest m' log' := by
  obtain ⟨log', hlog⟩ := h log
  refine ⟨log', ?_⟩
  rw [run_step hread hi, Logged.bind_apply, hlog]

/-- **A machine that does all instructions of an input comes to its topmost value.** -/
theorem run_yields {n : Nat} {is : List Instruction} {out : Input} {x : Ref} {st : List Ref}
    (hread : input.Yields n (is ++ [.stop]) out) (hdoes : Does g is m m') (hn : n ≤ fuel)
    (htop : m'.stack = x :: st) (log : Log) :
    ∃ log', run g fuel input m log = (.ok (x, m'.store), log') := by
  generalize hjs : is ++ [Instruction.stop] = js at hread
  induction hread generalizing is m fuel log with
  | nil => simp at hjs
  | header hframe _ ih =>
    obtain ⟨fuel, rfl⟩ : ∃ k, fuel = k + 1 := ⟨fuel - 1, by omega⟩
    have hskip : ∃ log', run g (fuel + 1) _ m log = run g fuel _ m log' :=
      run_performs hframe (by simp) (fun log => ⟨log, rfl⟩) log
    obtain ⟨log', hlog⟩ := hskip
    rw [hlog]
    exact ih hdoes (by omega) log' hjs
  | cons hinstruction _ ih =>
    obtain ⟨fuel, rfl⟩ : ∃ k, fuel = k + 1 := ⟨fuel - 1, by omega⟩
    cases hdoes with
    | nil =>
      obtain ⟨store, stack, below, memo⟩ := m'
      simp only at htop
      subst htop
      obtain ⟨rfl, -⟩ : Instruction.stop = _ ∧ [] = _ := by simpa using hjs
      rw [run_stop hinstruction]
      exact ⟨log, rfl⟩
    | @cons j _ _ _ _ hi hstep hrest =>
      obtain ⟨rfl, htail⟩ := List.cons.inj hjs
      have hne : j ≠ .stop := by
        rintro rfl
        cases hi
      have hfirst : ∃ log', run g (fuel + 1) _ _ log = run g fuel _ _ log' :=
        run_performs hinstruction hne hstep log
      obtain ⟨log', hlog⟩ := hfirst
      rw [hlog]
      exact ih hrest (by omega) log' htail

end Machine

end Wire

end ServiceStubs
