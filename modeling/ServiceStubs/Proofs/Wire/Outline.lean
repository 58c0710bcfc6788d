import ServiceStubs.Proofs.Wire.Message
import ServiceStubs.Proofs.Wire.Steady

/-!
# What the instructions of a message tell by themselves

Some of what the machine comes to can be told from its instructions alone: which of the kept values
are texts, which texts lie topmost on the stack, and so by which names classes are asked for. An
outline holds that much. It forgets what lies on the stack at every instruction that it does not
follow, which costs nothing, as a class is asked for right behind the two texts of its name.

A machine that comes to its end has resolved every name in the outline.

## Main definitions

* `Outline`: what is told by the instructions
* `Outline.after`: the outline after some instructions
* `Outline.Describes`: a machine is as told

## Main statements

* `Outline.Describes.step`: an instruction that a machine carries out keeps it as told
* `resolved_of_deserialize`: a message that is read has all its names resolved
-/

namespace ServiceStubs

namespace Wire

/-- What is told about a machine by the instructions that it carried out. -/
structure Outline where
  /-- The values that were kept, in the order of their numbers; a text where one is known to be. -/
  kept : List (Option WideText)
  /-- The topmost values of the stack, as far as they are known. -/
  top : List (Option WideText)
  /-- The names by which classes were asked for. -/
  names : List FullName

namespace Outline

/-- Nothing is told before the first instruction. -/
def start : Outline := ⟨[], [], []⟩

/-- What is told after one more instruction. -/
def step (a : Outline) : Instruction → Outline
  | .text t => { a with top := some t :: a.top }
  | .get n => { a with top := (a.kept[n]?).join :: a.top }
  | .memoize => { a with kept := a.kept ++ [a.top.head?.join] }
  | .stackGlobal =>
    match a.top with
    | some name :: some module :: _ => { a with top := [], names := (module, name) :: a.names }
    | _ => { a with top := [] }
  | _ => { a with top := [] }

/-- What is told after some more instructions. -/
def after (a : Outline) (is : List Instruction) : Outline := is.foldl step a

variable {a : Outline} {i : Instruction} {is : List Instruction} {g : Registry} {m m' : Machine}
  {log log' : Log}

@[simp] theorem after_nil : a.after [] = a := rfl

@[simp] theorem after_cons : a.after (i :: is) = (a.step i).after is := rfl

@[simp] theorem after_append {js : List Instruction} :
    a.after (is ++ js) = (a.after is).after js := List.foldl_append ..

theorem kept_step (hi : i.isKeeping = false) : (a.step i).kept = a.kept := by
  cases i with
  | memoize => cases hi
  | stackGlobal =>
    simp only [step]
    split <;> rfl
  | _ => rfl

theorem names_step : a.names ⊆ (a.step i).names := by
  cases i with
  | stackGlobal =>
    simp only [step]
    split
    · exact List.subset_cons_self ..
    · exact fun _ h => h
  | _ => exact fun _ h => h

/-- A machine is as told. -/
structure Describes (a : Outline) (m : Machine) (log : Log) : Prop where
  size : m.memo.size = a.kept.length
  lt_size : ∀ (n : Nat) r, m.memo[n]? = some r → n < a.kept.length
  kept : ∀ (n : Nat) t, a.kept[n]? = some (some t) → ∃ r, m.memo[n]? = some r ∧ m.store.text? r = some t
  top : ∀ (k : Nat) t, a.top[k]? = some (some t) → ∃ r, m.stack[k]? = some r ∧ m.store.text? r = some t
  names : ∀ name ∈ a.names, ∃ c, .resolved name c ∈ log

/-- Most instructions leave alone what was told, but for the stack. -/
theorem Describes.forget (h : a.Describes m log) (htexts : m.store.KeepsTexts m'.store)
    (hmemo : m'.memo = m.memo) (hlog : log <:+ log') :
    ({ a with top := [] } : Outline).Describes m' log' where
  size := by rw [hmemo]; exact h.size
  lt_size := by rw [hmemo]; exact h.lt_size
  kept n t hn := by
    obtain ⟨r, hr, ht⟩ := h.kept n t hn
    exact ⟨r, by rw [hmemo]; exact hr, htexts.text? ht⟩
  top := by simp
  names name hname := (h.names name hname).imp fun _ hc => hlog.subset hc

/-- The value that comes next on the stack. -/
theorem Describes.push (h : ({ a with top := [] } : Outline).Describes m log) {x : Option WideText}
    {top : List (Option WideText)} {r : Ref} {stack : List Ref} (hstack : m.stack = r :: stack)
    (hx : ∀ t, x = some t → m.store.text? r = some t)
    (htop : ∀ (k : Nat) t, top[k]? = some (some t) → ∃ r, stack[k]? = some r ∧
      m.store.text? r = some t) :
    ({ a with top := x :: top } : Outline).Describes m log :=
  { h with
    top := by
      intro k t hk
      rw [hstack]
      cases k with
      | zero => exact ⟨r, rfl, hx t (by simpa using hk)⟩
      | succ k => exact htop k t hk }

theorem Describes.memoize (h : a.Describes m log)
    (hrun : Machine.step g .memoize m log = (.ok ((), m'), log')) :
    (a.step .memoize).Describes m' log' := by
  obtain ⟨store, stack, below, memo⟩ := m
  cases stack with
  | nil => cases hrun
  | cons r stack =>
    cases hrun
    have hnew : memo.size ∉ memo := by
      intro hmem
      obtain ⟨x, hx⟩ := Option.isSome_iff_exists.1 (Std.HashMap.mem_iff_isSome_getElem?.1 hmem)
      exact absurd (h.lt_size _ _ hx) (by rw [← h.size]; exact Nat.lt_irrefl _)
    have hsize : memo.size = a.kept.length := h.size
    refine ⟨?_, fun n x hn => ?_, fun n t hn => ?_, h.top, h.names⟩
    · simp only [Outline.step, List.length_append, List.length_singleton]
      rw [Std.HashMap.size_insert, if_neg hnew, hsize]
    · simp only [Outline.step, List.length_append, List.length_singleton]
      rw [Std.HashMap.getElem?_insert] at hn
      split at hn
      · rename_i heq
        have heq : memo.size = n := by simpa using heq
        omega
      · exact Nat.lt_succ_of_lt (h.lt_size n x hn)
    · simp only [Outline.step] at hn
      rw [Std.HashMap.getElem?_insert]
      rcases Nat.lt_trichotomy n a.kept.length with hlt | rfl | hgt
      · rw [List.getElem?_append_left hlt] at hn
        rw [if_neg (by simp; omega)]
        exact h.kept n t hn
      · have ht : a.top.head?.join = some t := by simpa using hn
        have ht : a.top[0]? = some (some t) := by
          rwa [List.head?_eq_getElem?, Option.join_eq_some_iff] at ht
        obtain ⟨x, hx, htext⟩ := h.top 0 t ht
        obtain rfl : r = x := by simpa using hx
        exact ⟨r, by simp [hsize], htext⟩
      · rw [List.getElem?_eq_none (by simp; omega)] at hn
        cases hn

/-- Two texts that lie topmost are the name by which a class is asked for. -/
theorem Describes.stackGlobal (h : a.Describes m log) {name module : WideText}
    {top : List (Option WideText)} (htop : a.top = some name :: some module :: top)
    (hrun : Machine.step g .stackGlobal m log = (.ok ((), m'), log')) :
    ∃ c, .resolved (module, name) c ∈ log' := by
  obtain ⟨x, hx, hname⟩ := h.top 0 name (by rw [htop]; rfl)
  obtain ⟨y, hy, hmodule⟩ := h.top 1 module (by rw [htop]; rfl)
  obtain ⟨x', _, _, hpop, hrest⟩ := Run.of_bind hrun
  obtain ⟨stack, hstack, rfl, rfl⟩ := Machine.of_pop hpop
  obtain rfl : x' = x := by simpa [hstack] using hx
  obtain ⟨y', _, _, hpop', hrest'⟩ := Run.of_bind hrest
  obtain ⟨stack', hstack', rfl, rfl⟩ := Machine.of_pop hpop'
  obtain rfl : stack = y' :: stack' := hstack'
  obtain rfl : y' = y := by simpa [hstack] using hy
  obtain ⟨_, _, _, hget, hask⟩ := Run.of_bind hrest'
  cases hget
  obtain ⟨name', _, _, hsome, hask'⟩ := Run.of_bind hask
  obtain ⟨hname', rfl, rfl⟩ := Machine.of_orFail hsome
  obtain rfl : name' = name := Option.some.inj (hname'.symm.trans hname)
  obtain ⟨module', _, _, hsome', hpush⟩ := Run.of_bind hask'
  obtain ⟨hmodule', rfl, rfl⟩ := Machine.of_orFail hsome'
  obtain rfl : module' = module := Option.some.inj (hmodule'.symm.trans hmodule)
  obtain ⟨c, _, _, hresolve, hpush'⟩ := Run.of_bind hpush
  cases hpush'
  exact ⟨c, Machine.of_resolve hresolve⟩

/-- **An instruction that is carried out keeps a machine as told.** -/
theorem Describes.step (hg : g.LeavesTexts) (h : a.Describes m log) (hi : i.isEmitted)
    (hrun : Machine.step g i m log = (.ok ((), m'), log')) : (a.step i).Describes m' log' := by
  by_cases hkeep : i = .memoize
  · subst hkeep
    exact h.memoize hrun
  have hkeeping : i.isKeeping = false := by
    cases i with
    | memoize => exact absurd rfl hkeep
    | put => cases hi
    | _ => rfl
  obtain ⟨htexts, hmemo, hlog⟩ :=
    (Machine.steady_step hg hkeeping : Run.Steady [] _) m log (by simp) () m' log' hrun
  have hforget := h.forget htexts hmemo hlog
  have hunder (k : Nat) t (hk : a.top[k]? = some (some t)) :
      ∃ r, m.stack[k]? = some r ∧ m'.store.text? r = some t := by
    obtain ⟨r, hr, ht⟩ := h.top k t hk
    exact ⟨r, hr, htexts.text? ht⟩
  cases i with
  | text t =>
    cases hrun
    refine hforget.push rfl ?_ hunder
    rintro _ ⟨⟩
    exact Store.text?_eq_some.2 ⟨isAlwaysShared t, (Store.get?_add ..).trans (if_pos rfl)⟩
  | get n =>
    obtain ⟨_, _, _, hget, hfetch⟩ := Run.of_bind hrun
    cases hget
    obtain ⟨r, _, _, hsome, hpush⟩ := Run.of_bind hfetch
    obtain ⟨hr, rfl, rfl⟩ := Machine.of_orFail hsome
    cases hpush
    refine hforget.push rfl (fun t ht => ?_) hunder
    obtain ⟨x, hx, htext⟩ := h.kept n t (Option.join_eq_some_iff.1 ht)
    obtain rfl : r = x := Option.some.inj (hr.symm.trans hx)
    exact htext
  | stackGlobal =>
    simp only [Outline.step]
    split
    case h_1 name module rest htop =>
      refine { hforget with names := fun full hfull => ?_ }
      rcases List.mem_cons.1 hfull with rfl | hfull
      · exact h.stackGlobal htop hrun
      · exact hforget.names full hfull
    case h_2 => exact hforget
  | memoize => exact absurd rfl hkeep
  | _ => exact hforget

/-- **A machine that comes to its end has resolved every name that its instructions tell.** -/
theorem Describes.run (hg : g.LeavesTexts) {n fuel : Nat} {input out : Input} {result : Ref × Store}
    (hread : input.Yields n (is ++ [.stop]) out) (his : ∀ i ∈ is, i.isEmitted)
    (h : a.Describes m log) (hrun : Machine.run g fuel input m log = (.ok result, log')) :
    ∀ name ∈ (a.after is).names, ∃ c, .resolved name c ∈ log' := by
  generalize hjs : is ++ [Instruction.stop] = js at hread
  induction hread generalizing a is m fuel log with
  | nil => simp at hjs
  | header hframe _ ih =>
    cases fuel with
    | zero => cases hrun
    | succ fuel =>
      rw [Machine.run_step hframe (by simp)] at hrun
      exact ih his h hrun hjs
  | cons hinstruction _ ih =>
    cases fuel with
    | zero => cases hrun
    | succ fuel =>
      cases is with
      | nil =>
        obtain ⟨rfl, -⟩ : Instruction.stop = _ ∧ [] = _ := by simpa using hjs
        rw [Machine.run_stop hinstruction, Logged.bind_apply] at hrun
        rcases hpop : m.pop log with ⟨_ | ⟨r, m₁⟩, log₁⟩
        · rw [hpop] at hrun
          cases hrun
        · rw [hpop] at hrun
          cases hrun
          obtain ⟨-, -, -, rfl⟩ := Machine.of_pop hpop
          exact h.names
      | cons i is =>
        obtain ⟨rfl, htail⟩ := List.cons.inj hjs
        obtain ⟨hi, hrest⟩ := List.forall_mem_cons.1 his
        have hne : i ≠ .stop := by
          rintro rfl
          cases hi
        rw [Machine.run_step hinstruction hne, Logged.bind_apply] at hrun
        rcases hstep : Machine.step g i m log with ⟨_ | ⟨_, m₁⟩, log₁⟩
        · rw [hstep] at hrun
          cases hrun
        · rw [hstep] at hrun
          rw [after_cons]
          exact ih hrest (h.step hg hi hstep) hrun htail

end Outline

end Wire

end ServiceStubs
