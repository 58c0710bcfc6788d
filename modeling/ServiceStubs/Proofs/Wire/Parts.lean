import Mathlib.Data.Finset.Card
import Mathlib.Logic.Relation
import ServiceStubs.Wire.Object

/-!
# The parts of objects

An object refers to its parts, these to theirs, and so on. A value that was built from its parts up
never comes back to itself, so no path through its parts is longer than the store.

## Main definitions

* `Object.parts`: what an object refers to
* `Store.Leads`: an object has a part, or a part of which has it, and so on
* `Store.Shallow`: no path through the parts of an object has so many steps

## Main statements

* `Store.Shallow.not_leads`: an object of bounded depth is not among its parts
* `Store.Shallow.size`: its depth is at most the size of the store
-/

namespace ServiceStubs

namespace Wire

/-- The places that an object refers to. -/
def Object.parts : Object → List Ref
  | tuple items | list items | set items | frozenSet items | deque items _ => items
  | dict entries | orderedDict entries | .instance _ entries =>
    entries.map Prod.fst ++ entries.map Prod.snd
  | slice start stop step => [start, stop, step]
  | datetime _ _ zone | time _ zone => zone.toList
  | timezone offset name => offset :: name.toList
  | uuid number => number.toList
  | view target => [target]
  | _ => []

namespace Store

variable {s : Store} {r p x : Ref} {o : Object}

/-- An object that has a part, or a part of which has it, and so on. -/
def Leads (s : Store) : Ref → Ref → Prop :=
  Relation.ReflTransGen fun x y => ∃ o, s.get? x = some o ∧ y ∈ o.parts

theorem Leads.of_part (ho : s.get? r = some o) (hp : p ∈ o.parts) (h : s.Leads p x) :
    s.Leads r x :=
  .head ⟨o, ho, hp⟩ h

/-- An object the parts of which are there, and their parts, at most `n` objects deep. -/
def Shallow (s : Store) : Nat → Ref → Prop
  | 0, _ => False
  | n + 1, r => ∃ o, s.get? r = some o ∧ ∀ p ∈ o.parts, s.Shallow n p

theorem Shallow.succ {n : Nat} (h : s.Shallow n r) : s.Shallow (n + 1) r := by
  induction n generalizing r with
  | zero => exact h.elim
  | succ n ih =>
    obtain ⟨o, ho, hparts⟩ := h
    exact ⟨o, ho, fun p hp => ih (hparts p hp)⟩

theorem Shallow.mono {m n : Nat} (h : s.Shallow m r) (hle : m ≤ n) : s.Shallow n r := by
  induction hle with
  | refl => exact h
  | step _ ih => exact ih.succ

theorem Shallow.part {n : Nat} (h : s.Shallow (n + 1) r) (ho : s.get? r = some o)
    (hp : p ∈ o.parts) : s.Shallow n p := by
  obtain ⟨o', ho', hparts⟩ := h
  rw [ho] at ho'
  cases ho'
  exact hparts p hp

theorem Shallow.leads {n : Nat} (h : s.Shallow n r) (hx : s.Leads r x) : s.Shallow n x := by
  induction hx with
  | refl => exact h
  | tail _ hpart ih =>
    obtain ⟨o, ho, hp⟩ := hpart
    exact (ih.succ.part ho hp)

theorem Shallow.not_leads {n : Nat} (h : s.Shallow n r) (ho : s.get? r = some o)
    (hp : p ∈ o.parts) : ¬ s.Leads p r := by
  intro hback
  induction n with
  | zero => exact h
  | succ n ih => exact ih ((h.part ho hp).leads hback)

theorem lt_size_of_get? (ho : s.get? r = some o) : r < s.size :=
  (Array.getElem?_eq_some_iff.1 ho).1

theorem get?_add (s : Store) (o : Object) (r : Ref) :
    (s.add o).2.get? r = if r = s.size then some o else s.get? r := by
  simp only [add, get?, size, Array.getElem?_push]
  rfl

theorem get?_set (s : Store) (r : Ref) (o : Object) (x : Ref) :
    (s.set r o).get? x = if r = x ∧ r < s.size then some o else s.get? x := by
  simp only [set, get?, size, Array.getElem?_setIfInBounds]
  grind

theorem Shallow.lt_size {n : Nat} (h : s.Shallow n r) : r < s.size := by
  cases n with
  | zero => exact h.elim
  | succ n =>
    obtain ⟨o, ho, -⟩ := h
    exact lt_size_of_get? ho

/-- The places that an object leads to bound its depth, since each path meets a place once. -/
theorem Shallow.card {n : Nat} (h : s.Shallow n r) (places : Finset Ref)
    (hplaces : ∀ x, s.Leads r x → x ∈ places) : s.Shallow places.card r := by
  induction n generalizing r places with
  | zero => exact h.elim
  | succ n ih =>
    obtain ⟨o, ho, hparts⟩ := h
    have hr : r ∈ places := hplaces r .refl
    rw [← Finset.card_erase_add_one hr]
    refine ⟨o, ho, fun p hp => ih (hparts p hp) _ fun x hx => ?_⟩
    refine Finset.mem_erase.2 ⟨?_, hplaces x (hx.of_part ho hp)⟩
    rintro rfl
    have hshallow : s.Shallow (n + 1) x := ⟨o, ho, hparts⟩
    exact hshallow.not_leads ho hp hx

theorem Shallow.size {n : Nat} (h : s.Shallow n r) : s.Shallow s.size r := by
  have hplaces : ∀ x, s.Leads r x → x ∈ Finset.range s.size := fun x hx =>
    Finset.mem_range.2 (h.leads hx).lt_size
  have hcard := h.card (Finset.range s.size) hplaces
  rwa [Finset.card_range] at hcard

/-- Parts of bounded depth have a common bound. -/
theorem exists_shallow {ps : List Ref} (h : ∀ p ∈ ps, ∃ n, s.Shallow n p) :
    ∃ n, ∀ p ∈ ps, s.Shallow n p := by
  induction ps with
  | nil => exact ⟨0, by simp⟩
  | cons p ps ih =>
    obtain ⟨m, hm⟩ := h p List.mem_cons_self
    obtain ⟨n, hn⟩ := ih fun q hq => h q (List.mem_cons_of_mem _ hq)
    refine ⟨max m n, List.forall_mem_cons.2 ⟨hm.mono (Nat.le_max_left ..), fun q hq => ?_⟩⟩
    exact (hn q hq).mono (Nat.le_max_right ..)

end Store

end Wire

end ServiceStubs
