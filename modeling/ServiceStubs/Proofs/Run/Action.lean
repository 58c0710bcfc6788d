import Mathlib
import ServiceStubs.Run.Session

/-!
# Parts of a run

A part of a run either comes to a value or fails, and leaves a session in both cases. What holds of
the tree through a whole run follows from what holds of its parts.

## Main definitions

* `Run.Evolves`: how a part of a run changes the file tree, whether it fails or not

## Main statements

* `Run.forIn_of_step`: an invariant of a loop that does not fail
-/

namespace ServiceStubs

namespace Run

variable {α β : Type} {x : Action α} {f : α → Action β} {s s' : Session} {a : α} {e : Failure}

theorem bind_of_ok (h : x s = (.ok a, s')) : (x >>= f) s = f a s' := by
  show (fun r : Except Failure α × Session => ExceptT.bindCont f r.1 r.2) (x s) = f a s'
  rw [h]
  rfl

theorem bind_of_error (h : x s = (.error e, s')) : (x >>= f) s = (.error e, s') := by
  show (fun r : Except Failure α × Session => ExceptT.bindCont f r.1 r.2) (x s) = (.error e, s')
  rw [h]
  rfl

theorem exists_of_bind_ok {b : β} (h : (x >>= f) s = (.ok b, s')) :
    ∃ a s₁, x s = (.ok a, s₁) ∧ f a s₁ = (.ok b, s') := by
  cases hx : x s with
  | mk r s₁ =>
    cases r with
    | ok a => exact ⟨a, s₁, rfl, (bind_of_ok hx).symm.trans h⟩
    | error e => cases (bind_of_error hx).symm.trans h

theorem get_apply (s : Session) : (get : Action Session) s = (.ok s, s) := rfl

theorem log_apply (level : Level) (text : String) (s : Session) :
    log level text s = (.ok (), s.note level text) := rfl

theorem change_of_ok {g : FileTree → Except FileError FileTree} {t : FileTree}
    (h : g s.tree = .ok t) : change g s = (.ok (), { s with tree := t }) := by
  rw [change, bind_of_ok (get_apply s), h]
  rfl

/-- A loop that never fails keeps its invariant, which may tell what was done already. -/
theorem forIn_of_step {as : List α} {body : α → PUnit → Action (ForInStep PUnit)}
    {I : List α → Session → Prop} (hstart : I [] s)
    (hstep : ∀ before a s, I before s →
      ∃ s', body a ⟨⟩ s = (.ok (.yield ⟨⟩), s') ∧ I (before ++ [a]) s') :
    ∃ s', (forIn as PUnit.unit body >>= fun _ => pure ()) s = (.ok (), s') ∧ I as s' := by
  suffices hgo : ∀ before s, I before s →
      ∃ s', forIn as PUnit.unit body s = (.ok ⟨⟩, s') ∧ I (before ++ as) s' by
    obtain ⟨s', hloop, hI⟩ := hgo [] s hstart
    exact ⟨s', bind_of_ok hloop, hI⟩
  clear hstart
  induction as with
  | nil => exact fun before s h => ⟨s, rfl, by simpa using h⟩
  | cons a as ih =>
    intro before s h
    obtain ⟨s₁, hbody, h₁⟩ := hstep before a s h
    obtain ⟨s₂, hrest, h₂⟩ := ih (before ++ [a]) s₁ h₁
    refine ⟨s₂, ?_, by simpa using h₂⟩
    rw [List.forIn_cons, bind_of_ok hbody]
    exact hrest

/-! ### How the tree changes -/

/-- A part of a run changes the tree in a given way, whether it fails or not. -/
def Evolves (R : FileTree → FileTree → Prop) (x : Action α) : Prop :=
  ∀ s : Session, R s.tree (x s).2.tree

section Evolves

variable {R : FileTree → FileTree → Prop}

theorem Evolves.of_tree (hR : ∀ t, R t t) (h : ∀ s : Session, (x s).2.tree = s.tree) :
    Evolves R x := by
  intro s
  rw [h]
  exact hR s.tree

theorem Evolves.bind (htrans : ∀ t u v, R t u → R u v → R t v) (hx : Evolves R x)
    (hf : ∀ a, Evolves R (f a)) : Evolves R (x >>= f) := by
  intro s
  cases h : x s with
  | mk r s' =>
    have hfirst : R s.tree s'.tree := by
      have := hx s
      rwa [h] at this
    cases r with
    | ok a =>
      rw [bind_of_ok h]
      exact htrans _ _ _ hfirst (hf a s')
    | error e =>
      rw [bind_of_error h]
      exact hfirst

end Evolves

end Run

end ServiceStubs
