import Mathlib
import ServiceStubs.Grammar.Reader
import ServiceStubs.Proofs.Except
import ServiceStubs.Proofs.Token.Names

/-!
# What readers yield

A property of what a reader yields, whatever it reads. It is put together along the reader: what is
read first may or may not matter for what is read next.

## Main definitions

* `Grammar.Gives`: what a reader yields, whatever it reads

## Main statements

* `Grammar.Gives.bind`, `Grammar.Gives.repeated`: one reader after the other
* `Grammar.gives_name`: names are read as such
-/

namespace ServiceStubs

namespace Grammar

open Tree Reader

section Runs

variable {α β : Type}

/-- What was read by two readers was read by one after the other. -/
theorem exists_of_run_bind {r : Reader α} {f : α → Reader β} {input rest : Input} {b : β}
    (h : (r >>= f).run input = .ok (b, rest)) :
    ∃ a mid, r.run input = .ok (a, mid) ∧ (f a).run mid = .ok (b, rest) := by
  rw [Reader.run_bind] at h
  split at h
  · cases h
  · next a mid hr => exact ⟨a, mid, hr, h⟩

/-- What was read by one reader or else another was read by one of them. -/
theorem run_of_orElse {r : Reader α} {s : Unit → Reader α} {input rest : Input} {a : α}
    (h : (Reader.orElse r s).run input = .ok (a, rest)) :
    r.run input = .ok (a, rest) ∨ (s ()).run input = .ok (a, rest) := by
  dsimp only [Reader.orElse] at h
  split at h
  · next hfirst => exact .inl (hfirst.trans h)
  · split at h
    · next hsecond => exact .inr (hsecond.trans h)
    · cases h

end Runs

/-- Whatever the reader yields has the property. -/
def Gives {α : Type} (P : α → Prop) (r : Reader α) : Prop :=
  ∀ ⦃input a rest⦄, r.run input = .ok (a, rest) → P a

namespace Gives

variable {α β : Type} {P : α → Prop} {Q : β → Prop}

theorem any (r : Reader α) : Gives (fun _ => True) r := fun _ _ _ _ => trivial

theorem mono {P' : α → Prop} {r : Reader α} (hr : Gives P r) (h : ∀ a, P a → P' a) : Gives P' r :=
  fun _ _ _ ha => h _ (hr ha)

theorem pure {a : α} (h : P a) : Gives P (Pure.pure a) := by
  intro input b rest hb
  obtain ⟨rfl, -⟩ := Prod.mk.inj (Except.ok.inj hb)
  exact h

theorem failure : Gives P (Alternative.failure : Reader α) := by
  intro input a rest h
  cases h

theorem bind {r : Reader α} {f : α → Reader β} (hr : Gives P r) (hf : ∀ a, P a → Gives Q (f a)) :
    Gives Q (r >>= f) := by
  intro input b rest hb
  obtain ⟨a, next, ha, hnext⟩ := exists_of_run_bind hb
  exact hf a (hr ha) hnext

/-- What is read first does not matter. -/
theorem after {r : Reader α} {f : α → Reader β} (hf : ∀ a, Gives Q (f a)) : Gives Q (r >>= f) :=
  (any r).bind fun a _ => hf a

theorem map {r : Reader α} {f : α → β} (hr : Gives P r) (hf : ∀ a, P a → Q (f a)) :
    Gives Q (f <$> r) := by
  rw [map_eq_pure_bind]
  exact hr.bind fun a ha => pure (hf a ha)

theorem orElse {r : Reader α} {s : Unit → Reader α} (hr : Gives P r) (hs : Gives P (s ())) :
    Gives P (Reader.orElse r s) := by
  intro input a rest h
  rcases run_of_orElse h with h | h
  · exact hr h
  · exact hs h

theorem optional {r : Reader α} (hr : Gives P r) :
    Gives (fun o => ∀ a, o = some a → P a) (optional r) := by
  show Gives _ (Reader.orElse (some <$> r) fun _ => Pure.pure none)
  refine orElse (hr.map fun a ha b hb => ?_) (pure nofun)
  obtain rfl : a = b := Option.some.inj hb
  exact ha

theorem seqRight {r : Reader α} {s : Reader β} (hs : Gives Q s) : Gives Q (r *> s) := by
  rw [seqRight_eq_bind]
  exact after fun _ => hs

/-- A check in between does not matter. -/
theorem check {c : Prop} [Decidable c] {f : PUnit → Reader β} (hf : ∀ u, Gives Q (f u)) :
    Gives Q (if c then (do let u ← (Alternative.failure : Reader PUnit); f u) else f ()) := by
  split
  · exact after hf
  · exact hf ()

theorem ite {c : Prop} [Decidable c] {r s : Reader β} (hr : Gives Q r) (hs : Gives Q s) :
    Gives Q (if c then r else s) := by
  split
  · exact hr
  · exact hs

theorem repeated {step : Reader (Option α)} (hstep : Gives (fun o => ∀ a, o = some a → P a) step)
    (bound : Nat) : Gives (fun as => ∀ a ∈ as, P a) (Reader.repeated bound step) := by
  induction bound with
  | zero => exact pure (by simp)
  | succ bound ih =>
    refine hstep.bind fun o ho => ?_
    cases o with
    | none => exact pure (by simp)
    | some a =>
      refine ih.bind fun as has => pure ?_
      simpa using ⟨ho a rfl, has⟩

end Gives

theorem gives_name : Gives Token.IsName name :=
  (Gives.any identifier).map fun id _ => id.isName

end Grammar

end ServiceStubs
