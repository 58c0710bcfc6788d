import Mathlib.Data.List.Forall2

/-!
# Computations that came to a value

What is known of the parts of a computation that came to a value: every part did.
-/

namespace ServiceStubs

variable {ε α β : Type}

theorem exists_of_bind {x : Except ε α} {f : α → Except ε β} {b : β} (h : x >>= f = .ok b) :
    ∃ a, x = .ok a ∧ f a = .ok b := by
  cases x with
  | error e => cases h
  | ok a => exact ⟨a, rfl, h⟩

theorem exists_of_toOption_map {x : Except ε α} {f : α → β} {b : β}
    (h : x.toOption.map f = some b) : ∃ a, x = .ok a ∧ f a = b := by
  cases x with
  | error e => cases h
  | ok a => exact ⟨a, rfl, Option.some.inj h⟩

/-- A check that was passed. -/
theorem not_of_check {c : Prop} [Decidable c] {x : Except ε PUnit} {f : PUnit → Except ε α} {a : α}
    (hx : ∀ u, x ≠ .ok u) (h : (if c then x >>= f else f ()) = .ok a) : ¬c ∧ f () = .ok a := by
  by_cases hc : c
  · rw [if_pos hc] at h
    obtain ⟨u, hu, -⟩ := exists_of_bind h
    exact absurd hu (hx u)
  · rw [if_neg hc] at h
    exact ⟨hc, h⟩

theorem forall₂_of_mapM {f : α → Except ε β} {as : List α} {bs : List β}
    (h : as.mapM f = .ok bs) : List.Forall₂ (fun a b => f a = .ok b) as bs := by
  induction as generalizing bs with
  | nil =>
    obtain rfl : [] = bs := by simpa [pure, Except.pure] using h
    exact .nil
  | cons a as ih =>
    rw [List.mapM_cons] at h
    obtain ⟨b, hb, h⟩ := exists_of_bind h
    obtain ⟨bs', hbs, h⟩ := exists_of_bind h
    obtain rfl : b :: bs' = bs := by simpa [pure, Except.pure] using h
    exact .cons hb (ih hbs)

/-- What is in one of two lists in step has a counterpart in the other. -/
theorem exists_of_forall₂ {R : α → β → Prop} {as : List α} {bs : List β}
    (h : List.Forall₂ R as bs) :
    (∀ a ∈ as, ∃ b ∈ bs, R a b) ∧ ∀ b ∈ bs, ∃ a ∈ as, R a b := by
  induction h with
  | nil => simp
  | cons hab _ ih =>
    refine ⟨List.forall_mem_cons.2 ⟨⟨_, List.mem_cons_self, hab⟩, fun a ha => ?_⟩,
      List.forall_mem_cons.2 ⟨⟨_, List.mem_cons_self, hab⟩, fun b hb => ?_⟩⟩
    · obtain ⟨b, hb, hr⟩ := ih.1 a ha
      exact ⟨b, List.mem_cons_of_mem _ hb, hr⟩
    · obtain ⟨a, ha, hr⟩ := ih.2 b hb
      exact ⟨a, List.mem_cons_of_mem _ ha, hr⟩

/-- What is in step with one thing is one thing. -/
theorem forall₂_unit {P : α → Prop} :
    List.Forall₂ (fun _ : Unit => P) [()] = fun as => ∃ a, as = [a] ∧ P a := by
  refine funext fun as => propext ⟨fun h => ?_, ?_⟩
  · obtain ⟨a, others, ha, hothers, rfl⟩ := List.forall₂_cons_left_iff.1 h
    obtain rfl := List.forall₂_nil_left_iff.1 hothers
    exact ⟨a, rfl, ha⟩
  · rintro ⟨a, rfl, ha⟩
    exact .cons ha .nil

/-- Lists in step, one of which is a function of the other. -/
theorem eq_map_of_forall₂ {f : α → β} {as : List α} {bs : List β}
    (h : List.Forall₂ (fun a b => b = f a) as bs) : bs = as.map f := by
  induction h with
  | nil => rfl
  | cons hb _ ih => rw [List.map_cons, ← hb, ← ih]

/-- What is in step with two lists one after the other is cut where the first one ends. -/
theorem exists_append_of_forall₂ {R : α → β → Prop} {as as' : List α} {bs : List β}
    (h : List.Forall₂ R (as ++ as') bs) :
    ∃ before behind, List.Forall₂ R as before ∧ List.Forall₂ R as' behind ∧ bs = before ++ behind := by
  induction as generalizing bs with
  | nil => exact ⟨[], bs, .nil, h, rfl⟩
  | cons a as ih =>
    obtain ⟨b, others, hb, hothers, rfl⟩ := List.forall₂_cons_left_iff.1 h
    obtain ⟨before, behind, hbefore, hbehind, rfl⟩ := ih hothers
    exact ⟨b :: before, behind, .cons hb hbefore, hbehind, rfl⟩

/-- A fold that came to a value went from state to state. -/
theorem fold_of_foldlM {σ : Type} {f : σ → α → Except ε σ} {P : List α → σ → Prop} {as : List α}
    {s t : σ} (h : as.foldlM f s = .ok t) (hs : P [] s)
    (hstep : ∀ before a u v, P before u → f u a = .ok v → P (before ++ [a]) v) : P as t := by
  suffices hgo : ∀ before u, P before u → as.foldlM f u = .ok t → P (before ++ as) t by
    simpa using hgo [] s hs h
  clear h hs
  induction as with
  | nil =>
    intro before u hu h
    obtain rfl : u = t := by simpa [pure, Except.pure] using h
    simpa using hu
  | cons a as ih =>
    intro before u hu h
    rw [List.foldlM_cons] at h
    obtain ⟨v, hv, h⟩ := exists_of_bind h
    simpa using ih (before ++ [a]) v (hstep before a u v hu hv) h

end ServiceStubs
