import Mathlib.Data.List.Nodup
import ServiceStubs.Schema.Module
import ServiceStubs.Proofs.Except

/-!
# Names that were claimed

A name can be claimed once, so the names of a scope are distinct however many claims were made, and
they stand in the order of the claims.

## Main definitions

* `Schema.Scope.Adds`: what some claims add to a scope

## Main statements

* `Schema.Scope.adds_claimAll`, `Schema.Scope.adds_foldlM`: claims of many names
-/

namespace ServiceStubs

namespace Schema

namespace Scope

/-- The second scope has these names behind those of the first, and names stay distinct. -/
structure Adds (s t : Scope) (names : List String) : Prop where
  names : t.names = s.names ++ names
  nodup : s.names.Nodup → t.names.Nodup

theorem Adds.nothing (s : Scope) : s.Adds s [] := ⟨by simp, id⟩

theorem Adds.trans {s t u : Scope} {ns ms : List String} (h : s.Adds t ns) (h' : t.Adds u ms) :
    s.Adds u (ns ++ ms) :=
  ⟨by rw [h'.names, h.names, List.append_assoc], h'.nodup ∘ h.nodup⟩

theorem not_mem_names_of_get?_eq_none {s : Scope} {name : String} (h : s.get? name = none) :
    name ∉ s.names := by
  intro hmem
  obtain ⟨c, hc, rfl⟩ := List.mem_map.mp hmem
  rw [get?, List.lookup_eq_none_iff] at h
  simpa using h c hc

theorem adds_claimName {s t : Scope} {name owner : String} {anchor : Anchor}
    (h : claimName s name owner anchor = .ok t) : s.Adds t [name] := by
  have hclaim : s.claim name owner anchor = .ok t := by
    unfold claimName at h
    cases hc : s.claim name owner anchor with
    | error e => rw [hc] at h; cases h
    | ok u =>
      rw [hc] at h
      exact congrArg Except.ok (Except.ok.inj h)
  have hnew := not_mem_names_of_get?_eq_none (claim_eq_ok_iff.mp hclaim).1
  have hnames := names_claim hclaim
  refine ⟨hnames, fun hs => ?_⟩
  rw [hnames]
  refine hs.append (List.nodup_singleton name) ?_
  simpa [List.disjoint_singleton] using hnew

/-- Claims that are made one after the other. -/
theorem adds_foldlM {α : Type} {step : Scope → α → Except Failure Scope} {names : α → List String}
    {as : List α} (hstep : ∀ u v, ∀ a ∈ as, step u a = .ok v → u.Adds v (names a))
    {s t : Scope} (h : as.foldlM step s = .ok t) : s.Adds t (as.flatMap names) := by
  induction as generalizing s with
  | nil =>
    obtain rfl : s = t := by simpa [pure, Except.pure] using h
    exact .nothing s
  | cons a as ih =>
    rw [List.foldlM_cons] at h
    obtain ⟨u, hu, h⟩ := exists_of_bind h
    have hrest := ih (fun v w b hb => hstep v w b (List.mem_cons_of_mem a hb)) h
    exact (hstep s u a List.mem_cons_self hu).trans hrest

theorem adds_claimAll {s t : Scope} {names : List String} {owner : String} {anchor : Anchor}
    (h : claimAll s names owner anchor = .ok t) : s.Adds t names := by
  have hadds : s.Adds t (names.flatMap fun name => [name]) := by
    unfold claimAll at h
    exact adds_foldlM (fun _ _ _ _ hclaim => adds_claimName hclaim) h
  simpa using hadds

end Scope

end Schema

end ServiceStubs
