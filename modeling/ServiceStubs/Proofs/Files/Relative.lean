import Mathlib
import ServiceStubs.Proofs.Files.Place

/-!
# Paths as seen from a directory above

The deepest directory above some paths is one whose steps all of them start with, and a path is seen
from such a directory as the steps that remain.

## Main statements

* `Path.exists_commonDirectory`: the deepest directory above some paths
* `Path.relativeTo_eq`: a path as seen from a directory above it
-/

namespace ServiceStubs

namespace Path

variable {path base : String} {cs ds rest : List String}

theorem sharedStart_prefix (cs ds : List String) :
    sharedStart cs ds <+: cs ∧ sharedStart cs ds <+: ds := by
  induction cs generalizing ds with
  | nil => exact ⟨List.nil_prefix, List.nil_prefix⟩
  | cons c cs ih =>
    cases ds with
    | nil => exact ⟨List.nil_prefix, List.nil_prefix⟩
    | cons d ds =>
      rw [sharedStart]
      split
      · rename_i h
        rw [beq_iff_eq] at h
        rw [List.cons_prefix_cons, List.cons_prefix_cons]
        exact ⟨⟨rfl, (ih ds).1⟩, ⟨h, (ih ds).2⟩⟩
      · exact ⟨List.nil_prefix, List.nil_prefix⟩

theorem foldl_sharedStart_prefix (first : List String) (others : List (List String)) :
    ∀ cs ∈ first :: others, others.foldl sharedStart first <+: cs := by
  induction others generalizing first with
  | nil => simp
  | cons other others ih =>
    rw [List.foldl_cons]
    have hfold := List.forall_mem_cons.1 (ih (sharedStart first other))
    have hstart := sharedStart_prefix first other
    rw [List.forall_mem_cons, List.forall_mem_cons]
    exact ⟨hfold.1.trans hstart.1, hfold.1.trans hstart.2, hfold.2⟩

/-- **All paths start with the steps of the deepest directory above them.** -/
theorem exists_commonDirectory {paths : List String} (hne : paths ≠ []) :
    ∃ shared, commonDirectory paths = some ("/" ++ ofComponents shared) ∧
      ∀ path ∈ paths, shared <+: steps path := by
  rw [commonDirectory]
  cases paths with
  | nil => exact absurd rfl hne
  | cons first others =>
    refine ⟨_, rfl, fun path hpath => ?_⟩
    refine foldl_sharedStart_prefix (steps first) (others.map steps) (steps path) ?_
    rw [← List.map_cons]
    exact List.mem_map_of_mem hpath

theorem sharedLength_of_prefix (cs rest : List String) :
    sharedLength cs (cs ++ rest) = cs.length := by
  induction cs with
  | nil => rw [sharedLength.eq_def]; rfl
  | cons c cs ih => rw [List.cons_append, sharedLength, if_pos (by simp), ih, List.length_cons]

/-- Seen from a directory above, what remains of a path are the further steps. -/
theorem relativeTo_eq (hbase : "." ∉ components base) (hpath : "." ∉ components path)
    (h : steps path = steps base ++ rest) :
    relativeTo path base = if rest = [] then "." else ofComponents rest := by
  have hsteps {p : String} (hp : "." ∉ components p) :
      (components p).filter (· != "") = steps p := by
    refine List.filter_congr fun c hc => ?_
    have hdot : c ≠ "." := fun heq => hp (heq ▸ hc)
    simp [isStep, hdot]
  rw [relativeTo, hsteps hbase, hsteps hpath, h,
    sharedLength_of_prefix, Nat.sub_self, List.replicate_zero, List.nil_append, List.drop_left]
  by_cases hrest : rest = []
  · rw [if_pos hrest, if_pos (by simp [hrest])]
  · rw [if_neg hrest, if_neg (by simp [hrest])]

/-! ### Paths from the root -/

theorem dot_notMem_normalize (h : isAbsolute path = true) : "." ∉ components (normalize path) := by
  obtain ⟨before, hbefore, heq⟩ := components_normalize path
  rw [heq, List.mem_append]
  rintro (hmem | hmem)
  · rcases hbefore "." hmem with hempty | ⟨-, hrelative⟩
    · exact absurd hempty (by decide)
    · rw [h] at hrelative
      cases hrelative
  · exact absurd (isStep_of_mem_kept hmem).1 (by decide)

/-- The directory of a path has no other components, but for slashes. -/
theorem mem_components_directory {c : String} (h : c ∈ components (directory path)) :
    c ∈ components path ∨ c = "" := by
  obtain ⟨head, hpath, hhead, hdirectory⟩ := exists_split path
  obtain ⟨n, hn⟩ := exists_dropFinalSlashes head
  have hmem : c ∈ components (String.ofList head) := by
    rw [hn, components_append_slashes, ← hdirectory]
    exact List.mem_append_left _ h
  rcases hhead with rfl | ⟨cs, rfl⟩
  · exact .inr (List.mem_singleton.1 hmem)
  · have heq : path = String.ofList cs ++ "/" ++ lastPart path := by
      rw [← String.toList_inj, hpath, String.toList_append, String.toList_append,
        String.toList_ofList]
      rfl
    have hslash := components_append_slashes cs 1
    rw [List.replicate_one, List.replicate_one] at hslash
    rw [hslash, List.mem_append] at hmem
    rcases hmem with hmem | hmem
    · rw [heq, components_slash]
      exact .inl (List.mem_append_left _ hmem)
    · exact .inr (List.mem_singleton.1 hmem)

theorem dot_notMem_directory (h : "." ∉ components path) : "." ∉ components (directory path) := by
  intro hmem
  rcases mem_components_directory hmem with hmem | hempty
  · exact h hmem
  · exact absurd hempty (by decide)

end Path

end ServiceStubs
