import Mathlib
import ServiceStubs.Run.Selection

/-!
# What is selected

Which modules are selected is known from what the paths and the exclusions stand for; the order and
repetitions do not matter.

## Main statements

* `Run.mem_selected`: the modules that are selected
* `Run.selected_of_sorted`: the modules that are selected, if their candidates are in order
* `Run.inOrder_congr`: texts in order are known from which they are
-/

namespace ServiceStubs

namespace Run

variable {o : Options} {root : String} {t : FileTree} {texts texts' : List String} {text m : String}

theorem mem_inOrder : text ∈ inOrder texts ↔ text ∈ texts := by
  rw [inOrder, List.mem_mergeSort, List.mem_eraseDups]

theorem nodup_eraseDups (texts : List String) : texts.eraseDups.Nodup := by
  induction hlength : texts.length using Nat.strong_induction_on generalizing texts with
  | _ n ih =>
    cases texts with
    | nil => rw [List.eraseDups_nil]; exact List.nodup_nil
    | cons text rest =>
      have hlt : (rest.filter fun b => !b == text).length < n := by
        rw [← hlength, List.length_cons]
        exact Nat.lt_succ_of_le (List.length_filter_le _ _)
      rw [List.eraseDups_cons, List.nodup_cons, List.mem_eraseDups]
      exact ⟨by simp, ih _ hlt _ rfl⟩

theorem nodup_inOrder (texts : List String) : (inOrder texts).Nodup := by
  rw [inOrder, (List.mergeSort_perm _ _).nodup_iff]
  exact nodup_eraseDups texts

theorem sorted_inOrder (texts : List String) : (inOrder texts).Pairwise (· ≤ ·) := by
  have h : (inOrder texts).Pairwise fun a b => decide (a ≤ b) = true :=
    List.pairwise_mergeSort (by simpa using fun a b c => String.le_trans)
      (by simpa using String.le_total) texts.eraseDups
  simpa using h

theorem inOrder_congr (h : ∀ text, text ∈ texts ↔ text ∈ texts') : inOrder texts = inOrder texts' := by
  refine List.Perm.eq_of_pairwise (fun a b _ _ => String.le_antisymm) (sorted_inOrder texts)
    (sorted_inOrder texts') ?_
  exact (List.perm_ext_iff_of_nodup (nodup_inOrder texts) (nodup_inOrder texts')).2 fun text => by
    rw [mem_inOrder, mem_inOrder, h]

/-- Texts that stand in order already, each of them once. -/
theorem inOrder_of_sorted (h : texts.Pairwise (· ≤ ·)) (hnodup : texts.Nodup) :
    inOrder texts = texts := by
  refine List.Perm.eq_of_pairwise (fun a b _ _ => String.le_antisymm) (sorted_inOrder texts) h ?_
  exact (List.perm_ext_iff_of_nodup (nodup_inOrder texts) hnodup).2 fun text => mem_inOrder

theorem mem_selected : m ∈ selected o root t ↔
    ∃ path ∈ candidates o root t, isSource o t path = true ∧ Path.normalize path = m ∧
      m ∉ excluded o root t := by
  rw [selected, mem_inOrder, List.mem_filter, List.mem_map]
  simp only [List.mem_filter, Bool.not_eq_true', List.contains_eq_mem, decide_eq_false_iff_not]
  constructor
  · rintro ⟨⟨path, ⟨hmem, hsource⟩, rfl⟩, hleft⟩
    exact ⟨path, hmem, hsource, rfl, hleft⟩
  · rintro ⟨path, hmem, hsource, rfl, hleft⟩
    exact ⟨⟨path, ⟨hmem, hsource⟩, rfl⟩, hleft⟩

theorem isSource_iff {path : String} : isSource o t path = true ↔
    t.isFile path = true ∧ hasModuleExtension path = true ∧ isGenerated o.suffix path = false := by
  rw [isSource, Bool.and_eq_true, Bool.and_eq_true, Bool.not_eq_true', and_assoc]

/-- What is left of the candidates is selected as it stands, if it stands in order. -/
theorem selected_of_sorted
    (hleft : (((candidates o root t).filter (isSource o t)).map Path.normalize).filter
      (fun path => !(excluded o root t).contains path) = texts)
    (hsorted : texts.Pairwise (· ≤ ·)) (hnodup : texts.Nodup) : selected o root t = texts := by
  rw [selected, hleft, inOrder_of_sorted hsorted hnodup]

end Run

end ServiceStubs
