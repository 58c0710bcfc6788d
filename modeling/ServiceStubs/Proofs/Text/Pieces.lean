import Mathlib
import ServiceStubs.Text.Lines

/-!
# Texts in pieces

A text is cut into pieces at a separator and joined from pieces with separators between them. The
two undo each other, as long as no piece holds the separator.

## Main statements

* `Text.splitAt_intercalate`, `Text.intercalate_splitAt`: joining and cutting
* `Text.splitAt_append_cons`: what is joined at one more separator is cut there
-/

namespace ServiceStubs

namespace Text

variable {cs piece : List Char} {pieces : List (List Char)} {separator : Char}

/-! ### Cutting -/

theorem splitAt_eq_splitOn (separator : Char) (cs : List Char) :
    splitAt separator cs = cs.splitOn separator := by
  induction cs with
  | nil => rfl
  | cons c rest ih =>
    rw [splitAt, List.splitOn, List.splitOnP_cons_eq_if_modifyHead, ← List.splitOn, ← ih]
    split
    · rfl
    · cases h : splitAt separator rest with
      | nil => exact absurd h (splitAt_ne_nil separator rest)
      | cons piece others => rfl

theorem splitAt_append_cons (separator : Char) (cs ds : List Char) :
    splitAt separator (cs ++ separator :: ds) = splitAt separator cs ++ splitAt separator ds := by
  simp only [splitAt_eq_splitOn, List.splitOn]
  exact List.splitOnP_append_cons cs ds (by simp)

theorem splitAt_of_notMem (h : separator ∉ cs) : splitAt separator cs = [cs] := by
  induction cs with
  | nil => rfl
  | cons c rest ih =>
    rw [List.mem_cons, not_or] at h
    rw [splitAt, if_neg (by simpa using Ne.symm h.1), ih h.2]

theorem mem_of_mem_splitAt (h : piece ∈ splitAt separator cs) :
    separator ∉ piece ∧ ∀ c ∈ piece, c ∈ cs := by
  induction cs generalizing piece with
  | nil =>
    obtain rfl := List.mem_singleton.1 h
    simp
  | cons c cs ih =>
    rw [splitAt] at h
    split at h
    · rcases List.mem_cons.1 h with rfl | h
      · simp
      · exact ⟨(ih h).1, fun d hd => List.mem_cons_of_mem c ((ih h).2 d hd)⟩
    · next hc =>
      cases hpieces : splitAt separator cs with
      | nil => exact absurd hpieces (splitAt_ne_nil _ _)
      | cons first others =>
        rw [hpieces] at h ih
        rcases List.mem_cons.1 h with rfl | h
        · obtain ⟨hseparator, hmem⟩ := ih List.mem_cons_self
          refine ⟨?_, fun d hd => ?_⟩
          · simp only [List.mem_cons, not_or]
            exact ⟨fun heq => hc (by simp [heq]), hseparator⟩
          · exact List.mem_cons.2 ((List.mem_cons.1 hd).imp id (hmem d))
        · obtain ⟨hseparator, hmem⟩ := ih (List.mem_cons_of_mem first h)
          exact ⟨hseparator, fun d hd => List.mem_cons_of_mem c (hmem d hd)⟩

/-! ### Joining -/

theorem mem_intercalate {α : Type} {sep : List α} {parts : List (List α)} {a : α}
    (h : a ∈ sep.intercalate parts) : a ∈ sep ∨ ∃ p ∈ parts, a ∈ p := by
  induction parts with
  | nil => simp at h
  | cons p rest ih =>
    cases rest with
    | nil => exact .inr ⟨p, by simp, by simpa using h⟩
    | cons q rest =>
      rw [List.intercalate_cons_cons, List.mem_append, List.mem_append] at h
      rcases h with (h | h) | h
      · exact .inr ⟨p, by simp, h⟩
      · exact .inl h
      · exact (ih h).imp id fun ⟨r, hr, ha⟩ => ⟨r, List.mem_cons_of_mem p hr, ha⟩

theorem mem_intercalate_of_mem {c : Char} (hpiece : piece ∈ pieces) (hc : c ∈ piece)
    (separator : List Char) : c ∈ separator.intercalate pieces := by
  induction pieces with
  | nil => cases hpiece
  | cons first others ih =>
    cases others with
    | nil =>
      obtain rfl := List.mem_singleton.1 hpiece
      rwa [List.intercalate_singleton]
    | cons second others =>
      rw [List.intercalate_cons_cons, List.append_assoc]
      rcases List.mem_cons.1 hpiece with rfl | hpiece
      · exact List.mem_append_left _ hc
      · exact List.mem_append_right _ (List.mem_append_right _ (ih hpiece))

theorem map_intercalate {α β : Type} (f : α → β) (sep : List α) (parts : List (List α)) :
    (sep.intercalate parts).map f = (sep.map f).intercalate (parts.map (·.map f)) := by
  induction parts with
  | nil => simp
  | cons p rest ih =>
    cases rest with
    | nil => simp
    | cons q rest =>
      rw [List.map_cons] at ih
      simp only [List.intercalate_cons_cons, List.map_append, List.map_cons, ih]

theorem splitAt_intercalate (h : ∀ piece ∈ pieces, separator ∉ piece) (hne : pieces ≠ []) :
    splitAt separator ([separator].intercalate pieces) = pieces := by
  rw [splitAt_eq_splitOn, List.splitOn_intercalate _ h hne]

theorem intercalate_splitAt (separator : Char) (cs : List Char) :
    [separator].intercalate (splitAt separator cs) = cs := by
  rw [splitAt_eq_splitOn, List.intercalate_splitOn]

end Text

end ServiceStubs
