import ServiceStubs.Code
import ServiceStubs.Proofs.Text.Characters

/-!
# Names in a line of code

A name stands in a line of code if a run of characters that identifiers consist of is that name.
What stands in a line that is put together from pieces stands in one of the pieces, as long as no
two pieces run into each other.

## Main definitions

* `Text.Mentions`: a text in which a name stands
* `Text.Apart`: two texts that do not run into each other

## Main statements

* `Text.mentions_append`: what stands in two texts that are apart
* `Text.mentions_commaSeparated`: what stands in a list
-/

namespace ServiceStubs

namespace Text

/-- Whether the character ends a name. -/
def isGap (c : Char) : Bool := !isIdentifierPart c

/-- The name stands in the text. -/
def Mentions (text name : String) : Prop := name.toList ∈ text.toList.splitOnP isGap

instance (text name : String) : Decidable (Mentions text name) :=
  inferInstanceAs (Decidable (_ ∈ _))

/-- The first text ends, or the second one starts, with a character that ends a name, unless it is
empty. -/
def Apart (a b : String) : Prop :=
  a.toList.getLast?.all isGap = true ∨ b.toList.head?.all isGap = true

theorem Apart.ends {a b : String} (h : a.toList.getLast?.all isGap = true) : Apart a b := .inl h

theorem Apart.ends_append {a b c : String} (h : b.toList.getLast?.any isGap = true) :
    Apart (a ++ b) c := by
  refine .ends ?_
  obtain ⟨d, hd, hgap⟩ := (Option.any_eq_true _ _).mp h
  rw [String.toList_append, List.getLast?_append, hd]
  exact hgap

theorem Apart.starts {a b : String} (h : b.toList.head?.all isGap = true) : Apart a b := .inr h

section Pieces

variable {a b name : String}

theorem mem_splitOnP_of_append {xs ys w : List Char}
    (h : xs.getLast?.all isGap = true ∨ ys.head?.all isGap = true)
    (hw : w ∈ (xs ++ ys).splitOnP isGap) : w ∈ xs.splitOnP isGap ∨ w ∈ ys.splitOnP isGap := by
  rcases h with hlast | hhead
  · rcases List.eq_nil_or_concat xs with rfl | ⟨xs, c, rfl⟩
    · exact .inr hw
    · have hc : isGap c = true := by simpa using hlast
      rw [List.concat_eq_append, List.append_assoc, List.singleton_append,
        List.splitOnP_append_cons _ _ hc, List.mem_append] at hw
      rw [List.concat_eq_append, List.splitOnP_append_cons _ _ hc, List.mem_append]
      exact hw.imp_left .inl
  · cases ys with
    | nil => exact .inl (by simpa using hw)
    | cons c ys =>
      have hc : isGap c = true := by simpa using hhead
      rw [List.splitOnP_append_cons _ _ hc, List.mem_append] at hw
      rw [List.splitOnP_cons_eq_if_modifyHead, if_pos hc]
      exact hw.imp_right (List.mem_cons_of_mem _)

/-- What stands in a text of two parts stands in one of them, if they are apart. -/
theorem mentions_append (h : Apart a b) (hmentions : Mentions (a ++ b) name) :
    Mentions a name ∨ Mentions b name := by
  rw [Mentions, String.toList_append] at hmentions
  exact mem_splitOnP_of_append h hmentions

/-- What stands in a list stands in one of its members. -/
theorem mentions_commaSeparated {members : List String} (hname : name ≠ "")
    (h : Mentions (Code.commaSeparated members) name) : ∃ m ∈ members, Mentions m name := by
  have hne : name.toList ≠ [] := by simpa using hname
  have hseparator : ", ".toList = [',', ' '] := String.toList_ofList
  suffices hmem : ∀ texts : List (List Char),
      name.toList ∈ ([',', ' '].intercalate texts).splitOnP isGap →
        ∃ t ∈ texts, name.toList ∈ t.splitOnP isGap by
    rw [Mentions, Code.commaSeparated, String.toList_intercalate, hseparator] at h
    obtain ⟨t, ht, hmentions⟩ := hmem _ h
    obtain ⟨m, hm, rfl⟩ := List.mem_map.mp ht
    exact ⟨m, (List.mem_filter.mp hm).1, hmentions⟩
  intro texts
  induction texts with
  | nil => exact fun hmem => absurd (by simpa using hmem) hne
  | cons t texts ih =>
    intro hmem
    cases texts with
    | nil => exact ⟨t, List.mem_cons_self, by simpa using hmem⟩
    | cons t' texts =>
      rw [List.intercalate_cons_cons, List.append_assoc, List.cons_append, List.singleton_append,
        List.splitOnP_append_cons _ _ (by decide), List.mem_append, List.splitOnP_cons_eq_if_modifyHead,
        if_pos (by decide), List.mem_cons] at hmem
      rcases hmem with hmem | hmem | hmem
      · exact ⟨t, List.mem_cons_self, hmem⟩
      · exact absurd hmem hne
      · obtain ⟨u, hu, hmentions⟩ := ih hmem
        exact ⟨u, List.mem_cons_of_mem _ hu, hmentions⟩

/-- In an identifier nothing stands but itself. -/
theorem eq_of_mentions (h : ∀ c ∈ a.toList, isIdentifierPart c = true) (hmentions : Mentions a name) :
    name = a := by
  have hgap : ∀ c ∈ a.toList, isGap c = false := fun c hc => by simp [isGap, h c hc]
  rw [Mentions, List.splitOnP_eq_singleton hgap, List.mem_singleton] at hmentions
  exact String.toList_inj.mp hmentions

end Pieces

end Text

end ServiceStubs
