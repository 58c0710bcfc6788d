import Mathlib.Data.List.Nodup
import ServiceStubs.Expansion.Fragment

/-!
# Private names

In the code of a class, a name that starts with two underscores and does not end in two is meant for
that class only. The class binds and reads it under another name, which takes in its own. A name of
the module that looks like that is therefore not found from within a class, and a private member is
not found from outside under the name it was written with.

## Main definitions

* `Expansion.boundIn`: the name under which a class binds and reads a name

## Main statements

* `Expansion.boundIn_of_not_prefix`: names that do not start with two underscores stay as they are
* `Expansion.nodup_map_boundIn`: distinct names stay distinct unless one is bound as another
-/

namespace ServiceStubs

namespace Expansion

/-- The mark at the start of private names, which stands at the end of none. -/
def privateMark : List Char := ['_', '_']

/-- Whether a name is meant for one class only. -/
def isPrivateName (name : String) : Bool :=
  privateMark.isPrefixOf name.toList && !privateMark.isSuffixOf name.toList

/-- The name of a class as private names take it in, without underscores at its start. -/
def classCore (className : String) : List Char := className.toList.dropWhile (· == '_')

/-- The name under which a class binds and reads a name. -/
def boundIn (className name : String) : String :=
  if isPrivateName name && !(classCore className).isEmpty then
    "_" ++ String.ofList (classCore className) ++ name
  else name

section Private

variable {className name other : String}

theorem boundIn_eq_or (className name : String) :
    boundIn className name = name ∨
      boundIn className name = "_" ++ String.ofList (classCore className) ++ name ∧
        classCore className ≠ [] := by
  rw [boundIn]
  by_cases h : (isPrivateName name && !(classCore className).isEmpty) = true
  · rw [if_pos h]
    exact .inr ⟨rfl, by simpa using (Bool.and_eq_true_iff.mp h).2⟩
  · rw [if_neg h]
    exact .inl rfl

theorem boundIn_of_not_prefix (h : ¬privateMark <+: name.toList) : boundIn className name = name := by
  have hopen : isPrivateName name = false := by
    rw [isPrivateName, Bool.and_eq_false_iff]
    exact .inl (by simpa [← List.isPrefixOf_iff_prefix] using h)
  rw [boundIn, hopen]
  rfl

/-- A name that takes in that of a class is bound as it is written. -/
theorem boundIn_of_core (hcore : classCore other ≠ []) :
    boundIn className ("_" ++ String.ofList (classCore other) ++ name) =
      "_" ++ String.ofList (classCore other) ++ name := by
  obtain ⟨c, cs, hcs⟩ := List.exists_cons_of_ne_nil hcore
  have hc : c ≠ '_' := by
    have hhead := List.head?_dropWhile_not (· == '_') other.toList
    rw [classCore] at hcs
    rw [hcs] at hhead
    simpa using hhead
  have hopen : isPrivateName ("_" ++ String.ofList (classCore other) ++ name) = false := by
    simp [isPrivateName, privateMark, hcs, hc.symm]
  rw [boundIn, hopen]
  rfl

/-- **Distinct names stay distinct in a class** unless one of them is bound as another. -/
theorem nodup_map_boundIn {names : List String} (h : names.Nodup) :
    (names.map (boundIn className)).Nodup ↔
      ∀ n ∈ names, boundIn className n ∈ names → boundIn className n = n := by
  rw [List.nodup_map_iff_inj_on h]
  constructor
  · intro hinj n hn hbound
    refine hinj _ hbound n hn ?_
    rcases boundIn_eq_or className n with hn' | ⟨hn', hcore⟩
    · rw [hn', hn']
    · rw [hn', boundIn_of_core hcore]
  · intro hkept n hn n' hn' heq
    rcases boundIn_eq_or className n with hb | ⟨hb, -⟩
    · have hmem : boundIn className n' ∈ names := by rwa [← heq, hb]
      rw [← hb, heq, hkept n' hn' hmem]
    · rcases boundIn_eq_or className n' with hb' | ⟨hb', -⟩
      · have hmem : boundIn className n ∈ names := by rwa [heq, hb']
        rw [← hb', ← heq, hkept n hn hmem]
      · rw [hb, hb'] at heq
        exact (String.append_right_inj _).mp heq

end Private

end Expansion

end ServiceStubs
