import ServiceStubs.Proofs.Text.Words
import ServiceStubs.Text.Identifier

/-!
# The characters of names

An identifier holds no sign, no blank and no quote, and neither does a name that is made of the
words of another one.

## Main statements

* `Text.not_mem_of_isIdentifier`: the characters that an identifier does not hold
* `Text.isIdentifierPart_of_start`: what starts an identifier may stand further on in it
* `Text.isIdentifierPart_of_mem_shoutyCase`, `Text.isIdentifierPart_of_mem_snakeCase`
* `Text.head?_shoutyCase`: the character that a name made of words starts with
-/

namespace ServiceStubs

namespace Text

/-- A character that no identifier holds. -/
def isForeign (c : Char) : Bool := !isIdentifierStart c && !isIdentifierPart c

theorem not_mem_of_isIdentifier {cs : List Char} (h : isIdentifier cs = true) {c : Char}
    (hc : isForeign c = true) : c ∉ cs := by
  simp only [isForeign, Bool.and_eq_true, Bool.not_eq_true'] at hc
  cases cs with
  | nil => simp
  | cons d rest =>
    simp only [isIdentifier, Bool.and_eq_true, List.all_eq_true] at h
    intro hmem
    rcases List.mem_cons.mp hmem with rfl | hmem
    · simp [hc.1] at h
    · simp [h.2 c hmem] at hc

/-! ### Character classes -/

/-- Whether a class that is kept as runs lies within another one. Each step takes the shorter of the
two first runs off both. -/
def runsWithin : Nat → Bool → List Nat → Bool → List Nat → Bool
  | 0, _, _, _, _ => false
  | _ + 1, _, [], _, _ => true
  | fuel + 1, a, x :: xs, b, [] => (!a || x == 0) && runsWithin fuel (!a) xs b []
  | fuel + 1, a, x :: xs, b, y :: ys =>
    (!a || b || min x y == 0) &&
      if x < y then runsWithin fuel (!a) xs b ((y - x) :: ys)
      else if x = y then runsWithin fuel (!a) xs (!b) ys
      else runsWithin fuel a ((x - y) :: xs) (!b) ys

theorem inRuns_sub (a : Bool) (xs : List Nat) {k x n : Nat} (hx : k ≤ x) (hn : k ≤ n) :
    inRuns a ((x - k) :: xs) (n - k) = inRuns a (x :: xs) n := by
  have hlt : n - k < x - k ↔ n < x := by omega
  have hsub : n - k - (x - k) = n - x := by omega
  simp only [inRuns, hlt, hsub]

theorem inRuns_of_le (a : Bool) (xs : List Nat) {x n : Nat} (h : x ≤ n) :
    inRuns a (x :: xs) n = inRuns (!a) xs (n - x) := by
  rw [inRuns, if_neg (Nat.not_lt.mpr h)]

theorem inRuns_of_lt (a : Bool) (xs : List Nat) {x n : Nat} (h : n < x) :
    inRuns a (x :: xs) n = a := by
  rw [inRuns, if_pos h]

theorem inRuns_of_runsWithin {fuel : Nat} {a b : Bool} {xs ys : List Nat}
    (h : runsWithin fuel a xs b ys = true) {n : Nat} (hn : inRuns a xs n = true) :
    inRuns b ys n = true := by
  induction fuel generalizing a b xs ys n with
  | zero => cases h
  | succ fuel ih =>
    cases xs with
    | nil => cases hn
    | cons x xs =>
      cases ys with
      | nil =>
        simp only [runsWithin, Bool.and_eq_true, Bool.or_eq_true, Bool.not_eq_true', beq_iff_eq] at h
        rcases Nat.lt_or_ge n x with hlt | hge
        · rw [inRuns_of_lt a xs hlt] at hn
          exact absurd (h.1.resolve_left (by simp [hn])) (by omega)
        · exact absurd (ih h.2 (inRuns_of_le a xs hge ▸ hn)) (by simp)
      | cons y ys =>
        simp only [runsWithin, Bool.and_eq_true, Bool.or_eq_true, Bool.not_eq_true', beq_iff_eq] at h
        obtain ⟨hfirst, hrest⟩ := h
        -- below both first runs the two classes are constant, behind the shorter one the rest
        -- decides
        rcases Nat.lt_or_ge n (min x y) with hlt | hge
        · rw [inRuns_of_lt a xs (by omega)] at hn
          rw [inRuns_of_lt b ys (by omega)]
          exact (hfirst.resolve_right (by omega)).resolve_left (by simp [hn])
        · split at hrest
          · next hxy =>
            rw [inRuns_of_le a xs (by omega)] at hn
            exact (inRuns_sub b ys hxy.le (k := x) (by omega)).symm.trans (ih hrest hn)
          · split at hrest
            · next hxy =>
              subst hxy
              rw [inRuns_of_le a xs (by omega)] at hn
              rw [inRuns_of_le b ys (by omega)]
              exact ih hrest hn
            · rw [inRuns_of_le b ys (by omega)]
              exact ih hrest ((inRuns_sub a xs (by omega) (by omega)).trans hn)

/-- An identifier may go on with what it may start with. -/
theorem isIdentifierPart_of_start {c : Char} (h : isIdentifierStart c = true) :
    isIdentifierPart c = true := by
  have hruns : runsWithin 2500 false identifierStartRuns false identifierPartRuns = true := by
    decide +kernel
  unfold isIdentifierStart at h
  unfold isIdentifierPart
  split at h
  · next hascii =>
    rw [if_pos hascii]
    rw [Bool.or_eq_true] at h ⊢
    exact h.imp_left fun h => by simp [Char.isAlphanum, h]
  · next hascii =>
    rw [if_neg hascii]
    exact inRuns_of_runsWithin hruns h

theorem isIdentifierPart_of_mem {cs : List Char} (h : isIdentifier cs = true) {c : Char}
    (hc : c ∈ cs) : isIdentifierPart c = true := by
  cases cs with
  | nil => cases h
  | cons d rest =>
    simp only [isIdentifier, Bool.and_eq_true, List.all_eq_true] at h
    rcases List.mem_cons.mp hc with rfl | hc
    · exact isIdentifierPart_of_start h.1
    · exact h.2 c hc

/-- What may go on with an identifier may be put behind one. -/
theorem isIdentifier_append {cs rest : List Char} (h : isIdentifier cs = true)
    (hrest : ∀ c ∈ rest, isIdentifierPart c = true) : isIdentifier (cs ++ rest) = true := by
  cases cs with
  | nil => cases h
  | cons c cs =>
    simp only [isIdentifier, Bool.and_eq_true, List.all_eq_true] at h
    simp only [List.cons_append, isIdentifier, Bool.and_eq_true, List.all_eq_true, List.mem_append]
    exact ⟨h.1, fun d hd => hd.elim (h.2 d) (hrest d)⟩

/-- An identifier is told by its first character if it may go on with all of them. -/
theorem isIdentifier_iff_head? {cs : List Char} (h : ∀ c ∈ cs, isIdentifierPart c = true) :
    isIdentifier cs = true ↔ ∃ c, cs.head? = some c ∧ isIdentifierStart c = true := by
  cases cs with
  | nil => simp
  | cons c cs =>
    simp only [List.head?_cons, Option.some.injEq, exists_eq_left', isIdentifier, Bool.and_eq_true,
      List.all_eq_true]
    exact and_iff_left fun d hd => h d (List.mem_cons_of_mem c hd)

/-! ### Letters and digits -/

theorem isIdentifierPart_toUpper {c : Char} (h : isWordChar c = true) :
    isIdentifierPart c.toUpper = true :=
  forall_ascii (P := fun c => isWordChar c = true → isIdentifierPart c.toUpper = true)
    (by decide) (lt_of_isWordChar h) h

/-- An identifier may start with a capital, but not with a digit. -/
theorem isIdentifierStart_toUpper {c : Char} (h : isWordChar c = true) :
    isIdentifierStart c.toUpper = !c.isDigit :=
  forall_ascii (P := fun c => isWordChar c = true → isIdentifierStart c.toUpper = !c.isDigit)
    (by decide) (lt_of_isWordChar h) h

theorem isIdentifierPart_toLower {c : Char} (h : isWordChar c = true) :
    isIdentifierPart c.toLower = true :=
  forall_ascii (P := fun c => isWordChar c = true → isIdentifierPart c.toLower = true)
    (by decide) (lt_of_isWordChar h) h

/-! ### Words joined by underscores -/

theorem isIdentifierPart_of_mem_joinedWords {f : Char → Char}
    (hf : ∀ c, isWordChar c = true → isIdentifierPart (f c) = true) {name : String} {c : Char}
    (hc : c ∈ (joinedWords f name).toList) : isIdentifierPart c = true := by
  rw [toList_joinedWords] at hc
  rcases mem_intercalate hc with hc | ⟨p, hp, hc⟩
  · obtain rfl := List.mem_singleton.1 hc
    rfl
  · obtain ⟨w, hw, rfl⟩ := List.mem_map.1 hp
    obtain ⟨d, hd, rfl⟩ := List.mem_map.1 hc
    exact hf d (isWordChar_of_mem_words hw d hd)

theorem isIdentifierPart_of_mem_shoutyCase {name : String} {c : Char}
    (hc : c ∈ (shoutyCase name).toList) : isIdentifierPart c = true :=
  isIdentifierPart_of_mem_joinedWords (fun _ => isIdentifierPart_toUpper) hc

/-- In capitals, the words start with the first letter or digit. -/
theorem head?_shoutyCase (name : String) :
    (shoutyCase name).toList.head? = (name.toList.find? isWordChar).map Char.toUpper := by
  rw [shoutyCase_eq_joinedWords, toList_joinedWords]
  rcases words_cases name.toList with ⟨hwords, hfind⟩ | ⟨c, w, ws, hwords, hfind⟩
  · rw [hwords, hfind]
    rfl
  · rw [hwords, hfind]
    cases ws <;> simp [List.intercalate_cons_cons]

theorem isIdentifierPart_of_mem_snakeCase {name : String} {c : Char}
    (hc : c ∈ (snakeCase name).toList) : isIdentifierPart c = true :=
  isIdentifierPart_of_mem_joinedWords (fun _ => isIdentifierPart_toLower) hc

end Text

end ServiceStubs
