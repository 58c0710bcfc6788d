import Mathlib
import ServiceStubs.Proofs.Text.Words

/-!
# Words by pattern

The words of a name are also what a pattern finds in its runs of letters and digits, one match
behind the other. The pattern has three alternatives, the first of which that fits is taken:

* capitals, not in front of a small letter, with the digits behind them;
* perhaps a capital, then small letters, with the digits behind them;
* digits.

Every piece takes as many characters as it can, and gives the last one back when what follows does
not fit. This happens at the end of a run of capitals in front of a small letter: the last capital
starts the next word. So the three alternatives leave no letter and no digit out.

## Main definitions

* `Text.Piece`, `Text.firstLength?`: patterns and what they match
* `Text.findAll`: the matches in a text
* `Text.wordPattern`: the pattern of words

## Main statements

* `Text.exists_matches`: the pattern matches the word in front
* `Text.words_eq_findAll`: the words of a text are the matches of the pattern
-/

namespace ServiceStubs

namespace Text

/-! ### Patterns -/

/-- A piece of a pattern. -/
inductive Piece
  /-- Characters of a class, so many at least and at most. -/
  | repeated (isIn : Char → Bool) (least : Nat) (most : Option Nat)
  /-- Nothing, but not in front of a character of the class. -/
  | notBefore (isIn : Char → Bool)

/-- How many characters of a text a piece can take, the most first. -/
def Piece.lengths (cs : List Char) : Piece → List Nat
  | repeated isIn least most =>
    let run := (cs.takeWhile isIn).length
    (List.range' least ((most.map (min run)).getD run + 1 - least)).reverse
  | notBefore isIn => if cs.head?.any isIn then [] else [0]

/-- How many characters the pieces take of a text, one piece behind the other. A piece takes fewer
characters when what it leaves does not fit the pieces behind it. -/
def matchLength? : List Piece → List Char → Option Nat
  | [], _ => some 0
  | piece :: pieces, cs =>
    (piece.lengths cs).findSome? fun n => (matchLength? pieces (cs.drop n)).map (n + ·)

/-- How many characters the first alternative that fits takes of a text. -/
def firstLength? (alternatives : List (List Piece)) (cs : List Char) : Option Nat :=
  alternatives.findSome? (matchLength? · cs)

/-- The matches in a text, each behind the one before it. Where nothing matches, one character is
left out. -/
def findAll (alternatives : List (List Piece)) : List Char → List (List Char)
  | [] => []
  | c :: cs =>
    match firstLength? alternatives (c :: cs) with
    | some (n + 1) => (c :: cs.take n) :: findAll alternatives (cs.drop n)
    | _ => findAll alternatives cs
  termination_by cs => cs.length

/-- The pattern of words. -/
def wordPattern : List (List Piece) :=
  [[.repeated Char.isUpper 1 none, .notBefore Char.isLower, .repeated Char.isDigit 0 none],
    [.repeated Char.isUpper 0 (some 1), .repeated Char.isLower 1 none, .repeated Char.isDigit 0 none],
    [.repeated Char.isDigit 1 none]]

/-! ### What a pattern matches -/

variable {p : Char → Bool} {pieces : List Piece} {run rest cs w : List Char} {least n : Nat}

/-- The next character, if there is one, is outside of a class. -/
def NotNext (p : Char → Bool) (cs : List Char) : Prop := ∀ c ∈ cs.head?, p c = false

theorem notNext_cons {c : Char} (h : p c = false) (cs : List Char) : NotNext p (c :: cs) := by
  rintro d ⟨⟩
  exact h

theorem NotNext.any_head? (h : NotNext p cs) : cs.head?.any p = false := by
  cases cs with
  | nil => rfl
  | cons c cs => exact h c rfl

theorem takeWhile_append_eq (hrun : ∀ c ∈ run, p c = true) (hrest : NotNext p rest) :
    (run ++ rest).takeWhile p = run := by
  rw [List.takeWhile_append_of_pos hrun]
  cases rest with
  | nil => simp
  | cons c rest => simp [hrest c rfl]

/-- A run of characters of a class and the rest of the text. -/
theorem exists_run (p : Char → Bool) (cs : List Char) :
    ∃ run rest, cs = run ++ rest ∧ (∀ c ∈ run, p c = true) ∧ NotNext p rest := by
  refine ⟨cs.takeWhile p, cs.dropWhile p, List.takeWhile_append_dropWhile.symm,
    fun c hc => List.mem_takeWhile_imp hc, fun c hc => ?_⟩
  have hhead := List.head?_dropWhile_not p cs
  rw [hc] at hhead
  simpa using hhead

theorem exists_run_cons {c : Char} (hc : p c = true) (cs : List Char) : ∃ run rest,
    c :: cs = run ++ rest ∧ run ≠ [] ∧ (∀ d ∈ run, p d = true) ∧ NotNext p rest := by
  obtain ⟨run, rest, rfl, hrun, hrest⟩ := exists_run p cs
  exact ⟨c :: run, rest, rfl, by simp, List.forall_mem_cons.2 ⟨hc, hrun⟩, hrest⟩

theorem lengths_repeated (hrun : ∀ c ∈ run, p c = true) (hrest : NotNext p rest)
    (hleast : least ≤ run.length) : (Piece.repeated p least none).lengths (run ++ rest) =
      run.length :: (List.range' least (run.length - least)).reverse := by
  have hcount : run.length + 1 - least = (run.length - least) + 1 := by omega
  rw [Piece.lengths, takeWhile_append_eq hrun hrest, Option.map_none, Option.getD_none, hcount,
    List.range'_concat, List.reverse_append]
  simp
  omega

/-- A piece takes all it can when what it leaves fits. -/
theorem matchLength?_run (hrun : ∀ c ∈ run, p c = true) (hrest : NotNext p rest)
    (hleast : least ≤ run.length) (h : matchLength? pieces rest = some n) :
    matchLength? (.repeated p least none :: pieces) (run ++ rest) = some (run.length + n) := by
  rw [matchLength?, lengths_repeated hrun hrest hleast, List.findSome?_cons, List.drop_left, h]
  rfl

theorem matchLength?_last (hrun : ∀ c ∈ run, p c = true) (hrest : NotNext p rest)
    (hleast : least ≤ run.length) :
    matchLength? [.repeated p least none] (run ++ rest) = some run.length :=
  matchLength?_run (n := 0) hrun hrest hleast rfl

/-- A piece gives one character back. -/
theorem matchLength?_giveBack {c : Char} (hrun : ∀ c ∈ run, p c = true) (hc : p c = true)
    (hrest : NotNext p rest) (hleast : least ≤ run.length) (hfails : matchLength? pieces rest = none)
    (h : matchLength? pieces (c :: rest) = some n) :
    matchLength? (.repeated p least none :: pieces) (run ++ c :: rest) = some (run.length + n) := by
  have hall : ∀ d ∈ run ++ [c], p d = true := by
    simpa [or_imp, forall_and] using ⟨hrun, hc⟩
  have hcount : (run ++ [c]).length - least = (run.length - least) + 1 := by
    simp only [List.length_append, List.length_singleton]
    omega
  have hlength : least ≤ (run ++ [c]).length := by
    simp only [List.length_append]
    omega
  have hlengths := lengths_repeated hall hrest hlength
  rw [List.append_assoc, List.singleton_append, hcount, List.range'_concat,
    List.reverse_append] at hlengths
  have hdrop : (run ++ c :: rest).drop (run ++ [c]).length = rest :=
    List.append_cons run c rest ▸ List.drop_left
  have hleast' : least + 1 * (run.length - least) = run.length := by omega
  rw [matchLength?, hlengths, List.findSome?_cons, hdrop, hfails, hleast', List.reverse_singleton,
    List.singleton_append, Option.map_none, List.findSome?_cons, List.drop_left, h]
  rfl

/-- A piece that finds too few characters does not match. -/
theorem matchLength?_eq_none (hrun : ∀ c ∈ run, p c = true) (hrest : NotNext p rest)
    (hleast : run.length < least) :
    matchLength? (.repeated p least none :: pieces) (run ++ rest) = none := by
  have hcount : run.length + 1 - least = 0 := by omega
  rw [matchLength?, Piece.lengths, takeWhile_append_eq hrun hrest, Option.map_none,
    Option.getD_none, hcount]
  rfl

theorem matchLength?_notBefore (h : NotNext p cs) :
    matchLength? (.notBefore p :: pieces) cs = matchLength? pieces cs := by
  rw [matchLength?, Piece.lengths, h.any_head?, if_neg Bool.false_ne_true, List.findSome?_singleton,
    List.drop_zero]
  simp

theorem matchLength?_notBefore_eq_none {c : Char} (h : p c = true) (cs : List Char) :
    matchLength? (.notBefore p :: pieces) (c :: cs) = none := by
  simp [matchLength?, Piece.lengths, h]

/-! ### Runs of a word -/

theorem isLower_eq_false_of_isUpper {c : Char} (h : c.isUpper = true) : c.isLower = false :=
  forall_ascii (P := fun c => c.isUpper = true → c.isLower = false) (by decide)
    (lt_of_isWordChar (by simp [isWordChar, h])) h

theorem isDigit_eq_false_of_isUpper {c : Char} (h : c.isUpper = true) : c.isDigit = false :=
  forall_ascii (P := fun c => c.isUpper = true → c.isDigit = false) (by decide)
    (lt_of_isWordChar (by simp [isWordChar, h])) h

theorem isDigit_eq_false_of_isLower {c : Char} (h : c.isLower = true) : c.isDigit = false :=
  forall_ascii (P := fun c => c.isLower = true → c.isDigit = false) (by decide)
    (lt_of_isWordChar (by simp [isWordChar, h])) h

theorem isUpper_eq_false_of_isLower {c : Char} (h : c.isLower = true) : c.isUpper = false := by
  by_contra hupper
  rw [Bool.not_eq_false] at hupper
  simp [isLower_eq_false_of_isUpper hupper] at h

theorem not_of_isDigit {c : Char} (h : c.isDigit = true) : c.isUpper = false ∧ c.isLower = false := by
  constructor <;> by_contra hletter <;> rw [Bool.not_eq_false] at hletter
  · simp [isDigit_eq_false_of_isUpper hletter] at h
  · simp [isDigit_eq_false_of_isLower hletter] at h

/-- Digits and no digit behind them. -/
theorem joined_digits (hrun : ∀ c ∈ run, c.isDigit = true) (hne : run ≠ [])
    (hrest : NotNext Char.isDigit rest) : Joined rest run := by
  induction run with
  | nil => exact absurd rfl hne
  | cons c run ih =>
    rw [List.forall_mem_cons] at hrun
    have hc : isWordChar c = true := by simp [isWordChar, hrun.1]
    cases run with
    | nil =>
      refine .last hc ?_
      cases rest with
      | nil => rfl
      | cons d rest => simp [joinsWith, breaksBetween, hrun.1, hrest d rfl]
    | cons d run =>
      have hd := hrun.2 d List.mem_cons_self
      refine .cons hc ?_ (ih hrun.2 (by simp))
      simp [joinsWith, breaksBetween, isWordChar, hd, not_of_isDigit hd]

/-- Small letters in front of digits, and no small letter or digit behind them. -/
theorem joined_lowers {digits : List Char} (hrun : ∀ c ∈ run, c.isLower = true) (hne : run ≠ [])
    (hlower : NotNext Char.isLower (digits ++ rest)) (hdigits : ∀ c ∈ digits, c.isDigit = true)
    (hrest : NotNext Char.isDigit rest) : Joined rest (run ++ digits) := by
  induction run with
  | nil => exact absurd rfl hne
  | cons c run ih =>
    rw [List.forall_mem_cons] at hrun
    have hc : isWordChar c = true := by simp [isWordChar, hrun.1]
    cases run with
    | nil =>
      cases digits with
      | nil =>
        refine .last hc ?_
        cases rest with
        | nil => rfl
        | cons d rest =>
          have hd : d.isLower = false := hlower d rfl
          cases hupper : d.isUpper <;>
            simp [joinsWith, breaksBetween, isWordChar, hrun.1, hd, hupper, hrest d rfl]
      | cons d digits =>
        have hd := hdigits d List.mem_cons_self
        refine .cons hc ?_ (joined_digits hdigits (by simp) hrest)
        simp [joinsWith, breaksBetween, isWordChar, hd, not_of_isDigit hd,
          isDigit_eq_false_of_isLower hrun.1]
    | cons d run =>
      have hd := hrun.2 d List.mem_cons_self
      refine .cons hc ?_ (ih hrun.2 (by simp))
      simp [joinsWith, breaksBetween, isWordChar, hd, isUpper_eq_false_of_isLower hd,
        isDigit_eq_false_of_isLower hrun.1]

/-- Capitals in front of a word that starts with a capital and no small letter. -/
theorem Joined.prepend_uppers {c : Char} (hrun : ∀ d ∈ run, d.isUpper = true) (hc : c.isUpper = true)
    (hlower : NotNext Char.isLower (w ++ rest)) (h : Joined rest (c :: w)) :
    Joined rest (run ++ c :: w) := by
  induction run with
  | nil => exact h
  | cons d run ih =>
    rw [List.forall_mem_cons] at hrun
    refine .cons (by simp [Text.isWordChar, hrun.1]) ?_ (ih hrun.2)
    -- the next character is a capital, and no small letter comes behind it
    have hbreaks {e : Char} {after : List Char} (he : e.isUpper = true)
        (hafter : NotNext Char.isLower after) : joinsWith d (e :: after) = true := by
      have hnone : (after.head?.map Char.isLower).getD false = false := by
        cases after with
        | nil => rfl
        | cons x after => exact hafter x rfl
      simp [joinsWith, breaksBetween, Text.isWordChar, he, hnone, isDigit_eq_false_of_isUpper hrun.1,
        isLower_eq_false_of_isUpper hrun.1]
    cases run with
    | nil => exact hbreaks hc hlower
    | cons e run =>
      rw [List.forall_mem_cons] at hrun
      refine hbreaks hrun.2.1 ?_
      cases run with
      | nil => exact notNext_cons (isLower_eq_false_of_isUpper hc) _
      | cons x run =>
        exact notNext_cons (isLower_eq_false_of_isUpper (hrun.2.2 x List.mem_cons_self)) _

/-- A capital in front of digits, and no letter or digit behind them. -/
theorem joined_upper {c : Char} {digits : List Char} (hc : c.isUpper = true)
    (hletter : NotNext (fun d => d.isUpper || d.isLower) (digits ++ rest))
    (hdigits : ∀ d ∈ digits, d.isDigit = true) (hrest : NotNext Char.isDigit rest) :
    Joined rest (c :: digits) := by
  have hchar : isWordChar c = true := by simp [isWordChar, hc]
  cases digits with
  | nil =>
    refine .last hchar ?_
    cases rest with
    | nil => rfl
    | cons d rest =>
      have hd : (d.isUpper || d.isLower) = false := hletter d rfl
      rw [Bool.or_eq_false_iff] at hd
      simp [joinsWith, isWordChar, hd, hrest d rfl]
  | cons d digits =>
    have hd := hdigits d List.mem_cons_self
    refine .cons hchar ?_ (joined_digits hdigits (by simp) hrest)
    simp [joinsWith, breaksBetween, isWordChar, hd, not_of_isDigit hd, isDigit_eq_false_of_isUpper hc]

/-! ### The words of a text -/

theorem notNext_of_mem {q : Char → Bool} (hrun : ∀ c ∈ run, p c = true) (hne : run ≠ [])
    (h : ∀ c, p c = true → q c = false) (rest : List Char) : NotNext q (run ++ rest) := by
  cases run with
  | nil => exact absurd rfl hne
  | cons c run => exact notNext_cons (h c (hrun c List.mem_cons_self)) _

/-- A piece that finds nothing in front of what it asks for. -/
theorem matchLength?_eq_none_of_notNext (h : NotNext p cs) :
    matchLength? (.repeated p 1 none :: pieces) cs = none :=
  matchLength?_eq_none (List.forall_mem_nil _) h Nat.one_pos

/-- A piece that has no fewer characters to take. -/
theorem matchLength?_single_eq_none {c : Char} (hc : p c = true) (hrest : NotNext p rest)
    (hfails : matchLength? pieces rest = none) :
    matchLength? (.repeated p 1 none :: pieces) (c :: rest) = none := by
  have hlengths : (Piece.repeated p 1 none).lengths ([c] ++ rest) = _ :=
    lengths_repeated (by simpa using hc) hrest le_rfl
  rw [List.singleton_append] at hlengths
  rw [matchLength?, hlengths, List.findSome?_cons, List.length_singleton, List.drop_one, List.tail_cons,
    hfails]
  rfl

/-- A piece that need not find its character. -/
theorem matchLength?_perhaps_not (h : NotNext p cs) :
    matchLength? (.repeated p 0 (some 1) :: pieces) cs = matchLength? pieces cs := by
  have hrun : cs.takeWhile p = [] := takeWhile_append_eq (List.forall_mem_nil _) h
  have hlengths : (Piece.repeated p 0 (some 1)).lengths cs = [0] := by
    simp [Piece.lengths, hrun]
  rw [matchLength?, hlengths, List.findSome?_singleton, List.drop_zero]
  simp

theorem matchLength?_perhaps {c : Char} (hc : p c = true) {cs : List Char}
    (h : matchLength? pieces cs = some n) :
    matchLength? (.repeated p 0 (some 1) :: pieces) (c :: cs) = some (1 + n) := by
  have hlengths : (Piece.repeated p 0 (some 1)).lengths (c :: cs) = [1, 0] := by
    simp [Piece.lengths, hc]
    rfl
  rw [matchLength?, hlengths, List.findSome?_cons, List.drop_one, List.tail_cons, h]
  rfl

theorem firstLength?_of_some {alternative : List Piece} {others : List (List Piece)}
    (h : matchLength? alternative cs = some n) : firstLength? (alternative :: others) cs = some n := by
  rw [firstLength?, List.findSome?_cons, h]

theorem firstLength?_of_none {alternative : List Piece} {others : List (List Piece)}
    (h : matchLength? alternative cs = none) :
    firstLength? (alternative :: others) cs = firstLength? others cs := by
  rw [firstLength?, List.findSome?_cons, h, firstLength?]

/-- Digits are matched up to the last one. -/
theorem firstLength?_digits (hrun : ∀ c ∈ run, c.isDigit = true) (hne : run ≠ [])
    (hrest : NotNext Char.isDigit rest) :
    firstLength? wordPattern (run ++ rest) = some run.length := by
  have hlower : NotNext Char.isLower (run ++ rest) :=
    notNext_of_mem hrun hne (fun _ hc => (not_of_isDigit hc).2) rest
  have hupper : NotNext Char.isUpper (run ++ rest) :=
    notNext_of_mem hrun hne (fun _ hc => (not_of_isDigit hc).1) rest
  have hletters : matchLength? [.repeated Char.isUpper 0 (some 1), .repeated Char.isLower 1 none,
      .repeated Char.isDigit 0 none] (run ++ rest) = none := by
    rw [matchLength?_perhaps_not hupper, matchLength?_eq_none_of_notNext hlower]
  rw [wordPattern, firstLength?_of_none (matchLength?_eq_none_of_notNext hupper),
    firstLength?_of_none hletters]
  exact firstLength?_of_some (matchLength?_last hrun hrest (List.length_pos_iff.2 hne))

/-- Small letters are matched up to the last digit behind them. -/
theorem firstLength?_lowers {digits : List Char} (hrun : ∀ c ∈ run, c.isLower = true) (hne : run ≠ [])
    (hlower : NotNext Char.isLower (digits ++ rest)) (hdigits : ∀ c ∈ digits, c.isDigit = true)
    (hrest : NotNext Char.isDigit rest) :
    firstLength? wordPattern (run ++ (digits ++ rest)) = some (run ++ digits).length := by
  have hupper : NotNext Char.isUpper (run ++ (digits ++ rest)) :=
    notNext_of_mem hrun hne (fun _ => isUpper_eq_false_of_isLower) _
  rw [wordPattern, firstLength?_of_none (matchLength?_eq_none_of_notNext hupper), List.length_append]
  refine firstLength?_of_some ?_
  rw [matchLength?_perhaps_not hupper]
  exact matchLength?_run hrun hlower (List.length_pos_iff.2 hne)
    (matchLength?_last hdigits hrest (Nat.zero_le _))

/-- Small letters and the capital in front of them are matched up to the last digit behind them. -/
theorem firstLength?_capitalized {c : Char} {digits : List Char} (hc : c.isUpper = true)
    (hrun : ∀ c ∈ run, c.isLower = true) (hne : run ≠ [])
    (hlower : NotNext Char.isLower (digits ++ rest)) (hdigits : ∀ c ∈ digits, c.isDigit = true)
    (hrest : NotNext Char.isDigit rest) :
    firstLength? wordPattern (c :: (run ++ (digits ++ rest))) = some (c :: (run ++ digits)).length := by
  have hupper : NotNext Char.isUpper (run ++ (digits ++ rest)) :=
    notNext_of_mem hrun hne (fun _ => isUpper_eq_false_of_isLower) _
  have hfails : matchLength? [.notBefore Char.isLower, .repeated Char.isDigit 0 none]
      (run ++ (digits ++ rest)) = none := by
    cases run with
    | nil => exact absurd rfl hne
    | cons d run => exact matchLength?_notBefore_eq_none (hrun d List.mem_cons_self) _
  have hsmall := matchLength?_run hrun hlower (List.length_pos_iff.2 hne)
    (matchLength?_last hdigits hrest (Nat.zero_le _))
  rw [wordPattern, firstLength?_of_none (matchLength?_single_eq_none hc hupper hfails),
    List.length_cons, List.length_append, Nat.add_comm]
  exact firstLength?_of_some (matchLength?_perhaps hc hsmall)

/-- Capitals are matched up to the last digit behind them, if no small letter follows. -/
theorem firstLength?_uppers {digits : List Char} (hrun : ∀ c ∈ run, c.isUpper = true) (hne : run ≠ [])
    (hupper : NotNext Char.isUpper (digits ++ rest)) (hlower : NotNext Char.isLower (digits ++ rest))
    (hdigits : ∀ c ∈ digits, c.isDigit = true) (hrest : NotNext Char.isDigit rest) :
    firstLength? wordPattern (run ++ (digits ++ rest)) = some (run ++ digits).length := by
  rw [wordPattern, List.length_append]
  refine firstLength?_of_some (matchLength?_run hrun hupper (List.length_pos_iff.2 hne) ?_)
  rw [matchLength?_notBefore hlower]
  exact matchLength?_last hdigits hrest (Nat.zero_le _)

/-- Capitals are matched but for the last one, if a small letter follows. -/
theorem firstLength?_acronym {c d : Char} (hrun : ∀ c ∈ run, c.isUpper = true) (hne : run ≠ [])
    (hc : c.isUpper = true) (hd : d.isLower = true) (cs : List Char) :
    firstLength? wordPattern (run ++ c :: d :: cs) = some run.length := by
  refine firstLength?_of_some (matchLength?_giveBack (n := 0) hrun hc
    (notNext_cons (isUpper_eq_false_of_isLower hd) cs) (List.length_pos_iff.2 hne)
    (matchLength?_notBefore_eq_none hd cs) ?_)
  rw [matchLength?_notBefore (notNext_cons (isLower_eq_false_of_isUpper hc) _)]
  exact matchLength?_last (List.forall_mem_nil _)
    (notNext_cons (isDigit_eq_false_of_isUpper hc) _) le_rfl

/-- The pattern matches a word in front of the rest of a text. -/
def Matches (rest w : List Char) : Prop :=
  Joined rest w ∧ firstLength? wordPattern (w ++ rest) = some w.length

theorem matches_lowers {digits : List Char} (hrun : ∀ c ∈ run, c.isLower = true) (hne : run ≠ [])
    (hlower : NotNext Char.isLower (digits ++ rest)) (hdigits : ∀ c ∈ digits, c.isDigit = true)
    (hrest : NotNext Char.isDigit rest) : Matches rest (run ++ digits) := by
  refine ⟨joined_lowers hrun hne hlower hdigits hrest, ?_⟩
  rw [List.append_assoc]
  exact firstLength?_lowers hrun hne hlower hdigits hrest

/-- Capitals in front of no small letter. -/
theorem matches_uppers {c : Char} {digits : List Char} (hrun : ∀ c ∈ run, c.isUpper = true)
    (hc : c.isUpper = true) (hupper : NotNext Char.isUpper (digits ++ rest))
    (hlower : NotNext Char.isLower (digits ++ rest)) (hdigits : ∀ c ∈ digits, c.isDigit = true)
    (hrest : NotNext Char.isDigit rest) : Matches rest (run ++ c :: digits) := by
  have hletter : NotNext (fun d => d.isUpper || d.isLower) (digits ++ rest) := fun d hd =>
    Bool.or_eq_false_iff.2 ⟨hupper d hd, hlower d hd⟩
  refine ⟨(joined_upper hc hletter hdigits hrest).prepend_uppers hrun hc hlower, ?_⟩
  have hall : ∀ d ∈ run ++ [c], d.isUpper = true := List.forall_mem_append.2 ⟨hrun, by simpa using hc⟩
  have hfirst := firstLength?_uppers hall (by simp) hupper hlower hdigits hrest
  rw [← List.append_assoc] at hfirst
  rwa [List.append_cons]

/-- Capitals in front of a word that starts with a capital and a small letter. -/
theorem matches_acronym {c d : Char} (hrun : ∀ c ∈ run, c.isUpper = true) (hne : run ≠ [])
    (hc : c.isUpper = true) (hd : d.isLower = true) (cs : List Char) : Matches (c :: d :: cs) run := by
  refine ⟨?_, firstLength?_acronym hrun hne hc hd cs⟩
  obtain ⟨front, last, rfl⟩ : ∃ front last, run = front ++ [last] :=
    ⟨_, _, (List.dropLast_append_getLast hne).symm⟩
  simp only [List.forall_mem_append, List.forall_mem_singleton] at hrun
  have hlast : Joined (c :: d :: cs) [last] :=
    .last (by simp [isWordChar, hrun.2]) (by simp [joinsWith, breaksBetween, hrun.2, hc, hd])
  exact hlast.prepend_uppers hrun.1 hrun.2 (notNext_cons (isLower_eq_false_of_isUpper hc) _)

/-- A capital in front of small letters. -/
theorem matches_capitalized {c : Char} {digits : List Char} (hc : c.isUpper = true)
    (hrun : ∀ c ∈ run, c.isLower = true) (hne : run ≠ [])
    (hlower : NotNext Char.isLower (digits ++ rest)) (hdigits : ∀ c ∈ digits, c.isDigit = true)
    (hrest : NotNext Char.isDigit rest) : Matches rest (c :: (run ++ digits)) := by
  refine ⟨.cons (by simp [isWordChar, hc]) ?_ (joined_lowers hrun hne hlower hdigits hrest), ?_⟩
  · cases run with
    | nil => exact absurd rfl hne
    | cons d run =>
      have hd := hrun d List.mem_cons_self
      simp [joinsWith, breaksBetween, isWordChar, hd, isUpper_eq_false_of_isLower hd,
        isDigit_eq_false_of_isUpper hc]
  · rw [List.cons_append, List.append_assoc]
    exact firstLength?_capitalized hc hrun hne hlower hdigits hrest

theorem exists_matches_of_isUpper {c : Char} (hc : c.isUpper = true) (cs : List Char) :
    ∃ w rest, c :: cs = w ++ rest ∧ Matches rest w := by
  obtain ⟨run, behind, hcs, hne, hrun, hupper⟩ := exists_run_cons hc cs
  obtain ⟨front, last, rfl⟩ : ∃ front last, run = front ++ [last] :=
    ⟨_, _, (List.dropLast_append_getLast hne).symm⟩
  simp only [List.forall_mem_append, List.forall_mem_singleton] at hrun
  by_cases hlower : NotNext Char.isLower behind
  · obtain ⟨digits, rest, rfl, hdigits, hrest⟩ := exists_run Char.isDigit behind
    exact ⟨front ++ last :: digits, rest, by simp [hcs],
      matches_uppers hrun.1 hrun.2 hupper hlower hdigits hrest⟩
  · obtain ⟨d, tail, rfl, hd⟩ : ∃ d tail, behind = d :: tail ∧ d.isLower = true := by
      cases behind with
      | nil => exact absurd (by simp [NotNext]) hlower
      | cons d tail =>
        refine ⟨d, tail, rfl, ?_⟩
        by_contra hd
        exact hlower (notNext_cons (by simpa using hd) tail)
    by_cases hfront : front = []
    · -- the capital starts a word of small letters
      subst hfront
      obtain ⟨lowers, behind, hbehind, hne, hlowers, hlower⟩ := exists_run_cons hd tail
      obtain ⟨digits, rest, rfl, hdigits, hrest⟩ := exists_run Char.isDigit behind
      exact ⟨last :: (lowers ++ digits), rest, by simp [hcs, hbehind],
        matches_capitalized hrun.2 hlowers hne hlower hdigits hrest⟩
    · exact ⟨front, last :: d :: tail, by simp [hcs], matches_acronym hrun.1 hfront hrun.2 hd tail⟩

/-- **The pattern matches the word in front.** -/
theorem exists_matches {c : Char} (hc : isWordChar c = true) (cs : List Char) :
    ∃ w rest, c :: cs = w ++ rest ∧ Matches rest w := by
  simp only [isWordChar, Bool.or_eq_true] at hc
  rcases hc with (hc | hc) | hc
  · obtain ⟨run, behind, hcs, hne, hrun, hlower⟩ := exists_run_cons hc cs
    obtain ⟨digits, rest, rfl, hdigits, hrest⟩ := exists_run Char.isDigit behind
    exact ⟨run ++ digits, rest, by simp [hcs], matches_lowers hrun hne hlower hdigits hrest⟩
  · exact exists_matches_of_isUpper hc cs
  · obtain ⟨run, rest, hcs, hne, hrun, hrest⟩ := exists_run_cons hc cs
    exact ⟨run, rest, hcs, joined_digits hrun hne hrest, firstLength?_digits hrun hne hrest⟩

theorem findAll_of_matches (h : Matches rest w) :
    findAll wordPattern (w ++ rest) = w :: findAll wordPattern rest := by
  obtain ⟨hjoined, hfirst⟩ := h
  cases w with
  | nil => exact absurd rfl hjoined.ne_nil
  | cons c w =>
    rw [List.cons_append] at hfirst ⊢
    rw [findAll, hfirst, List.length_cons]
    simp only [List.take_left, List.drop_left]

/-- In a run of letters and digits the words are the matches. -/
theorem words_eq_findAll_of_run (h : ∀ c ∈ cs, isWordChar c = true) :
    words cs = findAll wordPattern cs := by
  induction hlength : cs.length using Nat.strong_induction_on generalizing cs with
  | _ n ih =>
    cases cs with
    | nil => rw [words, findAll]
    | cons c cs =>
      obtain ⟨w, rest, hcs, hmatches⟩ := exists_matches (h c List.mem_cons_self) cs
      rw [hcs] at h hlength ⊢
      have hpos := List.length_pos_iff.2 hmatches.1.ne_nil
      rw [words_of_joined hmatches.1, findAll_of_matches hmatches,
        ih rest.length (by simp only [List.length_append] at hlength; omega)
          (fun d hd => h d (List.mem_append_right w hd)) rfl]

/-- **The words of a text are what the pattern finds** in its runs of letters and digits. -/
theorem words_eq_findAll (cs : List Char) :
    words cs = (cs.splitOnP fun c => !isWordChar c).flatMap (findAll wordPattern) := by
  induction hlength : cs.length using Nat.strong_induction_on generalizing cs with
  | _ n ih =>
    obtain ⟨run, rest, rfl, hrun, hrest⟩ := exists_run isWordChar cs
    have hwhole : run.splitOnP (fun c => !isWordChar c) = [run] :=
      List.splitOnP_eq_singleton fun c hc => by simp [hrun c hc]
    cases rest with
    | nil => rw [List.append_nil, hwhole, List.flatMap_singleton, words_eq_findAll_of_run hrun]
    | cons c rest =>
      have hc : isWordChar c = false := hrest c rfl
      rw [words_append_cons hc, List.splitOnP_append_cons _ _ (by simp [hc]), hwhole,
        List.flatMap_append, List.flatMap_singleton, words_eq_findAll_of_run hrun,
        ih rest.length (by simp at hlength; omega) rest rfl]

end Text

end ServiceStubs
