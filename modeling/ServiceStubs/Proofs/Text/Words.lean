import Mathlib
import ServiceStubs.Proofs.Text.Pieces
import ServiceStubs.Text.Words

/-!
# Names in words

Every letter and digit of a name belongs to one word, and a word lies inside a run of letters and
digits. Inside a word only the case of letters changes and digits come last, so a word in small
letters or in capitals is one word again. Since an underscore separates words, a name that is made
of the words of another one, in one case, has the same words in that case.

## Main definitions

* `Text.Joined`: a word at the front of a text
* `Text.OneCase`: ways to write letters and digits that leave one case of letters
* `Text.joinedWords`: the words of a name, joined by underscores

## Main statements

* `Text.words_induction`: a text is its words with separators between them
* `Text.words_append_cons`: what lies on the two sides of a separator
* `Text.words_joinedWords`: the words of a name that is made of words
* `Text.splitWords_stable`: the words of a name and of the names made of them
-/

namespace ServiceStubs

namespace Text

variable {cs rest w : List Char}

/-! ### The word in front -/

/-- A word in front of the rest of a text: its characters belong together, and its last one does not
belong to the rest. -/
inductive Joined (rest : List Char) : List Char → Prop
  | last {c : Char} (hc : isWordChar c = true) (hends : joinsWith c rest = false) : Joined rest [c]
  | cons {c : Char} {w : List Char} (hc : isWordChar c = true)
    (hjoins : joinsWith c (w ++ rest) = true) (h : Joined rest w) : Joined rest (c :: w)

theorem Joined.ne_nil (h : Joined rest w) : w ≠ [] := by
  cases h <;> simp

theorem Joined.isWordChar (h : Joined rest w) : ∀ c ∈ w, Text.isWordChar c = true := by
  induction h with
  | last hc hends => simpa using hc
  | cons hc hjoins h ih => exact List.forall_mem_cons.2 ⟨hc, ih⟩

theorem words_cons_of_not {c : Char} (hc : isWordChar c = false) (rest : List Char) :
    words (c :: rest) = words rest := by
  rw [words, hc, if_neg Bool.false_ne_true]

theorem words_append_of_not {gap : List Char} (h : ∀ c ∈ gap, isWordChar c = false)
    (rest : List Char) : words (gap ++ rest) = words rest := by
  induction gap with
  | nil => rfl
  | cons c gap ih =>
    rw [List.forall_mem_cons] at h
    rw [List.cons_append, words_cons_of_not h.1, ih h.2]

/-- The word in front of a text is its first word. -/
theorem words_of_joined (h : Joined rest w) : words (w ++ rest) = w :: words rest := by
  induction h with
  | last hc hends =>
    rw [List.singleton_append, words, if_pos hc]
    split
    · next hwords => rw [hwords]
    · next hwords => rw [hends, hwords, if_neg Bool.false_ne_true]
  | cons hc hjoins h ih =>
    rw [List.cons_append, words, if_pos hc, ih]
    simp only [hjoins, if_true]

/-- A character that joins what follows it joins a letter or a digit. -/
theorem exists_of_joinsWith {c : Char} (h : joinsWith c rest = true) :
    ∃ d after, rest = d :: after ∧ isWordChar d = true ∧ breaksBetween c d after = false := by
  cases rest with
  | nil => cases h
  | cons d after =>
    simp only [joinsWith, Bool.and_eq_true, Bool.not_eq_true'] at h
    exact ⟨d, after, rfl, h⟩

/-- A text without words, or its first word behind some separators. -/
theorem exists_joined (cs : List Char) : (∀ c ∈ cs, isWordChar c = false) ∨
    ∃ gap w rest, cs = gap ++ (w ++ rest) ∧ (∀ c ∈ gap, isWordChar c = false) ∧ Joined rest w := by
  induction cs with
  | nil => exact .inl (by simp)
  | cons c cs ih =>
    cases hc : isWordChar c with
    | false =>
      rcases ih with hcs | ⟨gap, w, rest, rfl, hgap, hw⟩
      · exact .inl (List.forall_mem_cons.2 ⟨hc, hcs⟩)
      · exact .inr ⟨c :: gap, w, rest, rfl, List.forall_mem_cons.2 ⟨hc, hgap⟩, hw⟩
    | true =>
      right
      cases hjoins : joinsWith c cs with
      | false => exact ⟨[], [c], cs, rfl, by simp, .last hc hjoins⟩
      | true =>
        -- the word that the character joins starts right behind it
        obtain ⟨d, after, rfl, hd, -⟩ := exists_of_joinsWith hjoins
        rcases ih with hcs | ⟨gap, w, rest, hcs, hgap, hw⟩
        · simp [hcs d List.mem_cons_self] at hd
        · cases gap with
          | nil =>
            rw [List.nil_append] at hcs
            exact ⟨[], c :: w, rest, by simp [hcs], by simp, .cons hc (hcs ▸ hjoins) hw⟩
          | cons e gap =>
            obtain ⟨rfl, -⟩ := List.cons.inj hcs
            simp [hgap d List.mem_cons_self] at hd

/-- **A text is its words with separators between them.** What holds of separators without a word,
and of a text behind some separators and a word if it holds of the text, holds of every text and its
words. -/
theorem words_induction {motive : List Char → List (List Char) → Prop}
    (gap : ∀ gap, (∀ c ∈ gap, isWordChar c = false) → motive gap [])
    (word : ∀ gap w rest, (∀ c ∈ gap, isWordChar c = false) → Joined rest w →
      motive rest (words rest) → motive (gap ++ (w ++ rest)) (w :: words rest))
    (cs : List Char) : motive cs (words cs) := by
  induction hlength : cs.length using Nat.strong_induction_on generalizing cs with
  | _ n ih =>
    rcases exists_joined cs with hcs | ⟨separators, w, rest, rfl, hseparators, hw⟩
    · have hnone : words cs = [] := by simpa [words] using words_append_of_not hcs []
      rw [hnone]
      exact gap cs hcs
    · rw [words_append_of_not hseparators, words_of_joined hw]
      refine word separators w rest hseparators hw (ih rest.length ?_ rest rfl)
      have hpos := List.length_pos_iff.2 hw.ne_nil
      simp only [List.length_append] at hlength
      omega

/-! ### Words of a text -/

theorem joined_of_mem_words : w ∈ words cs → ∃ rest, Joined rest w := by
  induction cs using words_induction with
  | gap => simp
  | word gap v rest hgap hv ih =>
    intro hw
    rcases List.mem_cons.1 hw with rfl | hw
    · exact ⟨rest, hv⟩
    · exact ih hw

theorem isWordChar_of_mem_words (hw : w ∈ words cs) : ∀ c ∈ w, isWordChar c = true :=
  (joined_of_mem_words hw).elim fun _ h => h.isWordChar

theorem ne_nil_of_mem_words (hw : w ∈ words cs) : w ≠ [] :=
  (joined_of_mem_words hw).elim fun _ h => h.ne_nil

/-- The first word starts with the first letter or digit. -/
theorem words_cases (cs : List Char) :
    (words cs = [] ∧ cs.find? isWordChar = none) ∨
      ∃ c w ws, words cs = (c :: w) :: ws ∧ cs.find? isWordChar = some c := by
  induction cs using words_induction with
  | gap gap hgap => exact .inl ⟨rfl, List.find?_eq_none.2 fun c hc => by simp [hgap c hc]⟩
  | word gap w rest hgap hw ih =>
    right
    have hnone : gap.find? isWordChar = none := List.find?_eq_none.2 fun c hc => by simp [hgap c hc]
    rw [List.find?_append, hnone, Option.none_or, List.find?_append]
    cases hw with
    | last hc hends => exact ⟨_, [], _, rfl, by simp [hc]⟩
    | cons hc hjoins hw => exact ⟨_, _, _, rfl, by simp [hc]⟩

/-- The words hold the letters and digits of the text in their order. -/
theorem flatten_words (cs : List Char) : (words cs).flatten = cs.filter isWordChar := by
  induction cs using words_induction with
  | gap gap hgap =>
    rw [List.filter_eq_nil_iff.2 fun c hc => by simp [hgap c hc], List.flatten_nil]
  | word gap w rest hgap hw ih =>
    have hgap : gap.filter isWordChar = [] := List.filter_eq_nil_iff.2 fun c hc => by simp [hgap c hc]
    rw [List.flatten_cons, ih, List.filter_append, List.filter_append, hgap, List.nil_append,
      List.filter_eq_self.2 hw.isWordChar]

/-- What follows a separator does not matter to the characters in front of it. -/
theorem joinsWith_append_cons {c : Char} (hc : isWordChar c = false) (d : Char)
    (before after : List Char) : joinsWith d (before ++ c :: after) = joinsWith d before := by
  match before with
  | [] => simp [joinsWith, hc]
  | [e] =>
    have hlower : c.isLower = false := by
      simp only [isWordChar, Bool.or_eq_false_iff] at hc
      exact hc.1.1
    simp [joinsWith, breaksBetween, hlower]
  | e :: f :: before => rfl

theorem Joined.append_cons {c : Char} (hc : Text.isWordChar c = false) (h : Joined rest w)
    (after : List Char) : Joined (rest ++ c :: after) w := by
  induction h with
  | last hd hends => exact .last hd (by rw [joinsWith_append_cons hc, hends])
  | cons hd hjoins h ih =>
    exact .cons hd (by rw [← List.append_assoc, joinsWith_append_cons hc, hjoins]) ih

/-- **No word goes across a separator.** -/
theorem words_append_cons {c : Char} (hc : isWordChar c = false) (before after : List Char) :
    words (before ++ c :: after) = words before ++ words after := by
  induction before using words_induction with
  | gap gap hgap => rw [words_append_of_not hgap, words_cons_of_not hc, List.nil_append]
  | word gap w rest hgap hw ih =>
    rw [List.append_assoc, List.append_assoc, words_append_of_not hgap,
      words_of_joined (hw.append_cons hc after), ih, List.cons_append]

theorem words_intercalate {c : Char} (hc : isWordChar c = false) (parts : List (List Char)) :
    words (List.intercalate [c] parts) = parts.flatMap words := by
  induction parts with
  | nil => rfl
  | cons part parts ih =>
    cases parts with
    | nil => simp
    | cons second parts =>
      rw [List.intercalate_cons_cons, List.append_assoc, List.singleton_append, words_append_cons hc,
        ih]
      rfl

/-! ### Letters and digits -/

/-- What holds of each of the first 128 characters. -/
theorem forall_ascii {P : Char → Prop} (h : ∀ n < 128, P (Char.ofNat n)) {c : Char}
    (hc : c.toNat < 128) : P c := by
  rw [← Char.ofNat_toNat c]
  exact h c.toNat hc

theorem lt_of_isWordChar {c : Char} (h : isWordChar c = true) : c.toNat < 128 := by
  have hle {d : Char} (hd : c.val ≤ d.val) (hlt : d.val.toNat < 128) : c.toNat < 128 :=
    Nat.lt_of_le_of_lt (UInt32.le_iff_toNat_le.mp hd) hlt
  simp only [isWordChar, Bool.or_eq_true, Char.isLower, Char.isUpper, Char.isDigit,
    Bool.and_eq_true, decide_eq_true_eq] at h
  rcases h with (⟨-, h⟩ | ⟨-, h⟩) | ⟨-, h⟩
  · exact hle h (by decide)
  · exact hle h (by decide)
  · exact hle h (by decide)

theorem toUpper_toLower {c : Char} (h : isWordChar c = true) : c.toLower.toUpper = c.toUpper :=
  forall_ascii (P := fun c => isWordChar c = true → c.toLower.toUpper = c.toUpper)
    (by decide) (lt_of_isWordChar h) h

theorem toLower_toUpper {c : Char} (h : isWordChar c = true) : c.toUpper.toLower = c.toLower :=
  forall_ascii (P := fun c => isWordChar c = true → c.toUpper.toLower = c.toLower)
    (by decide) (lt_of_isWordChar h) h

/-! ### Words in one case -/

/-- Behind a digit of a word there are only digits. -/
theorem Joined.digitsLast (h : Joined rest w) :
    w.IsChain fun c d => c.isDigit = true → d.isDigit = true := by
  induction h with
  | last hc hends => exact .singleton _
  | @cons c w hc hjoins h ih =>
    rw [List.isChain_cons]
    refine ⟨fun d hd hdigit => ?_, ih⟩
    obtain ⟨e, after, hrest, -, hbreaks⟩ := exists_of_joinsWith hjoins
    obtain ⟨tail, rfl⟩ : ∃ tail, w = d :: tail := ⟨w.tail, List.eq_cons_of_mem_head? hd⟩
    obtain ⟨rfl, -⟩ := List.cons.inj hrest
    simp only [breaksBetween, hdigit, Bool.true_and, Bool.or_eq_false_iff, Bool.not_eq_false'] at hbreaks
    exact hbreaks.1.1

/-- Letters and digits with the digits at the end are one word, if the letters are all small or all
capitals. -/
theorem joined_of_oneCase (hne : w ≠ []) (hchars : ∀ c ∈ w, isWordChar c = true)
    (hdigits : w.IsChain fun c d => c.isDigit = true → d.isDigit = true)
    (hcase : (∀ c ∈ w, c.isUpper = false) ∨ ∀ c ∈ w, c.isLower = false) : Joined [] w := by
  induction w with
  | nil => exact absurd rfl hne
  | cons c w ih =>
    rw [List.forall_mem_cons] at hchars
    cases w with
    | nil => exact .last hchars.1 rfl
    | cons d w =>
      rw [List.isChain_cons_cons] at hdigits
      refine .cons hchars.1 ?_ (ih (by simp) hchars.2 hdigits.2 (hcase.imp ?_ ?_))
      · have hd := hchars.2 d List.mem_cons_self
        have hdigit : (c.isDigit && !d.isDigit) = false := by
          cases hc : c.isDigit
          · rfl
          · simp [hdigits.1 hc]
        simp only [List.append_nil, joinsWith, breaksBetween, hd, hdigit]
        rcases hcase with hcase | hcase
        · simp [hcase d (by simp)]
        · cases w with
          | nil => simp [hcase c (by simp)]
          | cons e w => simp [hcase c (by simp), hcase e (by simp)]
      · exact fun h => (List.forall_mem_cons.1 h).2
      · exact fun h => (List.forall_mem_cons.1 h).2

/-- A way to write letters and digits that keeps the two apart and leaves one case of letters. -/
structure OneCase (f : Char → Char) : Prop where
  isWordChar : ∀ c, isWordChar c = true → isWordChar (f c) = true
  isDigit : ∀ c, Text.isWordChar c = true → (f c).isDigit = c.isDigit
  uniform : (∀ c, Text.isWordChar c = true → (f c).isUpper = false) ∨
    ∀ c, Text.isWordChar c = true → (f c).isLower = false

theorem oneCase_toLower : OneCase Char.toLower where
  isWordChar c hc := forall_ascii (P := fun c => isWordChar c = true → isWordChar c.toLower = true)
    (by decide) (lt_of_isWordChar hc) hc
  isDigit c hc := forall_ascii (P := fun c => isWordChar c = true → c.toLower.isDigit = c.isDigit)
    (by decide) (lt_of_isWordChar hc) hc
  uniform := .inl fun c hc =>
    forall_ascii (P := fun c => isWordChar c = true → c.toLower.isUpper = false)
      (by decide) (lt_of_isWordChar hc) hc

theorem oneCase_toUpper : OneCase Char.toUpper where
  isWordChar c hc := forall_ascii (P := fun c => isWordChar c = true → isWordChar c.toUpper = true)
    (by decide) (lt_of_isWordChar hc) hc
  isDigit c hc := forall_ascii (P := fun c => isWordChar c = true → c.toUpper.isDigit = c.isDigit)
    (by decide) (lt_of_isWordChar hc) hc
  uniform := .inr fun c hc =>
    forall_ascii (P := fun c => isWordChar c = true → c.toUpper.isLower = false)
      (by decide) (lt_of_isWordChar hc) hc

variable {f g h : Char → Char}

/-- A word in one case is one word again. -/
theorem words_map_of_mem (hf : OneCase f) (hw : w ∈ words cs) : words (w.map f) = [w.map f] := by
  obtain ⟨rest, hjoined⟩ := joined_of_mem_words hw
  have hchars := hjoined.isWordChar
  have hmap : Joined [] (w.map f) := by
    refine joined_of_oneCase (by simpa using hjoined.ne_nil)
      (List.forall_mem_map.2 fun c hc => hf.isWordChar c (hchars c hc)) ?_ (hf.uniform.imp ?_ ?_)
    · rw [List.isChain_map]
      refine hjoined.digitsLast.imp_of_mem_imp fun c d hc hd hdigits => ?_
      rwa [hf.isDigit c (hchars c hc), hf.isDigit d (hchars d hd)]
    · exact fun h => List.forall_mem_map.2 fun c hc => h c (hchars c hc)
    · exact fun h => List.forall_mem_map.2 fun c hc => h c (hchars c hc)
  simpa [words] using words_of_joined hmap

/-! ### Names made of words -/

/-- The words of a name, each character written in a given way, joined by underscores. -/
def joinedWords (f : Char → Char) (name : String) : String :=
  String.intercalate "_" ((words name.toList).map fun w => String.ofList (w.map f))

theorem shoutyCase_eq_joinedWords (name : String) :
    shoutyCase name = joinedWords Char.toUpper name := rfl

theorem toList_joinedWords (f : Char → Char) (name : String) :
    (joinedWords f name).toList = ['_'].intercalate ((words name.toList).map (·.map f)) := by
  rw [joinedWords, String.toList_intercalate, List.map_map]
  simp only [Function.comp_def, String.toList_ofList]
  rfl

/-- **The words of a name that is made of words** are those words. -/
theorem words_joinedWords (hf : OneCase f) (name : String) :
    words (joinedWords f name).toList = (words name.toList).map (·.map f) := by
  rw [toList_joinedWords, words_intercalate (by decide), List.flatMap_map, List.flatMap_def,
    List.map_congr_left fun w hw => words_map_of_mem hf hw, ← List.flatMap_def, List.map_eq_flatMap]

theorem map_map_words (hfg : ∀ c, isWordChar c = true → g (f c) = h c) (cs : List Char) :
    (words cs).map (fun w => (w.map f).map g) = (words cs).map (·.map h) :=
  List.map_congr_left fun w hw => by
    rw [List.map_map]
    exact List.map_congr_left fun c hc => hfg c (isWordChar_of_mem_words hw c hc)

/-- Words joined and joined again. -/
theorem joinedWords_joinedWords (hf : OneCase f) (hfg : ∀ c, isWordChar c = true → g (f c) = h c)
    (name : String) : joinedWords g (joinedWords f name) = joinedWords h name := by
  rw [← String.toList_inj, toList_joinedWords g, words_joinedWords hf, List.map_map,
    toList_joinedWords h]
  exact congrArg _ (map_map_words hfg name.toList)

/-! ### Words as strings -/

/-- Changing the case of letters and digits twice. -/
theorem toLower_toLower {c : Char} (h : isWordChar c = true) : c.toLower.toLower = c.toLower :=
  forall_ascii (P := fun c => isWordChar c = true → c.toLower.toLower = c.toLower)
    (by decide) (lt_of_isWordChar h) h

theorem toUpper_toUpper {c : Char} (h : isWordChar c = true) : c.toUpper.toUpper = c.toUpper :=
  forall_ascii (P := fun c => isWordChar c = true → c.toUpper.toUpper = c.toUpper)
    (by decide) (lt_of_isWordChar h) h

theorem join_splitWords (name : String) :
    String.join (splitWords name) = String.ofList (name.toList.filter isWordChar) := by
  rw [← String.toList_inj, String.toList_join, String.toList_ofList, splitWords, List.flatMap_map,
    ← flatten_words]
  simp only [String.toList_ofList, List.flatMap_id']

theorem splitWords_joinedWords (hf : OneCase f) (name : String) :
    splitWords (joinedWords f name) = (splitWords name).map (String.map f) := by
  rw [splitWords, words_joinedWords hf, splitWords, List.map_map, List.map_map]
  refine List.map_congr_left fun w _ => ?_
  rw [← String.toList_inj]
  simp

/-- **Nothing of a name is lost, and both spellings keep its words.** The words of a name are its
letters and digits in their order, none is empty and none goes across a separator. The spellings of
the name in small letters and in capitals have the same words in that case, so each of them is what
it makes of itself and of the other one. -/
theorem splitWords_stable (name : String) :
    String.join (splitWords name) = String.ofList (name.toList.filter isWordChar) ∧
      "" ∉ splitWords name ∧
      (∀ before separator after, name = before ++ String.singleton separator ++ after →
        isWordChar separator = false → splitWords name = splitWords before ++ splitWords after) ∧
      splitWords (snakeCase name) = (splitWords name).map String.toLower ∧
      splitWords (shoutyCase name) = (splitWords name).map String.toUpper ∧
      snakeCase (snakeCase name) = snakeCase name ∧ shoutyCase (shoutyCase name) = shoutyCase name ∧
      snakeCase (shoutyCase name) = snakeCase name ∧ shoutyCase (snakeCase name) = shoutyCase name := by
  refine ⟨join_splitWords name, ?_, ?_, splitWords_joinedWords oneCase_toLower name,
    splitWords_joinedWords oneCase_toUpper name,
    joinedWords_joinedWords oneCase_toLower (fun _ => toLower_toLower) name,
    joinedWords_joinedWords oneCase_toUpper (fun _ => toUpper_toUpper) name,
    joinedWords_joinedWords oneCase_toUpper (fun _ => toLower_toUpper) name,
    joinedWords_joinedWords oneCase_toLower (fun _ => toUpper_toLower) name⟩
  · intro hempty
    obtain ⟨w, hw, hw'⟩ := List.mem_map.1 hempty
    exact ne_nil_of_mem_words hw (by simpa [← String.toList_inj] using hw')
  · rintro before separator after rfl hseparator
    rw [splitWords, String.toList_append, String.toList_append, String.toList_singleton,
      List.append_assoc, List.singleton_append, words_append_cons hseparator, List.map_append]
    rfl

/-- The underscore separates, and so does a letter outside ASCII. -/
theorem splitWords_stable_accented :
    "getHTTP_Statusé2" = "getHTTP_Status" ++ String.singleton 'é' ++ "2" ∧ isWordChar 'é' = false ∧
      splitWords "getHTTP_Statusé2" = splitWords "getHTTP_Status" ++ splitWords "2" ∧
      splitWords (snakeCase "getHTTP_Statusé2") = ["get", "http", "status", "2"] := by
  obtain ⟨-, -, happart, hsnake, -⟩ := splitWords_stable "getHTTP_Statusé2"
  have hname : "getHTTP_Statusé2" = "getHTTP_Status" ++ String.singleton 'é' ++ "2" := by decide +kernel
  refine ⟨hname, by decide, happart _ _ _ hname (by decide), hsnake.trans ?_⟩
  decide +kernel

end Text

end ServiceStubs
