import ServiceStubs.Proofs.Text.Words
import ServiceStubs.Schema.Model

/-!
# What a wire name tells

The wire name of a method is its constant: the words of the service, the word `METHOD` and the words
of the method, in capitals and with underscores between them. The word in the middle is not marked,
so the name can be taken apart in one place for each `METHOD` it holds.

In small letters the name tells the same, since letters and digits of ASCII are all that words are
made of. Cut at its underscores it is a list of words around `method`, where a name without words
counts as one empty piece.

## Main definitions

* `Text.plainWords`: the words of a name in small letters
* `Schema.Overlaps`: two pairs of names that differ in where `method` is taken to be the infix

## Main statements

* `Schema.constantName_eq_iff`: when two methods have one wire name
* `Schema.constantName_apart`: methods of one name in services of different words do not
-/

namespace ServiceStubs

namespace Text

/-! ### Capitals and small letters -/

/-- Changing the case of a name made of words. -/
theorem map_joinedWords {f g h : Char → Char} (hsep : g '_' = '_')
    (hfg : ∀ c, isWordChar c = true → g (f c) = h c) (name : String) :
    (joinedWords f name).toList.map g = (joinedWords h name).toList := by
  have hwords : (words name.toList).map (fun w => (w.map f).map g) = (words name.toList).map (·.map h) :=
    map_map_words hfg name.toList
  rw [toList_joinedWords, toList_joinedWords, map_intercalate, List.map_map, List.map_singleton, hsep]
  exact congrArg _ hwords

theorem toLower_shoutyCase (name : String) :
    (shoutyCase name).toList.map Char.toLower = (snakeCase name).toList :=
  map_joinedWords (by decide) (fun _ => toLower_toUpper) name

theorem toUpper_snakeCase (name : String) :
    (snakeCase name).toList.map Char.toUpper = (shoutyCase name).toList :=
  map_joinedWords (by decide) (fun _ => toUpper_toLower) name

/-! ### Words -/

/-- The words of a name in small letters. -/
def plainWords (name : String) : List String :=
  (words name.toList).map fun w => String.ofList (w.map Char.toLower)

theorem snakeCase_eq (name : String) : snakeCase name = String.intercalate "_" (plainWords name) :=
  rfl

/-- A word is not empty and holds no underscore. -/
theorem isWord_of_mem_plainWords {name word : String} (h : word ∈ plainWords name) :
    word ≠ "" ∧ '_' ∉ word.toList := by
  obtain ⟨w, hw, rfl⟩ := List.mem_map.mp h
  have hlower : ∀ c, isWordChar c = true → c.toLower ≠ '_' := fun c hc =>
    forall_ascii (P := fun c => isWordChar c = true → c.toLower ≠ '_') (by decide)
      (lt_of_isWordChar hc) hc
  constructor
  · simpa [← String.toList_inj] using ne_nil_of_mem_words hw
  · rw [String.toList_ofList, List.mem_map]
    rintro ⟨c, hc, heq⟩
    exact hlower c (isWordChar_of_mem_words hw c hc) heq

theorem empty_notMem_plainWords (name : String) : "" ∉ plainWords name :=
  fun h => (isWord_of_mem_plainWords h).1 rfl

/-! ### Pieces -/

/-- What a name in small letters is cut into at its underscores. -/
def pieces (name : String) : List String :=
  if plainWords name = [] then [""] else plainWords name

theorem splitAt_snakeCase (name : String) :
    splitAt '_' (snakeCase name).toList = (pieces name).map String.toList := by
  rw [snakeCase_eq, String.toList_intercalate, pieces]
  split
  · next h =>
    rw [h]
    rfl
  · next h =>
    refine splitAt_intercalate (fun p hp => ?_) (by simpa using h)
    obtain ⟨word, hword, rfl⟩ := List.mem_map.mp hp
    exact (isWord_of_mem_plainWords hword).2

theorem intercalate_pieces (name : String) : String.intercalate "_" (pieces name) = snakeCase name := by
  rw [snakeCase_eq, pieces]
  split
  · next h =>
    rw [h]
    rfl
  · rfl

theorem pieces_inj {a b : String} : pieces a = pieces b ↔ snakeCase a = snakeCase b := by
  constructor
  · intro h
    rw [← intercalate_pieces a, h, intercalate_pieces]
  · intro h
    have hsplit := splitAt_snakeCase a
    rw [h, splitAt_snakeCase] at hsplit
    exact (List.map_injective_iff.mpr (fun _ _ => String.toList_inj.mp) hsplit).symm

/-- Only the pieces of a name with words can be more than one. -/
theorem pieces_eq_append_cons {name word : String} {before behind : List String}
    (hne : before ≠ [] ∨ behind ≠ []) :
    pieces name = before ++ word :: behind ↔ plainWords name = before ++ word :: behind := by
  unfold pieces
  split
  · next h =>
    rw [h]
    rcases hne with hne | hne <;> cases before <;> simp_all
  · rfl

theorem pieces_ne_nil (name : String) : pieces name ≠ [] := by
  unfold pieces
  split
  · simp
  · assumption

/-- The pieces of a name among those of a name with more pieces are words. -/
theorem pieces_eq_of_subset {a b : String} (hsub : ∀ p ∈ pieces a, p ∈ plainWords b) :
    plainWords a ≠ [] ∧ pieces a = plainWords a := by
  unfold pieces at hsub ⊢
  split
  · next h =>
    rw [if_pos h] at hsub
    exact absurd (hsub "" (by simp)) (empty_notMem_plainWords b)
  · next h => exact ⟨h, rfl⟩

theorem pieces_eq_append_iff {a b word : String} {ws : List String} :
    pieces b = pieces a ++ word :: ws ↔
      plainWords a ≠ [] ∧ plainWords b = plainWords a ++ word :: ws := by
  rw [pieces_eq_append_cons (.inl (pieces_ne_nil a))]
  constructor
  · intro h
    obtain ⟨hne, hpieces⟩ := pieces_eq_of_subset (a := a) (b := b) fun p hp => by simp [h, hp]
    exact ⟨hne, hpieces ▸ h⟩
  · rintro ⟨hne, h⟩
    rw [pieces, if_neg hne, h]

theorem pieces_eq_prepend_iff {a b word : String} {ws : List String} :
    pieces b = ws ++ word :: pieces a ↔
      plainWords a ≠ [] ∧ plainWords b = ws ++ word :: plainWords a := by
  rw [pieces_eq_append_cons (.inr (pieces_ne_nil a))]
  constructor
  · intro h
    obtain ⟨hne, hpieces⟩ := pieces_eq_of_subset (a := a) (b := b) fun p hp => by simp [h, hp]
    exact ⟨hne, hpieces ▸ h⟩
  · rintro ⟨hne, h⟩
    rw [pieces, if_neg hne, h]

/-- A list cut at one element in two places. -/
theorem append_cons_eq_append_cons_iff {α : Type} {x : α} {as bs cs ds : List α} :
    as ++ x :: bs = cs ++ x :: ds ↔
      (as = cs ∧ bs = ds) ∨ (∃ ws, cs = as ++ x :: ws ∧ bs = ws ++ x :: ds) ∨
        ∃ ws, as = cs ++ x :: ws ∧ ds = ws ++ x :: bs := by
  constructor
  · intro h
    rcases List.append_eq_append_iff.mp h with ⟨ws, hcs, hbs⟩ | ⟨ws, has, hds⟩
    · cases ws with
      | nil => exact .inl ⟨by simpa using hcs.symm, (List.cons.inj hbs).2⟩
      | cons w ws =>
        obtain ⟨rfl, hrest⟩ := List.cons.inj hbs
        exact .inr (.inl ⟨ws, hcs, hrest⟩)
    · cases ws with
      | nil => exact .inl ⟨by simpa using has, (List.cons.inj hds).2.symm⟩
      | cons w ws =>
        obtain ⟨rfl, hrest⟩ := List.cons.inj hds
        exact .inr (.inr ⟨ws, has, hrest⟩)
  · rintro (⟨rfl, rfl⟩ | ⟨ws, rfl, rfl⟩ | ⟨ws, rfl, rfl⟩) <;> simp

end Text

namespace Schema

open Text

/-- The words of the second service go on behind those of the first one with `method`, and those of
the first method end in `method` and the words of the second one; what is between is the same. -/
def Overlaps (service method service' method' : String) : Prop :=
  plainWords service ≠ [] ∧ plainWords method' ≠ [] ∧ ∃ between,
    plainWords service' = plainWords service ++ "method" :: between ∧
      plainWords method = between ++ "method" :: plainWords method'

theorem overlaps_iff_pieces {service method service' method' : String} :
    Overlaps service method service' method' ↔ ∃ between,
      pieces service' = pieces service ++ "method" :: between ∧
        pieces method = between ++ "method" :: pieces method' := by
  simp only [pieces_eq_append_iff, pieces_eq_prepend_iff]
  constructor
  · rintro ⟨hservice, hmethod, between, hservices, hmethods⟩
    exact ⟨between, ⟨hservice, hservices⟩, hmethod, hmethods⟩
  · rintro ⟨between, ⟨hservice, hservices⟩, hmethod, hmethods⟩
    exact ⟨hservice, hmethod, between, hservices, hmethods⟩

/-- A wire name tells the same in small letters. -/
theorem constantName_eq_iff_snakeCase {service service' : String}
    (hvisibility : Visibility.ofName service = Visibility.ofName service') (m m' : Method) :
    m.constantName service = m'.constantName service' ↔
      snakeCase service ++ "_method_" ++ snakeCase m.name =
        snakeCase service' ++ "_method_" ++ snakeCase m'.name := by
  have hlower (name method : String) :
      (shoutyCase name ++ "_METHOD_" ++ shoutyCase method).toList.map Char.toLower =
        (snakeCase name ++ "_method_" ++ snakeCase method).toList := by
    have hinfix : "_METHOD_".toList.map Char.toLower = "_method_".toList := by decide
    simp only [String.toList_append, List.map_append, toLower_shoutyCase, hinfix]
  have hupper (name method : String) :
      (snakeCase name ++ "_method_" ++ snakeCase method).toList.map Char.toUpper =
        (shoutyCase name ++ "_METHOD_" ++ shoutyCase method).toList := by
    have hinfix : "_method_".toList.map Char.toUpper = "_METHOD_".toList := by decide
    simp only [String.toList_append, List.map_append, toUpper_snakeCase, hinfix]
  have hname (name method : String) : (Visibility.ofName name).lead ++ shoutyCase name ++ "_METHOD_" ++
      shoutyCase method =
        (Visibility.ofName name).lead ++ (shoutyCase name ++ "_METHOD_" ++ shoutyCase method) := by
    simp only [String.append_assoc]
  rw [Method.constantName, Method.constantName, hname, hname, hvisibility, String.append_right_inj,
    ← String.toList_inj, ← String.toList_inj]
  constructor
  · intro h
    rw [← hlower, h, hlower]
  · intro h
    rw [← hupper, h, hupper]

/-- A wire name tells the pieces it is made of. -/
theorem constantName_eq_iff_pieces {service service' : String}
    (hvisibility : Visibility.ofName service = Visibility.ofName service') (m m' : Method) :
    m.constantName service = m'.constantName service' ↔
      pieces service ++ "method" :: pieces m.name = pieces service' ++ "method" :: pieces m'.name := by
  have hcut (name method : String) :
      splitAt '_' (snakeCase name ++ "_method_" ++ snakeCase method).toList =
        (pieces name ++ "method" :: pieces method).map String.toList := by
    have hinfix : "_method_".toList = '_' :: ("method".toList ++ ['_']) := rfl
    have hmiddle : splitAt '_' "method".toList = ["method".toList] := by decide
    rw [String.toList_append, String.toList_append, hinfix, List.append_assoc, List.cons_append,
      List.append_assoc, List.singleton_append, splitAt_append_cons, splitAt_append_cons, hmiddle,
      splitAt_snakeCase, splitAt_snakeCase]
    simp
  rw [constantName_eq_iff_snakeCase hvisibility]
  constructor
  · intro h
    have hpieces := hcut service m.name
    rw [h, hcut] at hpieces
    exact (List.map_injective_iff.mpr (fun _ _ => String.toList_inj.mp) hpieces).symm
  · intro h
    rw [← String.toList_inj, ← intercalate_splitAt '_' (_ : String).toList, hcut, h, ← hcut,
      intercalate_splitAt]

/-- **Two methods have one wire name** if and only if their services and they themselves have the
same words, or the words of one service and of the other method overlap in `method`. -/
theorem constantName_eq_iff {service service' : String}
    (hvisibility : Visibility.ofName service = Visibility.ofName service') (m m' : Method) :
    m.constantName service = m'.constantName service' ↔
      (snakeCase service = snakeCase service' ∧ snakeCase m.name = snakeCase m'.name) ∨
        Overlaps service m.name service' m'.name ∨ Overlaps service' m'.name service m.name := by
  rw [constantName_eq_iff_pieces hvisibility, append_cons_eq_append_cons_iff, pieces_inj, pieces_inj,
    overlaps_iff_pieces, overlaps_iff_pieces]

/-- The method of a name, as far as wire names go. -/
def namedMethod (name : String) : Method := { name := name }

theorem constantName_eq_iff_greeter :
    Visibility.ofName "Greeter" = Visibility.ofName "greeter" ∧
      ((namedMethod "sayHello").constantName "Greeter" =
          (namedMethod "say_hello").constantName "greeter" ↔
        (snakeCase "Greeter" = snakeCase "greeter" ∧ snakeCase "sayHello" = snakeCase "say_hello") ∨
          Overlaps "Greeter" "sayHello" "greeter" "say_hello" ∨
            Overlaps "greeter" "say_hello" "Greeter" "sayHello") :=
  ⟨by decide, constantName_eq_iff (by decide) (namedMethod "sayHello") (namedMethod "say_hello")⟩

/-- Of two services of different words, one answers the calls of the other one. -/
theorem constantName_meet_overlap :
    Visibility.ofName "A" = Visibility.ofName "AMethod" ∧
      (namedMethod "method_b").constantName "A" = (namedMethod "b").constantName "AMethod" ∧
      snakeCase "A" ≠ snakeCase "AMethod" ∧ snakeCase "method_b" ≠ snakeCase "b" := by
  decide +kernel

/-- **Methods of one name** have different wire names in services of different words. -/
theorem constantName_apart {service service' : String}
    (hvisibility : Visibility.ofName service = Visibility.ofName service') {m m' : Method}
    (hname : snakeCase m.name = snakeCase m'.name) (hwords : snakeCase service ≠ snakeCase service') :
    m.constantName service ≠ m'.constantName service' := by
  rw [Ne, constantName_eq_iff_pieces hvisibility, pieces_inj.mpr hname]
  intro h
  exact hwords (pieces_inj.mp (List.append_cancel_right h))

end Schema

end ServiceStubs
