import ServiceStubs.Grammar.Expr
import ServiceStubs.Proofs.Grammar.Giving

/-!
# The parameters that a function can declare

A list of parameters is read item by item and arranged afterwards. Every parameter is named by a
name. What stands in front of a slash binds by position only, so such parameters come first. Once a
parameter has a default, positions bind no parameter behind it that has none.

## Main definitions

* `Grammar.Declarable`: lists of parameters of which all that holds

## Main statements

* `Grammar.declarable_of_arrange`: a list of items that can be arranged
* `Grammar.gives_parameters`: the parameters of a function
-/

namespace ServiceStubs

namespace Grammar

open ServiceStubs.Tree Reader

/-- Which of the parameters that positions bind have a default. -/
def defaultsOf (params : List Param) : List Bool :=
  (params.filter fun p => p.kind == .positional || p.kind == .plain).map (·.defaultValue.isSome)

/-- What a function can declare as its parameters. -/
structure Declarable (params : List Param) : Prop where
  names : ∀ p ∈ params, Token.IsName p.name
  /-- Those that bind by position only come first. -/
  leading : ∃ marked others, params = marked ++ others ∧ (∀ p ∈ marked, p.kind = .positional) ∧
    ∀ p ∈ others, p.kind ≠ .positional
  /-- Behind a default, positions bind only parameters with a default. -/
  defaults : (defaultsOf params).Pairwise (· ≤ ·)

variable {items rest : List ParamItem} {params : List Param} {mayMark defaults : Bool}

theorem defaultsOf_append (params others : List Param) :
    defaultsOf (params ++ others) = defaultsOf params ++ defaultsOf others := by
  simp [defaultsOf]

/-- The item is named by a name if it is a parameter. -/
def HasName : ParamItem → Prop
  | .param p => Token.IsName p.name
  | _ => True

theorem kind_withKind (kind : ParamKind) (p : Param) : (withKind kind p).kind = kind := by
  cases p
  rfl

theorem name_withKind (kind : ParamKind) (p : Param) : (withKind kind p).name = p.name := by
  cases p
  rfl

theorem defaultValue_withKind (kind : ParamKind) (p : Param) :
    (withKind kind p).defaultValue = p.defaultValue := by
  cases p
  rfl

/-! ### Items -/

/-- Behind the star positions bind nothing. -/
theorem of_keywordParams (h : keywordParams items = some params) (hitems : ∀ i ∈ items, HasName i) :
    ∀ p ∈ params, Token.IsName p.name ∧ (p.kind = .keyword ∨ p.kind = .keywordRest) := by
  induction items generalizing params with
  | nil =>
    obtain rfl : [] = params := Option.some.inj h
    simp
  | cons item rest ih =>
    rw [List.forall_mem_cons] at hitems
    cases item with
    | slash => cases h
    | star => cases h
    | param p =>
      cases hkind : p.kind <;> simp only [keywordParams, hkind] at h
      case plain =>
        obtain ⟨others, hothers, rfl⟩ := Option.map_eq_some_iff.1 h
        rw [List.forall_mem_cons]
        refine ⟨⟨?_, .inl (kind_withKind _ p)⟩, ih hothers hitems.2⟩
        rw [name_withKind]
        exact hitems.1
      case keywordRest =>
        split at h
        · obtain rfl := Option.some.inj h
          simpa using ⟨hitems.1, .inr hkind⟩
        · cases h
      all_goals cases h

theorem defaultsOf_eq_nil (h : ∀ p ∈ params, p.kind = .keyword ∨ p.kind = .keywordRest) :
    defaultsOf params = [] := by
  rw [defaultsOf, List.map_eq_nil_iff, List.filter_eq_nil_iff]
  intro p hp
  rcases h p hp with hkind | hkind <;> simp [hkind]

/-- A bare star needs a parameter behind it. -/
theorem keywordParams_of_star (h : positionalParams mayMark defaults (.star :: rest) = some params) :
    keywordParams rest = some params := by
  cases rest with
  | nil => cases h
  | cons item rest =>
    cases item with
    | slash => cases h
    | star => cases h
    | param p =>
      rw [positionalParams] at h
      split at h
      · exact h
      · cases h

/-- What the items declare before those in front of a slash are marked. -/
theorem of_positionalParams (h : positionalParams mayMark defaults items = some params)
    (hitems : ∀ i ∈ items, HasName i) :
    (∀ p ∈ params, Token.IsName p.name ∧ p.kind ≠ .positional) ∧
      (defaults :: defaultsOf params).Pairwise (· ≤ ·) := by
  -- what stands behind a star
  have hstar {items : List ParamItem} {params : List Param} (defaults : Bool)
      (h : keywordParams items = some params) (hitems : ∀ i ∈ items, HasName i) :
      (∀ p ∈ params, Token.IsName p.name ∧ p.kind ≠ .positional) ∧
        (defaults :: defaultsOf params).Pairwise (· ≤ ·) := by
    have hparams := of_keywordParams h hitems
    refine ⟨fun p hp => ⟨(hparams p hp).1, ?_⟩, ?_⟩
    · rcases (hparams p hp).2 with hkind | hkind <;> simp [hkind]
    · rw [defaultsOf_eq_nil fun p hp => (hparams p hp).2]
      exact List.pairwise_singleton _ _
  induction items generalizing params mayMark defaults with
  | nil =>
    obtain rfl : [] = params := by simpa [positionalParams] using h
    simp [defaultsOf]
  | cons item rest ih =>
    rw [List.forall_mem_cons] at hitems
    cases item with
    | slash =>
      rw [positionalParams] at h
      split at h
      · exact ih h hitems.2
      · cases h
    | star => exact hstar defaults (keywordParams_of_star h) hitems.2
    | param p =>
      cases hkind : p.kind <;> simp only [positionalParams, hkind] at h
      case plain =>
        split at h
        · cases h
        · next hdefault =>
          obtain ⟨others, hothers, rfl⟩ := Option.map_eq_some_iff.1 h
          obtain ⟨hparams, hsorted⟩ := ih hothers hitems.2
          have hle : defaults ≤ p.defaultValue.isSome := Bool.le_iff_imp.2 fun hdefaults => by
            simpa [hdefaults, Option.isSome_iff_ne_none] using hdefault
          have hflag : (defaults || p.defaultValue.isSome) = p.defaultValue.isSome :=
            sup_eq_right.2 hle
          have hhead : defaultsOf (p :: others) = p.defaultValue.isSome :: defaultsOf others := by
            simp [defaultsOf, hkind]
          rw [hflag] at hsorted
          rw [hhead, List.forall_mem_cons]
          refine ⟨⟨⟨hitems.1, by simp [hkind]⟩, hparams⟩, ?_⟩
          rw [List.pairwise_cons, List.forall_mem_cons]
          exact ⟨⟨hle, fun b hb => hle.trans (List.rel_of_pairwise_cons hsorted hb)⟩, hsorted⟩
      case rest =>
        obtain ⟨others, hothers, rfl⟩ := Option.map_eq_some_iff.1 h
        obtain ⟨hparams, hsorted⟩ := hstar defaults hothers hitems.2
        have hhead : defaultsOf (p :: others) = defaultsOf others := by simp [defaultsOf, hkind]
        rw [hhead, List.forall_mem_cons]
        exact ⟨⟨⟨hitems.1, by simp [hkind]⟩, hparams⟩, hsorted⟩
      case keywordRest =>
        split at h
        · obtain rfl := Option.some.inj h
          simpa [defaultsOf, hkind] using (show Token.IsName p.name from hitems.1)
        · cases h
      all_goals cases h

/-- In front of a slash stand plain parameters. -/
theorem exists_marked {before : List ParamItem} (hbefore : ∀ i ∈ before, i ≠ .slash)
    (h : positionalParams mayMark defaults (before ++ .slash :: rest) = some params) :
    ∃ marked others, params = marked ++ others ∧ marked.length = before.length ∧
      ∀ p ∈ marked, p.kind = .plain := by
  have hnone {before : List ParamItem} : keywordParams (before ++ .slash :: rest) = none := by
    induction before with
    | nil => rfl
    | cons item before ih =>
      cases item with
      | slash => rfl
      | star => rfl
      | param p =>
        rw [List.cons_append, keywordParams, ih]
        cases p.kind <;> simp
  induction before generalizing params defaults with
  | nil => exact ⟨[], params, rfl, rfl, by simp⟩
  | cons item before ih =>
    rw [List.forall_mem_cons] at hbefore
    cases item with
    | slash => exact absurd rfl hbefore.1
    | star =>
      have hkeywords : keywordParams (before ++ .slash :: rest) = some params := keywordParams_of_star h
      rw [hnone] at hkeywords
      cases hkeywords
    | param p =>
      cases hkind : p.kind <;> simp only [List.cons_append, positionalParams, hkind, hnone] at h
      case plain =>
        split at h
        · cases h
        · obtain ⟨others, hothers, rfl⟩ := Option.map_eq_some_iff.1 h
          obtain ⟨marked, more, rfl, hlength, hplain⟩ := ih hbefore.2 hothers
          refine ⟨p :: marked, more, rfl, by simp [hlength], ?_⟩
          rw [List.forall_mem_cons]
          exact ⟨hkind, hplain⟩
      case keywordRest => simp at h
      all_goals cases h

/-! ### Arranging -/

/-- The item is a slash. -/
def ParamItem.isSlash : ParamItem → Bool
  | slash => true
  | _ => false

theorem isSlash_of_ne {item : ParamItem} (h : item ≠ .slash) : item.isSlash = false := by
  cases item with
  | slash => exact absurd rfl h
  | _ => rfl

theorem arrange_eq (items : List ParamItem) :
    arrange items = (positionalParams true false items).bind fun checked =>
      let before := items.takeWhile (!·.isSlash)
      if before.length == items.length then some checked
      else if before.isEmpty then none
      else some ((checked.take before.length).map (withKind .positional) ++
        checked.drop before.length) := rfl

theorem arrange_of_notMem (h : .slash ∉ items) : arrange items = positionalParams true false items := by
  have htake : items.takeWhile (!·.isSlash) = items := by
    rw [List.takeWhile_eq_self_iff]
    intro i hi
    rw [isSlash_of_ne fun hslash => h (hslash ▸ hi)]
    rfl
  rw [arrange_eq, htake]
  simp

/-- What stands in front of a slash is marked, and that is not nothing. -/
theorem arrange_slash {before : List ParamItem} (hbefore : .slash ∉ before) :
    arrange (before ++ .slash :: rest) =
      (positionalParams true false (before ++ .slash :: rest)).bind fun checked =>
        if before.isEmpty then none
        else some ((checked.take before.length).map (withKind .positional) ++
          checked.drop before.length) := by
  have htake : (before ++ .slash :: rest).takeWhile (!·.isSlash) = before := by
    rw [List.takeWhile_append_of_pos]
    · simp [ParamItem.isSlash]
    · intro i hi
      rw [isSlash_of_ne fun hslash => hbefore (hslash ▸ hi)]
      rfl
  rw [arrange_eq, htake]
  simp

theorem defaultsOf_marked (h : ∀ p ∈ params, p.kind = .plain) :
    defaultsOf (params.map (withKind .positional)) = defaultsOf params := by
  have hplain : params.filter (fun p => p.kind == .positional || p.kind == .plain) = params := by
    rw [List.filter_eq_self]
    intro p hp
    simp [h p hp]
  simp [defaultsOf, hplain, List.filter_map, Function.comp_def, kind_withKind, defaultValue_withKind]

/-- **The parameters that a list of items declares.** -/
theorem declarable_of_arrange (h : arrange items = some params) (hitems : ∀ i ∈ items, HasName i) :
    Declarable params := by
  by_cases hslash : .slash ∈ items
  · obtain ⟨before, rest, rfl, hbefore⟩ := List.eq_append_cons_of_mem hslash
    rw [arrange_slash hbefore] at h
    obtain ⟨checked, hchecked, h⟩ := Option.bind_eq_some_iff.1 h
    obtain ⟨hnames, hsorted⟩ := of_positionalParams hchecked hitems
    obtain ⟨marked, others, rfl, hlength, hplain⟩ :=
      exists_marked (fun i hi hi' => hbefore (hi' ▸ hi)) hchecked
    rw [← hlength, List.take_left, List.drop_left] at h
    split at h
    · cases h
    · obtain rfl := Option.some.inj h
      refine ⟨fun p hp => ?_, ⟨marked.map (withKind .positional), others, rfl, fun p hp => ?_,
        fun p hp => (hnames p (List.mem_append_right _ hp)).2⟩, ?_⟩
      · rcases List.mem_append.1 hp with hp | hp
        · obtain ⟨q, hq, rfl⟩ := List.mem_map.1 hp
          rw [name_withKind]
          exact (hnames q (List.mem_append_left _ hq)).1
        · exact (hnames p (List.mem_append_right _ hp)).1
      · obtain ⟨q, -, rfl⟩ := List.mem_map.1 hp
        exact kind_withKind _ q
      · rw [defaultsOf_append, defaultsOf_marked hplain, ← defaultsOf_append]
        exact hsorted.of_cons
  · rw [arrange_of_notMem hslash] at h
    obtain ⟨hnames, hsorted⟩ := of_positionalParams h hitems
    exact ⟨fun p hp => (hnames p hp).1, ⟨[], params, rfl, by simp, fun p hp => (hnames p hp).2⟩,
      hsorted.of_cons⟩

/-! ### Readers -/

theorem gives_paramItem (k : Nested) (annotated : Bool) : Gives HasName (paramItem k annotated) := by
  refine .after fun slash => .ite (.pure trivial) <| .after fun stars => .ite ?_ <|
    .after fun star => .ite ?_ ?_
  · exact .after fun _ => gives_name.bind fun id hid => .after fun _ => .pure hid
  · refine .after fun kind => ?_
    split
    · next id => exact .after fun _ => .after fun _ => .after fun _ => .pure id.isName
    · exact .pure trivial
  · exact .after fun _ => gives_name.bind fun id hid => .after fun _ => .after fun _ => .pure hid

/-- **The parameters of a function can be declared.** -/
theorem gives_parameters (k : Nested) (annotated : Bool) (closer : String) :
    Gives Declarable (parameters k annotated closer) := by
  have hitems : Gives (fun r => ∀ i ∈ r.1, HasName i) (commaList k.bound (paramItem k annotated)) := by
    refine (gives_paramItem k annotated).bind fun first hfirst => ?_
    refine Gives.bind (P := fun r => ∀ i ∈ r.1, HasName i) ?_ fun r hr => .pure ?_
    · have hmore : Gives (fun o => ∀ i, o = some i → HasName i) (do
          if ← atSign "," then optional (sign "," *> paramItem k annotated) else pure none) :=
        .after fun _ => .ite (.optional (.seqRight (gives_paramItem k annotated))) (.pure nofun)
      exact (Gives.repeated hmore k.bound).bind fun others hothers => .after fun _ => .pure hothers
    · simpa using ⟨hfirst, hr⟩
  refine .after fun closed => .ite (.pure ⟨by simp, ⟨[], [], rfl, by simp, by simp⟩, .nil⟩) ?_
  refine hitems.bind fun r hr => ?_
  obtain ⟨items, comma⟩ := r
  dsimp only at hr ⊢
  split
  · exact .failure
  · split
    · next params harrange => exact .pure (declarable_of_arrange harrange hr)
    · exact .failure

end Grammar

end ServiceStubs
