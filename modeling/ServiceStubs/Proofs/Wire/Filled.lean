import ServiceStubs.Proofs.Wire.Adding
import ServiceStubs.Proofs.Wire.Finished

/-!
# Objects that get their parts later

A list, a dict, a set, a queue, an identifier or an instance of a defined class gets its number
while it is empty, and its parts after that. When it has them it is a copy.

## Main statements

* `Writing.copies_list`, `Writing.copies_dict`, `Writing.copies_set`, `Writing.copies_deque`,
  `Writing.copies_orderedDict`
* `Writing.copies_instance`, `Writing.copies_uuid`
-/

namespace ServiceStubs

namespace Wire

/-- An object without a label stands at the place, behind all others. -/
def Sign.blank (n : Nat) (o : Object) : Sign where
  holds w x := n ≤ x ∧ w.label x = none ∧ w.store.get? x = some o
  mono := by
    rintro w w' x hle ⟨hn, hlabel, hx⟩
    exact ⟨hn, (hle.label x (Store.lt_size_of_get? hx)).trans hlabel, hle.get?_some hx⟩

namespace Writing

variable {g : Registry} {s : Store} {pending : Pending} {sub : Ref → Write} {r : Ref} {o o' : Object}
  {S S₁ : Scene} {x : Ref}

/-! ### The start and the end -/

theorem blank_add {S₁ : Scene} (hle : S.world.Le S₁.world) :
    (Sign.blank S.machine.store.size o').holds (S₁.world.add o' none) S₁.machine.store.size :=
  ⟨hle.size_le, World.label_add_self .., World.get?_add_self ..⟩

/-- An object that is empty yet gets a number. -/
theorem starts (h : Writing g s pending sub r o)
    (hS₁ : S.Stacked s ((o.identity r, none) :: pending) [Sign.blank S.machine.store.size o'] S₁) :
    Emits g (Writer.keep (o.identity r)) S₁ fun S₂ =>
      ∃ x, S.Filling s ((o.identity r, some x) :: pending) x o' S₂ := by
  obtain ⟨x, hpushed, htop, hfresh, hlabel, hx⟩ := hS₁.single
  refine .keepAs (some (o.identity r)) htop ⟨x, ⟨hpushed.le, ?_, hpushed.stack, hpushed.below⟩,
    hfresh, hlabel, hx⟩
  refine hpushed.inStep.keep (some (o.identity r)) x ?_ ?_ ?_ ?_
  · rintro _ ⟨⟩
    exact .inl List.mem_cons_self
  · intro j y hmem
    rcases List.mem_cons.1 hmem with heq | hmem
    · cases heq
    · exact List.mem_cons_of_mem _ hmem
  · intro j hj
    have hj' := (List.mem_cons.1 hj).resolve_left (by simp)
    refine ⟨List.mem_cons_of_mem _ hj', ?_⟩
    rintro ⟨⟩
    exact h.fresh none hj'
  · exact List.forall_mem_cons.2 (List.forall_mem_cons.1 hpushed.inStep.unnamed)

/-- An object that has its parts is a copy, once it bears the label of the original. -/
theorem ends (h : Writing g s pending sub r o)
    (hS₁ : S.Filling s ((o.identity r, some x) :: pending) x o' S₁)
    (hlike : o.Like (S₁.world.Copy s) o') :
    ∃ label, S.Stacked s pending [Sign.copy s r] { S₁ with label := label } := by
  let label := Function.update S₁.label x (some (o.identity r))
  have hkeeps : S₁.world.Keeps ⟨S₁.machine.store, label⟩ := by
    intro y i o₁ hi ho₁
    refine ⟨?_, ho₁⟩
    have hne : y ≠ x := by
      rintro rfl
      rw [show S₁.world.label y = S₁.label y from rfl, hS₁.unlabelled] at hi
      cases hi
    simp only [label, Function.update_of_ne hne]
    exact hi
  have hcopy : World.Copy s ⟨S₁.machine.store, label⟩ r x :=
    World.copy_of_like h.there hS₁.held (Function.update_self ..)
      (hlike.mono fun _ _ hpart => hpart.keeps hkeeps)
  refine ⟨label, Scene.Pushed.stacked (x := x) ⟨⟨hS₁.le.size_le, hS₁.le.get?, fun y hy => ?_⟩, ?_,
    hS₁.stack, hS₁.below⟩ hcopy⟩
  · have hne : y ≠ x := Nat.ne_of_lt (Nat.lt_of_lt_of_le hy hS₁.fresh)
    exact (Function.update_of_ne hne ..).trans (hS₁.le.label y hy)
  · have hstep : Scene.InStep s ((o.identity r, some x) :: pending) { S₁ with label := label } :=
      hS₁.inStep.keeps rfl rfl hkeeps
    exact hstep.finished (h.copy_iff.2 hcopy)

section Container

variable {α : Type} {k : Container α} {items : List α} {fill : Write}

/-- A container is filled, and is a copy then. -/
theorem fills_up (h : Writing g s pending sub r o)
    (hfill : ∀ x, Fills k g s ((o.identity r, some x) :: pending) items fill items)
    (hlike : ∀ (w : World) (bs : List α), k.Copies s w items bs → o.Like (w.Copy s) (k.object bs))
    (hS₁ : S.Filling s ((o.identity r, some x) :: pending) x (k.object []) S₁) :
    Emits g fill S₁ (S.Stacked s pending [Sign.copy s r]) := by
  refine (hfill x S S₁ x [] List.prefix_rfl ⟨[], hS₁, .nil⟩).relabel fun S₂ hS₂ => ?_
  obtain ⟨bs, hfilling, hcopies⟩ := hS₂
  exact h.ends hfilling (hlike _ bs hcopies)

/-- A container that an instruction makes. -/
theorem copies_made {j : Instruction} (h : Writing g s pending sub r o)
    (hname : (o.identity r).isName = false) (hj : j.isEmitted)
    (hstep : Machine.step g j = Machine.pushNew (k.object []))
    (hfill : ∀ x, Fills k g s ((o.identity r, some x) :: pending) items fill items)
    (hlike : ∀ (w : World) (bs : List α), k.Copies s w items bs →
      o.Like (w.Copy s) (k.object bs)) :
    Copies g s pending r o
      (Writer.both (Writer.emit j) (Writer.both (Writer.keep (o.identity r)) fill)) := by
  intro S hS hnew
  have hS' := hS.pend hnew hname
  have hmade : Emits g (Writer.emit j) S (S.Stacked s ((o.identity r, none) :: pending)
      [Sign.blank S.machine.store.size (k.object [])]) := by
    refine .take none hj (.refl _) hS' ?_ (blank_add (.refl _))
    unfold Machine.Performs
    rw [hstep]
    exact Machine.gives_pushNew _
  refine .both (hmade.mono fun S₁ hS₁ => .both ((h.starts hS₁).mono ?_))
  rintro S₂ ⟨x, hS₂⟩
  exact h.fills_up hfill hlike hS₂

/-- A container that a call makes. -/
theorem copies_called {c : SafeClass} {args : Write} {ps : List Sign}
    (h : Writing g s pending sub r o) (hname : (o.identity r).isName = false)
    (hargs : Pushes g s ((o.identity r, none) :: pending) args [Sign.tuple ps])
    (hcreate : ∀ (w : World) (xs : List Ref), Sign.All ps w xs →
      c.create xs [] w.store = some (w.store.add (k.object [])))
    (hfill : ∀ x, Fills k g s ((o.identity r, some x) :: pending) items fill items)
    (hlike : ∀ (w : World) (bs : List α), k.Copies s w items bs →
      o.Like (w.Copy s) (k.object bs)) :
    Copies g s pending r o (Writer.both (Writer.call g c (some (o.identity r)) args) fill) := by
  intro S hS hnew
  refine .both (.call h.safe (p := Sign.blank S.machine.store.size (k.object [])) none
    (hS.pend hnew hname) ?_ hargs (fun w xs hle hps => ?_) fun S₁ hS₁ => ?_)
  · rintro _ ⟨⟩
    exact List.mem_cons_self
  · refine ⟨_, hcreate w xs hps, hle.size_le, World.label_add_self .., World.get?_add_self ..⟩
  · refine (h.starts hS₁).mono ?_
    rintro S₂ ⟨x, hS₂⟩
    exact h.fills_up hfill hlike hS₂

end Container

/-! ### Lists, sets and queues -/

section Items

variable {items : List Ref} {object : List Ref → Object}

theorem pushes_item (h : Writing g s pending sub r o) (ho : o.parts = items) (x : Option Ref) :
    ∀ a ∈ items, Pushes g s ((o.identity r, x) :: pending) (sub a)
      (((Container.ofItems object).refs a).map (Sign.copy s)) :=
  fun a ha => h.parts a (ho ▸ ha) x

theorem copies_list (h : Writing g s pending sub r (.list items)) :
    Copies g s pending r (.list items) (Writer.body g s sub r (.list items)) := by
  refine h.copies_made (k := .ofItems .list) rfl rfl rfl
    (fun x => fills_listItems takes_list.1 takes_list.2 (h.pushes_item rfl (some x))) fun w bs hbs => ?_
  have hcopies := copies_ofItems.1 hbs
  exact ⟨by simp [Container.ofItems, Object.skeleton, List.map_const', hcopies.length_eq], hcopies⟩

theorem copies_set (h : Writing g s pending sub r (.set items)) :
    Copies g s pending r (.set items) (Writer.body g s sub r (.set items)) := by
  have htakes := takesAll_addItems (g := g) h.proper h.shallow_parts
  refine h.copies_made (k := .ofItems .set) rfl rfl rfl
    (fun x => fills_setMembers htakes (h.pushes_item rfl (some x))) fun w bs hbs => ?_
  have hcopies := copies_ofItems.1 hbs
  exact ⟨by simp [Container.ofItems, Object.skeleton, List.map_const', hcopies.length_eq], hcopies⟩

theorem copies_deque {limit : Option Nat} (h : Writing g s pending sub r (.deque items limit)) :
    Copies g s pending r (.deque items limit) (Writer.body g s sub r (.deque items limit)) := by
  have hfill (x : Ref) := fills_streamed (takes_deque (g := g) h.proper).1 (takes_deque h.proper).2
    (h.pushes_item rfl (some x))
  have hlike (w : World) (bs : List Ref)
      (hbs : (Container.ofItems fun xs => Object.deque xs limit).Copies s w items bs) :
      (Object.deque items limit).Like (w.Copy s) (.deque bs limit) := by
    have hcopies := copies_ofItems.1 hbs
    exact ⟨by simp [Object.skeleton, List.map_const', hcopies.length_eq], hcopies⟩
  cases limit with
  | none =>
    refine h.copies_called rfl .noArguments (fun w xs hxs => ?_) hfill hlike
    obtain rfl := Sign.all_nil.1 hxs
    exact Build.deque_apply
  | some n =>
    refine h.copies_called rfl (.newTuple (.cons .emptyTuple (.cons (.int n) .nil)) (by simp)
      (by simp)) (fun w xs hxs => ?_) hfill hlike
    simp only [Sign.all_cons, Sign.all_nil] at hxs
    obtain ⟨a, _, rfl, ha, b, _, rfl, hb, rfl⟩ := hxs
    exact Build.deque_apply_limit ha hb

end Items

/-! ### Dicts -/

section Entries

variable {entries : List (Ref × Ref)} {object : List (Ref × Ref) → Object}

theorem pushes_entry (h : Writing g s pending sub r o)
    (ho : o.parts = entries.map Prod.fst ++ entries.map Prod.snd) (x : Option Ref) :
    ∀ e ∈ entries, Pushes g s ((o.identity r, x) :: pending)
      (Writer.both (sub e.1) (sub e.2))
      (((Container.ofEntries object).refs e).map (Sign.copy s)) := by
  intro e he
  refine (h.parts e.1 ?_ x).both (h.parts e.2 ?_ x)
  · rw [ho]
    exact List.mem_append_left _ (List.mem_map_of_mem he)
  · rw [ho]
    exact List.mem_append_right _ (List.mem_map_of_mem he)

theorem shallow_keys (h : Writing g s pending sub r o)
    (ho : o.parts = entries.map Prod.fst ++ entries.map Prod.snd) :
    ∀ a ∈ entries.map Prod.fst, s.Shallow s.size a :=
  fun a ha => h.shallow_parts a (ho ▸ List.mem_append_left _ ha)

theorem parts_copies {w : World} {bs : List (Ref × Ref)}
    (h : (Container.ofEntries object).Copies s w entries bs) :
    List.Forall₂ (w.Copy s) (entries.map Prod.fst ++ entries.map Prod.snd)
      (bs.map Prod.fst ++ bs.map Prod.snd) :=
  List.rel_append (forall₂_fst h) (forall₂_snd h)

theorem copies_dict (h : Writing g s pending sub r (.dict entries)) :
    Copies g s pending r (.dict entries) (Writer.body g s sub r (.dict entries)) := by
  have htakes := takes_setItems (g := g) (.inl rfl) h.proper (h.shallow_keys rfl)
  refine h.copies_made (k := .ofEntries .dict) rfl rfl rfl
    (fun x => fills_dictEntries htakes.1 htakes.2 (h.pushes_entry rfl (some x))) fun w bs hbs => ?_
  exact ⟨by simp [Container.ofEntries, Object.skeleton, List.map_const', hbs.length_eq],
    parts_copies hbs⟩

theorem copies_orderedDict (h : Writing g s pending sub r (.orderedDict entries)) :
    Copies g s pending r (.orderedDict entries) (Writer.body g s sub r (.orderedDict entries)) := by
  have htakes := takes_setItems (g := g) (.inr rfl) h.proper (h.shallow_keys rfl)
  refine h.copies_called (k := .ofEntries .orderedDict) rfl .noArguments (fun w xs hxs => ?_)
    (fun x => fills_streamed htakes.1 htakes.2 (h.pushes_entry rfl (some x))) fun w bs hbs => ?_
  · obtain rfl := Sign.all_nil.1 hxs
    exact Build.orderedDict_apply
  · exact ⟨by simp [Container.ofEntries, Object.skeleton, List.map_const', hbs.length_eq],
      parts_copies hbs⟩

end Entries

/-! ### Instances and identifiers -/

/-- A blank instance of a class. -/
theorem blank (h : Writing g s pending sub r o) {c : Class} (hc : g.Carries c)
    (hname : (o.identity r).isName = false) (hblank : Machine.blankOf c = some o')
    (hS : S.InStep s pending) (hnew : S.writer.known[o.identity r]? = none) :
    Emits g (Writer.blank g c (o.identity r)) S fun S₁ =>
      ∃ x, S.Filling s ((o.identity r, some x) :: pending) x o' S₁ := by
  have hS' := hS.pend hnew hname
  refine .both ((Pushes.class_ h.safe hc S hS').mono fun S₁ hS₁ => ?_)
  refine .both ((Pushes.emptyTuple S₁ hS₁.inStep).mono fun S₂ hS₂ => ?_)
  obtain ⟨y, hpushed, hy, hclass⟩ := hS₁.single
  obtain ⟨z, hpushed', hz, htuple⟩ := hS₂.single
  have hmade : Emits g (Writer.emit .newObject) S₂
      (S.Stacked s ((o.identity r, none) :: pending) [Sign.blank S.machine.store.size o']) := by
    refine .take none rfl (hS₁.le.trans hS₂.le) hS₂.inStep ?_ (blank_add (hS₁.le.trans hS₂.le))
    rw [hy] at hz
    exact .of_stack hz (hpushed'.below.trans hpushed.below)
      (Machine.performs_newObject h.plain (hS₂.le.get?_some hclass.2) htuple hblank)
  exact .both (hmade.mono fun S₃ hS₃ => h.starts hS₃)

/-- A state is a new dict, which is filled and then taken. -/
theorem state {ws : List Write} {mid post : Scene → Prop} (hS : S.InStep s pending)
    (hfill : ∀ (S₁ : Scene) (y : Ref), S.Filling s pending y (.dict []) S₁ →
      Emits g (Writer.dictEntries ws) S₁ mid)
    (hbuild : ∀ S₂, mid S₂ → Emits g (Writer.emit .build) S₂ post) :
    Emits g (Writer.state ws) S post := by
  have hmade : Emits g (Writer.emit .emptyDict) S
      (S.Stacked s pending [Sign.blank S.machine.store.size (.dict [])]) :=
    .take none rfl (.refl _) hS (Machine.gives_pushNew _) (blank_add (.refl _))
  refine .both (.mono (.begin_ (.both (hmade.mono fun S₁ hS₁ => .both ?_))) hbuild)
  obtain ⟨y, hpushed, htop, hfresh, hlabel, hy⟩ := hS₁.single
  refine .keepAs none htop (hfill _ y ⟨⟨hpushed.le, ?_, hpushed.stack, hpushed.below⟩, hfresh,
    hlabel, hy⟩)
  exact hpushed.inStep.keep none y (by simp) (fun _ _ hmem => hmem) (by simp) hpushed.inStep.unnamed

/-- An unfinished object takes the state above it. -/
theorem takes_state {S₂ : Scene} {y : Ref} {o₁ : Object} {w' : World}
    (hS₁ : S.Filling s pending x o S₁) (hS₂ : S₁.Pushed s pending [y] S₂) (hle : S₂.world.Le w')
    (hstep : Machine.Performs g .build
      ⟨S₂.machine.store, y :: x :: S.machine.stack, S.machine.below, S₂.machine.memo⟩
      ⟨w'.store.set x o₁, x :: S.machine.stack, S.machine.below, S₂.machine.memo⟩) :
    Emits g (Writer.emit .build) S₂ fun S₃ =>
      S.Filling s pending x o₁ S₃ ∧ S₃.world = w'.set x o₁ := by
  let S' : Scene := ⟨S₂.writer, ⟨w'.store, [], [], S₂.machine.memo⟩, w'.label⟩
  have hS' : S'.InStep s pending := hS₂.inStep.keeps rfl rfl hle.keeps
  have hle' : S₁.world.Le S'.world := hS₂.le.trans hle
  have hchange := hS₁.change hle' hS' o₁
  refine .emit w'.label rfl ?_ ⟨hchange, rfl⟩
  have hstack : S₂.machine.stack = y :: x :: S.machine.stack := by
    rw [hS₂.stack, hS₁.stack]
    rfl
  exact .of_stack hstack (hS₂.below.trans hS₁.below) hstep

theorem copies_instance {id : Nat} {attributes : List (Ref × Ref)}
    (h : Writing g s pending sub r (.instance id attributes)) :
    Copies g s pending r (.instance id attributes)
      (Writer.body g s sub r (.instance id attributes)) := by
  intro S hS hnew
  obtain ⟨hclass, hattributes⟩ := h.proper
  have hreserved : (Writer.reservedAttributes.any fun name =>
      (s.attribute? attributes name).isSome) = false := by
    refine List.any_eq_false.2 fun name hname => ?_
    have hspecial : ∀ name ∈ Writer.reservedAttributes, Store.isSpecialName name := by decide
    simp [hattributes.attribute?_special (hspecial name hname)]
  simp only [Writer.body, hreserved, Bool.false_eq_true, if_false]
  refine .both ((h.blank hclass rfl rfl hS hnew).mono ?_)
  rintro S₁ ⟨x, hS₁⟩
  split
  case isTrue hempty =>
    obtain rfl := List.isEmpty_iff.1 hempty
    exact (Emits.nothing hS₁).relabel fun S₂ hS₂ => h.ends hS₂ ⟨rfl, .nil⟩
  case isFalse =>
    have hdict : IsDict .dict := .inl rfl
    have htakes := takes_setItems (g := g) hdict hattributes.keys_fst (h.shallow_keys rfl)
    have hfill := fills_dictEntries htakes.1 htakes.2 (h.pushes_entry rfl (some x))
    refine state hS₁.inStep (fun S₂ y hS₂ =>
      (hfill S₁ S₂ y [] List.prefix_rfl ⟨[], hS₂, .nil⟩).mono fun S₃ hS₃ => Exists.intro y hS₃) ?_
    rintro S₂ ⟨y, bs, hS₂, hbs⟩
    obtain ⟨w', es, hle, hes, hstep⟩ := performs_build_instance (w := S₂.world) h.plain hattributes
      hbs (hS₂.le.get?_some hS₁.held) hS₂.held
    refine (takes_state hS₁ hS₂.toPushed hle (hstep _ _ _)).relabel fun S₃ hS₃ => h.ends hS₃.1 ?_
    have hlabel : w'.label x = none :=
      ((hS₂.le.trans hle).label x (Store.lt_size_of_get? hS₁.held)).trans hS₁.unlabelled
    rw [hS₃.2]
    refine ⟨?_, parts_copies (hes.keeps (World.keeps_set hlabel _))⟩
    simp [Object.skeleton, List.map_const', hes.length_eq]

/-- The state of an identifier has one entry, the key of which is always the same text. -/
theorem fills_number {number : Ref} {S₂ : Scene} {y : Ref} {w : Write}
    (hnumber : Pushes g s pending w [Sign.copy s number])
    (hS₂ : S₁.Filling s pending y (.dict []) S₂) :
    Emits g (Writer.dictEntries [Writer.both (Writer.text (some .numberField) "int") w]) S₂ fun S₃ =>
      ∃ key n, S₁.Filling s pending y (.dict [(key, n)]) S₃ ∧
        S₃.machine.store.text? key = some "int" ∧ S₃.world.Copy s number n := by
  have hentry : Pushes g s pending (Writer.both (Writer.text (some .numberField) "int") w)
      [Sign.text "int", Sign.copy s number] :=
    (Pushes.text (by rintro _ ⟨⟩; rfl)).both hnumber
  refine .both ((hentry S₂ hS₂.inStep).mono ?_)
  rintro S₃ ⟨xs, hpushed, hxs⟩
  simp only [Sign.all_cons, Sign.all_nil] at hxs
  obtain ⟨key, _, rfl, hkey, n, _, rfl, hn, rfl⟩ := hxs
  obtain ⟨shared, htext⟩ := hkey
  have hy := hpushed.le.get?_some hS₂.held
  have hlabel : S₃.label y = none :=
    (hpushed.le.label y (Store.lt_size_of_get? hS₂.held)).trans hS₂.unlabelled
  refine .emit S₃.label rfl ?_ ⟨key, n, hS₂.change hpushed.le hpushed.inStep _, ?_, ?_⟩
  · have hes : S₃.machine.store.setEntry [] key n = some [(key, n)] :=
      Store.setEntry_new (Store.isKey_text htext) (by simp)
    have hstep : Machine.Performs g .setItem
        ⟨S₃.machine.store, n :: key :: y :: S₁.machine.stack, S₁.machine.below, S₃.machine.memo⟩
        ⟨S₃.machine.store.set y (.dict [(key, n)]), y :: S₁.machine.stack, S₁.machine.below,
          S₃.machine.memo⟩ :=
      .bind (Machine.gives_pop n) (.bind (Machine.gives_pop key) (.bind (Machine.gives_top y)
        (gives_setEntry (.inl rfl) hy hes)))
    have hstack : S₃.machine.stack = n :: key :: y :: S₁.machine.stack := by
      rw [hpushed.stack, hS₂.stack]
      rfl
    exact .of_stack hstack (hpushed.below.trans hS₂.below) hstep
  · have hne : y ≠ key := by
      rintro rfl
      rw [show S₃.world.store.get? y = _ from htext] at hy
      cases hy
    have htext' : (S₃.machine.store.set y (.dict [(key, n)])).get? key = some (.text "int" shared) := by
      rw [Store.get?_set, if_neg fun hand => hne hand.1]
      exact htext
    exact Store.text?_eq htext'
  · exact hn.keeps (World.keeps_set (w := S₃.world) hlabel _)

theorem copies_uuid {number : Option Ref} (h : Writing g s pending sub r (.uuid number)) :
    Copies g s pending r (.uuid number) (Writer.body g s sub r (.uuid number)) := by
  intro S hS hnew
  obtain ⟨p, n, rfl, -⟩ := h.proper
  have hnumber := h.parts p (by simp [Object.parts])
  refine .both ((h.blank (c := .safe .uuid) trivial rfl rfl hS hnew).mono ?_)
  rintro S₁ ⟨x, hS₁⟩
  refine state hS₁.inStep (fun S₂ y hS₂ => (fills_number (hnumber (some x)) hS₂).mono
    fun S₃ hS₃ => Exists.intro y hS₃) ?_
  rintro S₂ ⟨y, key, n, hS₂, hkey, hcopy⟩
  refine (takes_state hS₁ hS₂.toPushed (.refl _) (performs_build_uuid
    (hS₂.le.get?_some hS₁.held) hS₂.held hkey)).relabel fun S₃ hS₃ => h.ends hS₃.1 ?_
  have hlabel : S₂.label x = none :=
    (hS₂.le.label x (Store.lt_size_of_get? hS₁.held)).trans hS₁.unlabelled
  rw [hS₃.2]
  exact ⟨rfl, .cons (hcopy.keeps (World.keeps_set (w := S₂.world) hlabel _)) .nil⟩

end Writing

end Wire

end ServiceStubs
