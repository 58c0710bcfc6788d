import ServiceStubs.Proofs.Wire.Keys
import ServiceStubs.Proofs.Wire.Pushing

/-!
# Objects that are filled

Lists, dicts, sets and queues are put on the stack empty and filled there, item by item or in
batches. While that goes on the object bears no label, so the copies that are there already do not
depend on it.

## Main definitions

* `Container`: what items of a container are, and the object that holds them
* `Scene.Filling`, `Scene.Holding`: a container that is filled
* `Container.TakesOne`, `Container.TakesAll`: instructions that add items
* `Fills`: a writer of items

## Main statements

* `fills_single`, `fills_batch`, `Fills.all`: the ways in which items are written
-/

namespace ServiceStubs

namespace Wire

/-! ### Changing an object without a label -/

theorem Store.set_self {t : Store} {x : Ref} {o : Object} (h : t.get? x = some o) :
    t.set x o = t := by
  obtain ⟨hlt, hx⟩ := Array.getElem?_eq_some_iff.1 h
  simp only [Store.set, Array.setIfInBounds, hlt, dite_true, ← hx, Array.set_getElem_self]

theorem Store.set_set (t : Store) (x : Ref) (o o' : Object) :
    (t.set x o).set x o' = t.set x o' := by
  simp [Store.set]

namespace World

variable {w w' : World} {x : Ref} {o o' : Object}

/-- The world with an object changed. -/
def set (w : World) (x : Ref) (o : Object) : World := ⟨w.store.set x o, w.label⟩

theorem get?_set_self (h : w.store.get? x = some o') : (w.set x o).store.get? x = some o := by
  simp only [set, Store.get?_set, Store.lt_size_of_get? h, and_self, if_true]

theorem keeps_set (h : w.label x = none) (o : Object) : w.Keeps (w.set x o) := by
  intro y i o' hi ho'
  refine ⟨hi, ?_⟩
  have hne : x ≠ y := by
    rintro rfl
    rw [h] at hi
    cases hi
  simp only [set, Store.get?_set, hne, false_and, if_false, ho']

theorem Le.set (h : w.Le w') (hx : w.store.size ≤ x) (o : Object) : w.Le (w'.set x o) where
  size_le := by simpa [World.set, Store.set, Store.size] using h.size_le
  get? y hy := by
    have hne : x ≠ y := Nat.ne_of_gt (Nat.lt_of_lt_of_le hy hx)
    simp only [World.set, Store.get?_set, hne, false_and, if_false, h.get? y hy]
  label := h.label

end World

/-! ### Containers -/

/-- A container: the places that an item stands for, and the object that holds items. -/
structure Container (α : Type) where
  refs : α → List Ref
  ofRefs : ∀ (a : α) (xs : List Ref), (refs a).length = xs.length → ∃ b, refs b = xs
  object : List α → Object

namespace Container

variable {α : Type} (k : Container α) {s : Store} {w w' : World}

/-- A container of single places. -/
def ofItems (object : List Ref → Object) : Container Ref where
  refs a := [a]
  ofRefs _ xs h := by
    obtain ⟨x, rfl⟩ := List.length_eq_one_iff.1 h.symm
    exact ⟨x, rfl⟩
  object := object

/-- A container of keys and values. -/
def ofEntries (object : List (Ref × Ref) → Object) : Container (Ref × Ref) where
  refs e := [e.1, e.2]
  ofRefs _ xs h := by
    obtain ⟨x, y, rfl⟩ := List.length_eq_two.1 h.symm
    exact ⟨(x, y), rfl⟩
  object := object

/-- Items the places of which are copies. -/
def Copies (s : Store) (w : World) : List α → List α → Prop :=
  List.Forall₂ fun a b => List.Forall₂ (w.Copy s) (k.refs a) (k.refs b)

variable {k} {as bs : List α}

theorem Copies.keeps (h : k.Copies s w as bs) (hle : w.Keeps w') : k.Copies s w' as bs :=
  h.imp fun _ _ hab => hab.imp fun _ _ hcopy => hcopy.keeps hle

theorem Copies.append {as' bs' : List α} (h : k.Copies s w as bs) (h' : k.Copies s w as' bs') :
    k.Copies s w (as ++ as') (bs ++ bs') :=
  List.rel_append h h'

/-- Copies of places are those of items. -/
theorem exists_copies {xs : List Ref} (h : List.Forall₂ (w.Copy s) (as.flatMap k.refs) xs) :
    ∃ bs, xs = bs.flatMap k.refs ∧ k.Copies s w as bs := by
  induction as generalizing xs with
  | nil => exact ⟨[], List.forall₂_nil_left_iff.1 h, .nil⟩
  | cons a as ih =>
    rw [List.flatMap_cons] at h
    have hfirst := List.forall₂_take (k.refs a).length h
    have hrest := List.forall₂_drop (k.refs a).length h
    rw [List.take_left'  rfl] at hfirst
    rw [List.drop_left'  rfl] at hrest
    obtain ⟨b, hb⟩ := k.ofRefs a _ hfirst.length_eq
    obtain ⟨bs, hbs, hcopies⟩ := ih hrest
    refine ⟨b :: bs, ?_, .cons (hb ▸ hfirst) hcopies⟩
    rw [List.flatMap_cons, ← hbs, hb, List.take_append_drop]

/-- An instruction that adds the places above an object to it as one item. -/
def TakesOne (k : Container α) (g : Registry) (s : Store) (j : Instruction) (items : List α) : Prop :=
  j.isEmitted ∧ ∀ (w : World) (x : Ref) (done : List α) (a : α) (old : List α) (b : α)
    (stack : List Ref) (below : List (List Ref)) (memo : Std.HashMap Nat Ref),
    done ++ [a] <+: items → k.Copies s w done old → k.Copies s w [a] [b] →
    w.store.get? x = some (k.object old) → w.label x = none →
    Machine.Performs g j ⟨w.store, (k.refs b).reverse ++ x :: stack, below, memo⟩
      ⟨w.store.set x (k.object (old ++ [b])), x :: stack, below, memo⟩

/-- An instruction that adds the places above a mark to the object below it. -/
def TakesAll (k : Container α) (g : Registry) (s : Store) (j : Instruction) (items : List α) : Prop :=
  j.isEmitted ∧ ∀ (w : World) (x : Ref) (done group old new : List α)
    (stack : List Ref) (below : List (List Ref)) (memo : Std.HashMap Nat Ref),
    done ++ group <+: items → k.Copies s w done old → k.Copies s w group new →
    w.store.get? x = some (k.object old) → w.label x = none →
    Machine.Performs g j ⟨w.store, (new.flatMap k.refs).reverse, (x :: stack) :: below, memo⟩
      ⟨w.store.set x (k.object (old ++ new)), x :: stack, below, memo⟩

end Container

namespace Scene

variable {s : Store} {pending : Pending} {S S₁ S₂ : Scene} {x : Ref} {o o' : Object}

/-- An object that is filled: it is topmost on the stack, is new and bears no label yet. -/
structure Filling (S : Scene) (s : Store) (pending : Pending) (x : Ref) (o : Object) (S₁ : Scene) :
    Prop extends S.Pushed s pending [x] S₁ where
  fresh : S.machine.store.size ≤ x
  unlabelled : S₁.label x = none
  held : S₁.machine.store.get? x = some o

/-- The object is changed by an instruction that takes what was put above it. -/
theorem Filling.change (h : S.Filling s pending x o S₁) (hle : S₁.world.Le S₂.world)
    (hS₂ : S₂.InStep s pending) (o' : Object) : S.Filling s pending x o'
      ⟨S₂.writer, ⟨S₂.machine.store.set x o', x :: S.machine.stack, S.machine.below,
        S₂.machine.memo⟩, S₂.label⟩ := by
  have hlabel : S₂.label x = none :=
    (hle.label x (Store.lt_size_of_get? h.held)).trans h.unlabelled
  exact {
    le := (h.le.trans hle).set h.fresh o'
    inStep := hS₂.keeps rfl rfl (World.keeps_set (w := S₂.world) hlabel o')
    stack := rfl
    below := rfl
    fresh := h.fresh
    unlabelled := hlabel
    held := World.get?_set_self (w := S₂.world) (hle.get?_some h.held) }

/-- A container that holds copies of items. -/
def Holding {α : Type} (S : Scene) (k : Container α) (s : Store) (pending : Pending) (x : Ref)
    (items : List α) (S₁ : Scene) : Prop :=
  ∃ bs, S.Filling s pending x (k.object bs) S₁ ∧ k.Copies s S₁.world items bs

end Scene

/-- A writer that adds copies of items to the container that is topmost. -/
def Fills {α : Type} (k : Container α) (g : Registry) (s : Store) (pending : Pending)
    (items : List α) (w : Write) (group : List α) : Prop :=
  ∀ (S S₁ : Scene) (x : Ref) (done : List α), done ++ group <+: items →
    S.Holding k s pending x done S₁ → Emits g w S₁ (S.Holding k s pending x (done ++ group))

section Fills

variable {α : Type} {k : Container α} {g : Registry} {s : Store} {pending : Pending}
  {items group : List α} {j : Instruction} {f : α → Write}

theorem Fills.nothing : Fills k g s pending items Writer.nothing [] := by
  intro S S₁ x done _ hS₁
  rw [List.append_nil]
  exact .nothing hS₁

theorem Fills.both {w w' : Write} {group' : List α} (h : Fills k g s pending items w group)
    (h' : Fills k g s pending items w' group') :
    Fills k g s pending items (Writer.both w w') (group ++ group') := by
  intro S S₁ x done hbegin hS₁
  rw [← List.append_assoc] at hbegin ⊢
  exact .both ((h S S₁ x done ((List.prefix_append ..).trans hbegin) hS₁).mono fun S₂ hS₂ =>
    h' S S₂ x _ hbegin hS₂)

theorem Fills.all {ws : List Write} {groups : List (List α)}
    (h : List.Forall₂ (Fills k g s pending items) ws groups) :
    Fills k g s pending items (Writer.all ws) groups.flatten := by
  induction h with
  | nil => exact .nothing
  | cons hw _ ih =>
    rw [Pushes.all_cons]
    exact hw.both ih

/-- One item that is written by itself. -/
theorem fills_single {a : α} (hj : k.TakesOne g s j items)
    (ha : Pushes g s pending (f a) ((k.refs a).map (Sign.copy s))) :
    Fills k g s pending items (Writer.both (f a) (Writer.emit j)) [a] := by
  rintro S S₁ x done hbegin ⟨old, hfilling, hold⟩
  refine .both ((ha S₁ hfilling.inStep).mono fun S₂ hS₂ => ?_)
  obtain ⟨xs, hpushed, hxs⟩ := hS₂
  have hxs' : List.Forall₂ (S₂.world.Copy s) ([a].flatMap k.refs) xs := by
    simpa using Sign.all_copies.1 hxs
  obtain ⟨bs, rfl, hbs⟩ := Container.exists_copies hxs'
  obtain ⟨b, cs, hb, hcs, rfl⟩ := List.forall₂_cons_left_iff.1 hbs
  obtain rfl := List.forall₂_nil_left_iff.1 hcs
  have hlabel := (hpushed.le.label x (Store.lt_size_of_get? hfilling.held)).trans hfilling.unlabelled
  have hold' := hold.keeps hpushed.le.keeps
  have hstep := hj.2 S₂.world x done a old b S.machine.stack S.machine.below S₂.machine.memo hbegin
    hold' hbs (hpushed.le.get?_some hfilling.held) hlabel
  refine .emit S₂.label hj.1 ?_ ⟨old ++ [b], hfilling.change hpushed.le hpushed.inStep _,
    (hold'.append hbs).keeps (World.keeps_set (w := S₂.world) hlabel _)⟩
  have hstack : S₂.machine.stack = (k.refs b).reverse ++ x :: S.machine.stack := by
    simpa [hfilling.stack] using hpushed.stack
  exact .of_stack hstack (hpushed.below.trans hfilling.below) hstep

/-- A batch of items. -/
theorem fills_batch (hj : k.TakesAll g s j items)
    (hf : ∀ a ∈ group, Pushes g s pending (f a) ((k.refs a).map (Sign.copy s))) :
    Fills k g s pending items (Writer.batch j (group.map f)) group := by
  rintro S S₁ x done hbegin ⟨old, hfilling, hold⟩
  have hparts : Pushes g s pending (Writer.all (group.map f))
      ((group.map fun a => (k.refs a).map (Sign.copy s)).flatten) := by
    refine .all ?_
    rw [List.forall₂_map_left_iff, List.forall₂_map_right_iff]
    exact List.forall₂_same.2 hf
  refine .marked hfilling.inStep hparts fun S₂ xs hle hS₂ hstack hbelow hxs => ?_
  have hxs' : List.Forall₂ (S₂.world.Copy s) (group.flatMap k.refs) xs := by
    refine Sign.all_copies.1 ?_
    rwa [List.map_flatMap, List.flatMap_def]
  obtain ⟨new, rfl, hnew⟩ := Container.exists_copies hxs'
  have hlabel := (hle.label x (Store.lt_size_of_get? hfilling.held)).trans hfilling.unlabelled
  have hold' := hold.keeps hle.keeps
  have hstep := hj.2 S₂.world x done group old new S.machine.stack S.machine.below S₂.machine.memo
    hbegin hold' hnew (hle.get?_some hfilling.held) hlabel
  refine .emit S₂.label hj.1 ?_ ⟨old ++ new, hfilling.change hle hS₂ _,
    (hold'.append hnew).keeps (World.keeps_set (w := S₂.world) hlabel _)⟩
  have hbelow' : S₂.machine.below = (x :: S.machine.stack) :: S.machine.below := by
    rw [hbelow, hfilling.stack, hfilling.below]
    rfl
  exact .of_stack hstack hbelow' hstep

/-! ### Batches -/

theorem flatten_chunks {β : Type} {size : Nat} (hsize : size ≠ 0) (xs : List β) :
    (chunks size xs).flatten = xs := by
  fun_induction chunks size xs with
  | case1 xs h => simpa [hsize] using h.symm
  | case2 xs h ih => rw [List.flatten_cons, ih, List.take_append_drop]

theorem chunks_map {β : Type} (size : Nat) (h : α → β) (xs : List α) :
    chunks size (xs.map h) = (chunks size xs).map (List.map h) := by
  fun_induction chunks size xs with
  | case1 xs hxs =>
    unfold chunks
    simp [hxs]
  | case2 xs hxs ih =>
    rw [chunks, dif_neg (by simpa using hxs), ← List.map_take, ← List.map_drop, ih, List.map_cons]

/-- Items in batches, which may be written in a way of their own where they are few. -/
theorem fills_each {write : List Write → Write} {size : Nat} (hsize : size ≠ 0)
    (hwrite : ∀ c, (∀ a ∈ c, a ∈ group) → Fills k g s pending items (write (c.map f)) c) :
    List.Forall₂ (Fills k g s pending items) ((chunks size (group.map f)).map write)
      (chunks size group) := by
  rw [chunks_map, List.map_map, List.forall₂_map_left_iff]
  refine List.forall₂_same.2 fun c hc => hwrite c fun a ha => ?_
  rw [← flatten_chunks hsize group]
  exact List.mem_flatten.2 ⟨c, hc, ha⟩

theorem fills_chunks {write : List Write → Write} {size : Nat} (hsize : size ≠ 0)
    (hwrite : ∀ c, (∀ a ∈ c, a ∈ group) → Fills k g s pending items (write (c.map f)) c) :
    Fills k g s pending items (Writer.all ((chunks size (group.map f)).map write)) group := by
  have hall := Fills.all (fills_each hsize hwrite)
  rwa [flatten_chunks hsize] at hall

variable {one several : Instruction}

theorem fills_listItems (hone : k.TakesOne g s .append items) (hall : k.TakesAll g s .appends items)
    (hf : ∀ a ∈ group, Pushes g s pending (f a) ((k.refs a).map (Sign.copy s))) :
    Fills k g s pending items (Writer.listItems (group.map f)) group := by
  unfold Writer.listItems
  split
  case h_1 w hw =>
    obtain ⟨a, rfl, rfl⟩ := List.map_eq_singleton_iff.1 hw
    exact fills_single hone (hf a (by simp))
  case h_2 => exact fills_chunks (by decide) fun c hc => fills_batch hall fun a ha => hf a (hc a ha)

/-- Batches up to one that is not full, which may be empty. -/
theorem fills_unfull (last : Bool) (hall : k.TakesAll g s several items)
    (hf : ∀ a ∈ group, Pushes g s pending (f a) ((k.refs a).map (Sign.copy s))) :
    Fills k g s pending items
      (Writer.all (if last then
          (chunks Writer.batchSize (group.map f)).map (Writer.batch several) ++
            [Writer.batch several []]
        else (chunks Writer.batchSize (group.map f)).map (Writer.batch several))) group := by
  have hbatch (c : List α) (hc : ∀ a ∈ c, a ∈ group) :
      Fills k g s pending items (Writer.batch several (c.map f)) c :=
    fills_batch hall fun a ha => hf a (hc a ha)
  split
  · have heach := fills_each (by decide : Writer.batchSize ≠ 0) hbatch
    have hfull := Fills.all (List.rel_append heach (.cons (hbatch [] (by simp)) .nil))
    rwa [List.flatten_append, flatten_chunks (by decide), List.flatten_singleton,
      List.append_nil] at hfull
  · exact fills_chunks (by decide) hbatch

theorem fills_setMembers (hall : k.TakesAll g s .addItems items)
    (hf : ∀ a ∈ group, Pushes g s pending (f a) ((k.refs a).map (Sign.copy s))) :
    Fills k g s pending items (Writer.setMembers (group.map f)) group := by
  unfold Writer.setMembers
  split
  case h_1 hw =>
    obtain rfl := List.map_eq_nil_iff.1 hw
    exact .nothing
  case h_2 => exact fills_unfull _ hall hf

theorem fills_dictEntries (hone : k.TakesOne g s .setItem items)
    (hall : k.TakesAll g s .setItems items)
    (hf : ∀ a ∈ group, Pushes g s pending (f a) ((k.refs a).map (Sign.copy s))) :
    Fills k g s pending items (Writer.dictEntries (group.map f)) group := by
  unfold Writer.dictEntries
  split
  case h_1 hw =>
    obtain rfl := List.map_eq_nil_iff.1 hw
    exact .nothing
  case h_2 w hw =>
    obtain ⟨a, rfl, rfl⟩ := List.map_eq_singleton_iff.1 hw
    exact fills_single hone (hf a (by simp))
  case h_3 => exact fills_unfull _ hall hf

theorem fills_streamed (hone : k.TakesOne g s one items) (hall : k.TakesAll g s several items)
    (hf : ∀ a ∈ group, Pushes g s pending (f a) ((k.refs a).map (Sign.copy s))) :
    Fills k g s pending items (Writer.streamed one several (group.map f)) group := by
  refine fills_chunks (by decide) fun c hc => ?_
  split
  case h_1 w hw =>
    obtain ⟨a, rfl, rfl⟩ := List.map_eq_singleton_iff.1 hw
    exact fills_single hone (hf a (hc a (by simp)))
  case h_2 => exact fills_batch hall fun a ha => hf a (hc a ha)

end Fills

end Wire

end ServiceStubs
