import ServiceStubs.Proofs.Wire.Filling

/-!
# Adding items to containers

Items that are copies come to the end of a container: lists take all, queues as many as they may
hold, and sets and dicts those whose keys are keys and differ.

## Main statements

* `takes_appends`: lists and queues take items
* `takesAll_addItems`: sets take members
* `takes_setItems`: dicts take entries
-/

namespace ServiceStubs

namespace Wire

variable {g : Registry} {s : Store} {t : Store} {w : World} {x : Ref} {stack : List Ref}
  {below : List (List Ref)} {memo : Std.HashMap Nat Ref}

/-! ### Lists and queues -/

section Items

variable {object : List Ref → Object} {items : List Ref}

theorem copies_ofItems {as bs : List Ref} :
    (Container.ofItems object).Copies s w as bs ↔ List.Forall₂ (w.Copy s) as bs := by
  unfold Container.Copies
  have hiff (a b : Ref) : List.Forall₂ (w.Copy s) ((Container.ofItems object).refs a)
      ((Container.ofItems object).refs b) ↔ w.Copy s a b := by
    simp [Container.ofItems]
  simp only [hiff]

theorem flatMap_refs_ofItems (xs : List Ref) :
    xs.flatMap (Container.ofItems object).refs = xs := by
  simp [Container.ofItems]

theorem gives_extend_list {old new : List Ref} (h : t.get? x = some (.list old)) :
    (Machine.extend g x new).Gives ⟨t, stack, below, memo⟩ ()
      ⟨t.set x (.list (old ++ new)), stack, below, memo⟩ :=
  .bind (Machine.gives_object h) (Machine.gives_change _ _)

theorem gives_extend_deque {old new : List Ref} {limit : Option Nat}
    (h : t.get? x = some (.deque old limit)) (hlimit : ∀ n, limit = some n → (old ++ new).length ≤ n) :
    (Machine.extend g x new).Gives ⟨t, stack, below, memo⟩ ()
      ⟨t.set x (.deque (old ++ new) limit), stack, below, memo⟩ := by
  have hlast : Build.lastOf limit (old ++ new) = old ++ new := by
    cases limit with
    | none => rfl
    | some n =>
      have hle := hlimit n rfl
      rw [Build.lastOf, Nat.sub_eq_zero_of_le hle, List.drop_zero]
  refine .bind (Machine.gives_object h) ?_
  simp only [hlast]
  exact Machine.gives_change _ _

/-- What can be extended takes items one by one and in batches. -/
theorem takes_appends (hextend : ∀ (w : World) (x : Ref) (done group old new stack : List Ref)
      (below : List (List Ref)) (memo : Std.HashMap Nat Ref),
      done ++ group <+: items → List.Forall₂ (w.Copy s) (done ++ group) (old ++ new) →
      w.store.get? x = some (object old) →
      (Machine.extend g x new).Gives ⟨w.store, stack, below, memo⟩ ()
        ⟨w.store.set x (object (old ++ new)), stack, below, memo⟩) :
    (Container.ofItems object).TakesOne g s .append items ∧
      (Container.ofItems object).TakesAll g s .appends items := by
  refine ⟨⟨rfl, ?_⟩, rfl, ?_⟩
  · intro w x done a old b stack below memo hbegin hold hnew hx _
    exact .bind (Machine.gives_pop b) (.bind (Machine.gives_top x)
      (hextend w x done [a] old [b] _ _ _ hbegin (copies_ofItems.1 (hold.append hnew)) hx))
  · intro w x done group old new stack below memo hbegin hold hnew hx _
    rw [flatMap_refs_ofItems]
    refine .bind (Machine.gives_popToMark new) (.bind (Machine.gives_top x) ?_)
    split
    case isTrue hempty =>
      obtain rfl := List.isEmpty_iff.1 hempty
      rw [List.append_nil]
      have hself : w.store.set x ((Container.ofItems object).object old) = w.store :=
        Store.set_self hx
      rw [hself]
      exact .pure _
    case isFalse =>
      exact hextend w x done group old new _ _ _ hbegin (copies_ofItems.1 (hold.append hnew)) hx

theorem takes_list : (Container.ofItems Object.list).TakesOne g s .append items ∧
    (Container.ofItems Object.list).TakesAll g s .appends items :=
  takes_appends fun _ _ _ _ _ _ _ _ _ _ _ hx => gives_extend_list hx

theorem takes_deque {limit : Option Nat} (hlimit : ∀ n, limit = some n → items.length ≤ n) :
    (Container.ofItems fun xs => .deque xs limit).TakesOne g s .append items ∧
      (Container.ofItems fun xs => .deque xs limit).TakesAll g s .appends items := by
  refine takes_appends fun w x done group old new stack below memo hbegin hcopies hx => ?_
  refine gives_extend_deque hx fun n hn => ?_
  rw [← hcopies.length_eq]
  exact Nat.le_trans hbegin.length_le (hlimit n hn)

/-- A set takes members that can be members and differ. -/
theorem takesAll_addItems (hkeys : s.Keys items) (hshallow : ∀ a ∈ items, s.Shallow s.size a) :
    (Container.ofItems Object.set).TakesAll g s .addItems items := by
  refine ⟨rfl, ?_⟩
  intro w x done group old new stack below memo hbegin hold hnew hx _
  rw [flatMap_refs_ofItems]
  refine .bind (Machine.gives_popToMark new) (.bind (Machine.gives_top x) ?_)
  split
  case isTrue hempty =>
    obtain rfl := List.isEmpty_iff.1 hempty
    rw [List.append_nil]
    have hself : w.store.set x ((Container.ofItems Object.set).object old) = w.store :=
      Store.set_self hx
    rw [hself]
    exact .pure _
  case isFalse =>
    obtain ⟨rest, rfl⟩ := hbegin
    have hkeys' : w.store.Keys (old ++ new) := hkeys.of_append.copies
      (fun a ha => hshallow a (List.mem_append_left _ ha)) (copies_ofItems.1 (hold.append hnew))
    refine .bind (Machine.gives_object hx) (.bind .get ?_)
    simp only [hkeys'.foldlM_insertKey]
    exact .bind (.orFail _) (Machine.gives_change _ _)

end Items

/-! ### Dicts -/

section Entries

variable {object : List (Ref × Ref) → Object} {items : List (Ref × Ref)}

/-- A dict of either kind. -/
def IsDict (object : List (Ref × Ref) → Object) : Prop :=
  object = .dict ∨ object = .orderedDict

theorem gives_setEntry (hobject : IsDict object) {es es' : List (Ref × Ref)} {key value : Ref}
    (h : t.get? x = some (object es)) (hes : t.setEntry es key value = some es') :
    (Machine.setEntry g x key value).Gives ⟨t, stack, below, memo⟩ ()
      ⟨t.set x (object es'), stack, below, memo⟩ := by
  refine .bind .get (.bind (Machine.gives_object h) ?_)
  rcases hobject with rfl | rfl
  · simp only [hes]
    exact .bind (.orFail _) (Machine.gives_change _ _)
  · simp only [hes]
    exact .bind (.orFail _) (Machine.gives_change _ _)

theorem forall₂_fst {as bs : List (Ref × Ref)} (h : (Container.ofEntries object).Copies s w as bs) :
    List.Forall₂ (w.Copy s) (as.map Prod.fst) (bs.map Prod.fst) := by
  rw [List.forall₂_map_left_iff, List.forall₂_map_right_iff]
  exact h.imp fun _ _ hab => (List.forall₂_cons.1 hab).1

theorem forall₂_snd {as bs : List (Ref × Ref)} (h : (Container.ofEntries object).Copies s w as bs) :
    List.Forall₂ (w.Copy s) (as.map Prod.snd) (bs.map Prod.snd) := by
  rw [List.forall₂_map_left_iff, List.forall₂_map_right_iff]
  exact h.imp fun _ _ hab => (List.forall₂_cons.1 (List.forall₂_cons.1 hab).2).1

theorem keys_of_copies (hkeys : s.Keys (items.map Prod.fst))
    (hshallow : ∀ a ∈ items.map Prod.fst, s.Shallow s.size a) {as bs : List (Ref × Ref)}
    (hbegin : as <+: items) (hcopies : (Container.ofEntries object).Copies s w as bs) :
    w.store.Keys (bs.map Prod.fst) := by
  obtain ⟨rest, rfl⟩ := hbegin
  rw [List.map_append] at hkeys hshallow
  exact hkeys.of_append.copies (fun c hc => hshallow c (List.mem_append_left _ hc))
    (forall₂_fst hcopies)

/-- Entries with keys that can be keys and differ are added one after the other. The dict is no
copy of anything yet, so the keys do not depend on it. -/
theorem gives_setEntries (hobject : IsDict object) (hkeys : s.Keys (items.map Prod.fst))
    (hshallow : ∀ a ∈ items.map Prod.fst, s.Shallow s.size a) {done group old new : List (Ref × Ref)}
    (hbegin : done ++ group <+: items)
    (hold : (Container.ofEntries object).Copies s w done old)
    (hnew : (Container.ofEntries object).Copies s w group new)
    (hx : w.store.get? x = some (object old)) (hlabel : w.label x = none) :
    (new.forM fun e => Machine.setEntry g x e.1 e.2).Gives ⟨w.store, stack, below, memo⟩ ()
      ⟨w.store.set x (object (old ++ new)), stack, below, memo⟩ := by
  induction new generalizing w done group old with
  | nil =>
    rw [List.append_nil, Store.set_self hx]
    exact .pure ()
  | cons b new ih =>
    obtain ⟨a, group, hab, hnew', rfl⟩ := List.forall₂_cons_right_iff.1 hnew
    rw [List.append_cons done] at hbegin
    rw [List.append_cons old]
    have hfirst := hold.append (.cons hab .nil)
    have hkeys' := keys_of_copies hkeys hshallow ((List.prefix_append ..).trans hbegin) hfirst
    have hkeeps := World.keeps_set hlabel (object (old ++ [b]))
    have hnext := ih (w := w.set x (object (old ++ [b]))) hbegin (hfirst.keeps hkeeps)
      (hnew'.imp fun _ _ h => h.imp fun _ _ hcopy => hcopy.keeps hkeeps) (World.get?_set_self hx)
      hlabel
    simp only [World.set, Store.set_set] at hnext
    rw [List.forM_eq_forM, List.forM_cons]
    exact .bind (gives_setEntry hobject hx hkeys'.setEntry) hnext

theorem pairs?_flatMap (es : List (Ref × Ref)) :
    Machine.pairs? (es.flatMap (Container.ofEntries object).refs) = some es := by
  induction es with
  | nil => rfl
  | cons e es ih =>
    rw [List.flatMap_cons]
    simp only [Container.ofEntries, List.cons_append, List.nil_append, Machine.pairs?] at ih ⊢
    rw [ih]
    rfl

/-- A dict takes entries one by one and in batches. -/
theorem takes_setItems (hobject : IsDict object) (hkeys : s.Keys (items.map Prod.fst))
    (hshallow : ∀ a ∈ items.map Prod.fst, s.Shallow s.size a) :
    (Container.ofEntries object).TakesOne g s .setItem items ∧
      (Container.ofEntries object).TakesAll g s .setItems items := by
  refine ⟨⟨rfl, ?_⟩, rfl, ?_⟩
  · intro w x done a old b stack below memo hbegin hold hnew hx hlabel
    have hkeys' := keys_of_copies hkeys hshallow hbegin (hold.append hnew)
    exact .bind (Machine.gives_pop b.2) (.bind (Machine.gives_pop b.1) (.bind (Machine.gives_top x)
      (gives_setEntry hobject hx hkeys'.setEntry)))
  · intro w x done group old new stack below memo hbegin hold hnew hx hlabel
    refine .bind (Machine.gives_popToMark _) (.bind (Machine.gives_top x) ?_)
    rw [pairs?_flatMap]
    exact .bind (.orFail _) (gives_setEntries hobject hkeys hshallow hbegin hold hnew hx hlabel)

end Entries

/-! ### Attributes and the state of an identifier -/

section State

variable {items : List (Ref × Ref)} {id : Nat} {y : Ref}

/-- One attribute is set under a name that is made anew, which is a copy of the original one. -/
theorem gives_addAttribute (hattributes : s.Attributes items) {a b : Ref × Ref}
    {done rest old : List (Ref × Ref)} (hitems : done ++ a :: rest = items)
    (hold : (Container.ofEntries .dict).Copies s w done old) (hkey : w.Copy s a.1 b.1) :
    ∃ (w' : World) (key : Ref), w.Le w' ∧ w'.Copy s a.1 key ∧ ∀ stack below memo,
      (do
        let key ← Machine.attributeKey b.1
        Machine.orFail ((← get).store.setEntry old key b.2) : Run (List (Ref × Ref))).Gives
        ⟨w.store, stack, below, memo⟩ (old ++ [(key, b.2)]) ⟨w'.store, stack, below, memo⟩ := by
  subst hitems
  obtain ⟨u, shared, hu, -⟩ := hattributes.named a (by simp)
  obtain ⟨shared', hu'⟩ := hkey.get?_text hu
  let w' := w.add (.text u true) (some (Object.identity (.text u shared) a.1))
  have hle : w.Le w' := World.le_add ..
  have hself : w'.store.get? w.store.size = some (.text u true) := World.get?_add_self ..
  have hnew : ∀ e ∈ old, w'.store.same e.1 w.store.size = false := by
    intro e he
    obtain ⟨d, hd, hcopy⟩ := (exists_of_forall₂ (forall₂_fst hold)).2 e.1
      (List.mem_map_of_mem he)
    obtain ⟨d, hdone, rfl⟩ := List.mem_map.1 hd
    obtain ⟨v, shared₁, hv, -⟩ := hattributes.named d (by simp [hdone])
    obtain ⟨shared₂, hv'⟩ := hcopy.get?_text hv
    have hne := (List.pairwise_append.1 hattributes.distinct).2.2 d hdone a List.mem_cons_self
    rw [Store.text?_eq hv, Store.text?_eq hu] at hne
    exact Store.same_text (hle.get?_some hv') hself fun heq => hne (congrArg some heq)
  refine ⟨w', w.store.size, hle, World.copy_add hu (Object.like_of_parts rfl rfl),
    fun stack below memo => ?_⟩
  have hmade : (Machine.attributeKey b.1).Gives ⟨w.store, stack, below, memo⟩ w.store.size
      ⟨w'.store, stack, below, memo⟩ := .bind (Machine.gives_object hu') (Machine.gives_build rfl)
  refine .bind hmade (.bind .get ?_)
  simp only [Store.setEntry_new (Store.isKey_text hself) hnew]
  exact .orFail _

/-- Attributes are set one after the other. -/
theorem gives_addAttributes (hattributes : s.Attributes items) {done group old new : List (Ref × Ref)}
    (hitems : done ++ group = items)
    (hold : (Container.ofEntries .dict).Copies s w done old)
    (hnew : (Container.ofEntries .dict).Copies s w group new) :
    ∃ (w' : World) (added : List (Ref × Ref)), w.Le w' ∧
      (Container.ofEntries .dict).Copies s w' group added ∧ ∀ stack below memo,
      (new.foldlM (fun (es : List (Ref × Ref)) e => (do
        let key ← Machine.attributeKey e.1
        Machine.orFail ((← get).store.setEntry es key e.2) : Run (List (Ref × Ref)))) old).Gives
        ⟨w.store, stack, below, memo⟩ (old ++ added) ⟨w'.store, stack, below, memo⟩ := by
  induction new generalizing w done group old with
  | nil =>
    obtain rfl := List.forall₂_nil_right_iff.1 hnew
    refine ⟨w, [], .refl w, .nil, fun _ _ _ => ?_⟩
    rw [List.append_nil]
    exact .pure old
  | cons b new ih =>
    obtain ⟨a, group, hab, hnew', rfl⟩ := List.forall₂_cons_right_iff.1 hnew
    obtain ⟨hkey, hvalue⟩ : w.Copy s a.1 b.1 ∧ w.Copy s a.2 b.2 := by
      simpa [Container.ofEntries] using hab
    obtain ⟨w₁, key, hle, hcopy, hgives⟩ := gives_addAttribute hattributes hitems hold hkey
    have hentry : (Container.ofEntries .dict).Copies s w₁ [a] [(key, b.2)] :=
      .cons (.cons hcopy (.cons (hvalue.keeps hle.keeps) .nil)) .nil
    obtain ⟨w₂, added, hle', hadded, hgives'⟩ := ih (by simpa using hitems)
      ((hold.keeps hle.keeps).append hentry) (Container.Copies.keeps hnew' hle.keeps)
    refine ⟨w₂, (key, b.2) :: added, hle.trans hle', (hentry.keeps hle'.keeps).append hadded, ?_⟩
    intro stack below memo
    rw [List.foldlM_cons, List.append_cons old]
    exact .bind (hgives stack below memo) (hgives' stack below memo)

/-- **A state sets the attributes of a new instance.** -/
theorem performs_build_instance (hg : g.IsPlain) (hattributes : s.Attributes items)
    {bs : List (Ref × Ref)}
    (hcopies : (Container.ofEntries .dict).Copies s w items bs)
    (hx : w.store.get? x = some (.instance id [])) (hy : w.store.get? y = some (.dict bs)) :
    ∃ (w' : World) (es : List (Ref × Ref)), w.Le w' ∧
      (Container.ofEntries .dict).Copies s w' items es ∧ ∀ stack below memo,
      Machine.Performs g .build ⟨w.store, y :: x :: stack, below, memo⟩
        ⟨w'.store.set x (.instance id es), x :: stack, below, memo⟩ := by
  obtain ⟨w', es, hle, hes, hgives⟩ := gives_addAttributes hattributes rfl .nil hcopies
  refine ⟨w', es, hle, hes, fun stack below memo => .bind (Machine.gives_pop y)
    (.bind (Machine.gives_top x) (.bind (Machine.gives_object hx) ?_))⟩
  refine .bind (Machine.gives_callMember_blank hg hx) ?_
  refine .bind (Machine.gives_object hy) (.bind (Machine.gives_object hy)
    (.bind (Machine.gives_dictAt hy) (.bind (Machine.gives_object hx) ?_)))
  dsimp only
  rw [hg id]
  exact .bind (hgives _ _ _) (Machine.gives_change _ _)

/-- **A state sets the number of a new identifier.** -/
theorem performs_build_uuid {key number : Ref} (hx : t.get? x = some (.uuid none))
    (hy : t.get? y = some (.dict [(key, number)])) (hkey : t.text? key = some "int") :
    Machine.Performs g .build ⟨t, y :: x :: stack, below, memo⟩
      ⟨t.set x (.uuid (some number)), x :: stack, below, memo⟩ := by
  have hnumber : t.attribute? [(key, number)] "int" = some number := by
    simp [Store.attribute?, hkey]
  have hne : ("int" : WideText) ≠ "is_safe" := by decide
  have hsafe : t.attribute? [(key, number)] "is_safe" = none := by
    simp [Store.attribute?, hkey, hne]
  refine .bind (Machine.gives_pop y) (.bind (Machine.gives_top x)
    (.bind (Machine.gives_object hx) (.bind (Machine.gives_dictAt hy) (.bind .get ?_))))
  simp only [hnumber, hsafe]
  exact .bind (.orFail _) (Machine.gives_change _ _)

end State

end Wire

end ServiceStubs
