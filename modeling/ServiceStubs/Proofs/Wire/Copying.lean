import Mathlib.Logic.Function.Basic
import ServiceStubs.Proofs.Wire.Alike

/-!
# What stays while a value is copied

While a copy of a value grows, objects are added and an unfinished object may change, but what bears
a label stays. So what is known of a place can be known for good, and the places that a writer puts
on the stack of the machine can be described by their signs.

## Main definitions

* `World.Le`: what was there stays
* `World.Names`: the objects that stand for an identity
* `Sign`: what is known of a place for good

## Main statements

* `World.names_iff_copy`: what stands for the identity of an object is a copy of it
-/

namespace ServiceStubs

namespace Wire

/-- The text that is written for a name. -/
def Identity.spelling? : Identity → Option WideText
  | text t => some t
  | safeModule name => some name
  | numberField => some "int"
  | _ => none

/-- Whether an identity is that of a class, or of a name that is written for one or for a state. -/
def Identity.isName : Identity → Bool
  | ofClass _ => true
  | i => i.spelling?.isSome

/-! ### What stays -/

namespace World

variable {s : Store} {w w' w'' : World} {a x : Ref} {o : Object} {l : Option Identity}
  {i : Identity}

/-- What was there stays as it is. -/
structure Le (w w' : World) : Prop where
  size_le : w.store.size ≤ w'.store.size
  get? : ∀ x < w.store.size, w'.store.get? x = w.store.get? x
  label : ∀ x < w.store.size, w'.label x = w.label x

theorem Le.refl (w : World) : w.Le w := ⟨Nat.le_refl _, fun _ _ => rfl, fun _ _ => rfl⟩

theorem Le.trans (h : w.Le w') (h' : w'.Le w'') : w.Le w'' where
  size_le := Nat.le_trans h.size_le h'.size_le
  get? x hx := (h'.get? x (Nat.lt_of_lt_of_le hx h.size_le)).trans (h.get? x hx)
  label x hx := (h'.label x (Nat.lt_of_lt_of_le hx h.size_le)).trans (h.label x hx)

theorem Le.get?_some (h : w.Le w') (ho : w.store.get? x = some o) : w'.store.get? x = some o :=
  (h.get? x (Store.lt_size_of_get? ho)).trans ho

theorem Le.keeps (h : w.Le w') : w.Keeps w' := fun x _ _ hi ho =>
  ⟨(h.label x (Store.lt_size_of_get? ho)).trans hi, h.get?_some ho⟩

/-- The world with an object more, and its label. -/
def add (w : World) (o : Object) (l : Option Identity) : World :=
  ⟨(w.store.add o).2, Function.update w.label w.store.size l⟩

theorem size_add (s : Store) (o : Object) : (s.add o).2.size = s.size + 1 := by
  simp [Store.add, Store.size]

theorem get?_add_self (w : World) (o : Object) (l : Option Identity) :
    (w.add o l).store.get? w.store.size = some o := by
  simp only [add, Store.get?_add, if_true]

theorem label_add_self (w : World) (o : Object) (l : Option Identity) :
    (w.add o l).label w.store.size = l := by
  simp only [add, Function.update_self]

theorem le_add (w : World) (o : Object) (l : Option Identity) : w.Le (w.add o l) where
  size_le := by
    simp only [add, size_add]
    omega
  get? x hx := by
    simp only [add, Store.get?_add]
    rw [if_neg (Nat.ne_of_lt hx)]
  label x hx := by
    simp only [add]
    rw [Function.update_of_ne (Nat.ne_of_lt hx)]

/-- The objects that stand for an identity: copies, and objects that are one wherever they
occur. -/
def Names (s : Store) (w : World) (i : Identity) (x : Ref) : Prop :=
  w.label x = some i ∧
    match i with
    | .place r => w.Copy s r x
    | .text t => ∃ shared, w.store.get? x = some (.text t shared)
    | .bytes bs => ∃ shared, w.store.get? x = some (.bytes bs shared)
    | .utc => w.store.get? x = some .utc
    | .ofClass c => w.store.get? x = some (.ofClass c)
    | .safeModule name => ∃ shared, w.store.get? x = some (.text name shared)
    | .numberField => ∃ shared, w.store.get? x = some (.text "int" shared)

theorem Names.keeps (h : w.Names s i x) (hle : w.Keeps w') : w'.Names s i x := by
  obtain ⟨hlabel, h⟩ := h
  have hthere : ∃ o, w.store.get? x = some o := by
    cases i with
    | place r =>
      obtain ⟨_, o, _, ho, _⟩ := Copy.like h
      exact ⟨o, ho⟩
    | utc | ofClass => exact ⟨_, h⟩
    | text | bytes | safeModule | numberField =>
      obtain ⟨_, h⟩ := h
      exact ⟨_, h⟩
  obtain ⟨o, ho⟩ := hthere
  obtain ⟨hlabel', ho'⟩ := hle _ _ _ hlabel ho
  refine ⟨hlabel', ?_⟩
  cases i with
  | place r => exact Copy.keeps h hle
  | utc | ofClass | text | bytes | safeModule | numberField => simpa only [ho, ho'] using h

/-- What is told apart by a spelling is a text that spells it. -/
theorem names_iff_text {t : WideText} (h : i.spelling? = some t) : w.Names s i x ↔
    w.label x = some i ∧ ∃ shared, w.store.get? x = some (.text t shared) := by
  cases i <;> cases h <;> rfl

/-- A copy stands for the identity of its original. -/
theorem names_iff_copy (ho : s.get? a = some o) : w.Names s (o.identity a) x ↔ w.Copy s a x := by
  have hcopy {o' : Object} (hx : w.store.get? x = some o') (hlabel : w.label x = some (o.identity a))
      (hskeleton : o'.skeleton = o.skeleton) (hparts : o.parts = []) : w.Copy s a x :=
    copy_of_like ho hx hlabel (Object.like_of_parts hskeleton hparts)
  constructor
  · rintro ⟨hlabel, h⟩
    rcases o.identity_cases a with hplace | ⟨t, rfl⟩ | ⟨bs, rfl⟩ | rfl | ⟨c, rfl⟩
    · rwa [hplace] at h
    · obtain ⟨shared, h⟩ := h
      exact hcopy h hlabel rfl rfl
    · obtain ⟨shared, h⟩ := h
      exact hcopy h hlabel rfl rfl
    · exact hcopy h hlabel rfl rfl
    · exact hcopy h hlabel rfl rfl
  · intro h
    obtain ⟨o', x', ho', hx', hlabel, hlike⟩ := h.like
    rw [ho] at ho'
    cases ho'
    refine ⟨hlabel, ?_⟩
    rcases o.identity_cases a with hplace | ⟨t, rfl⟩ | ⟨bs, rfl⟩ | rfl | ⟨c, rfl⟩
    · rwa [hplace]
    · obtain ⟨shared, rfl⟩ := Object.eq_text_of_skeleton hlike.skeleton
      exact ⟨shared, hx'⟩
    · obtain ⟨shared, rfl⟩ := Object.eq_bytes_of_skeleton hlike.skeleton
      exact ⟨shared, hx'⟩
    · obtain rfl := Object.eq_of_isLeaf hlike.skeleton rfl
      exact hx'
    · obtain rfl := Object.eq_of_isLeaf hlike.skeleton rfl
      exact hx'

/-- A new object that is like the original is a copy of it once it bears its label. -/
theorem copy_add {o' : Object} (ho : s.get? a = some o) (h : o.Like (w.Copy s) o') :
    (w.add o' (some (o.identity a))).Copy s a w.store.size :=
  copy_of_like ho (get?_add_self ..) (label_add_self ..)
    (h.mono fun _ _ hcopy => hcopy.keeps (le_add ..).keeps)

end World

/-! ### Signs -/

/-- What is known of a place, and stays so. -/
structure Sign where
  holds : World → Ref → Prop
  mono : ∀ {w w' : World} {x : Ref}, w.Le w' → holds w x → holds w' x

namespace Sign

variable {s : Store}

/-- An object stands at the place. -/
def object (o : Object) : Sign where
  holds w x := w.store.get? x = some o
  mono hle h := hle.get?_some h

/-- A text stands at the place. -/
def text (t : WideText) : Sign where
  holds w x := ∃ shared, w.store.get? x = some (.text t shared)
  mono := by
    rintro w w' x hle ⟨shared, h⟩
    exact ⟨shared, hle.get?_some h⟩

theorem text?_of_text {w : World} {x : Ref} {t : WideText} (h : (text t).holds w x) :
    w.store.text? x = some t := by
  obtain ⟨shared, hx⟩ := h
  simp only [Store.text?, hx]

/-- Bytes stand at the place. -/
def bytes (bs : List UInt8) : Sign where
  holds w x := ∃ shared, w.store.get? x = some (.bytes bs shared)
  mono := by
    rintro w w' x hle ⟨shared, h⟩
    exact ⟨shared, hle.get?_some h⟩

/-- An object for an identity stands at the place. -/
def names (s : Store) (i : Identity) : Sign where
  holds w x := w.Names s i x
  mono hle h := h.keeps hle.keeps

/-- A copy of a value stands at the place. -/
def copy (s : Store) (a : Ref) : Sign where
  holds w x := w.Copy s a x
  mono hle h := h.keeps hle.keeps

/-- Places bear the signs of a list, in their order. -/
def All (ps : List Sign) (w : World) (xs : List Ref) : Prop :=
  List.Forall₂ (fun p x => p.holds w x) ps xs

variable {w w' : World} {ps qs : List Sign} {xs ys : List Ref}

theorem All.mono (h : All ps w xs) (hle : w.Le w') : All ps w' xs :=
  h.imp fun p _ hx => p.mono hle hx

theorem All.append (h : All ps w xs) (h' : All qs w ys) : All (ps ++ qs) w (xs ++ ys) :=
  List.rel_append h h'

theorem all_nil : All [] w xs ↔ xs = [] := List.forall₂_nil_left_iff

theorem all_cons {p : Sign} :
    All (p :: ps) w xs ↔ ∃ x ys, xs = x :: ys ∧ p.holds w x ∧ All ps w ys := by
  refine List.forall₂_cons_left_iff.trans ⟨?_, ?_⟩
  · rintro ⟨x, ys, hx, hys, rfl⟩
    exact ⟨x, ys, rfl, hx, hys⟩
  · rintro ⟨x, ys, rfl, hx, hys⟩
    exact ⟨x, ys, hx, hys, rfl⟩

theorem all_copies {as : List Ref} :
    All (as.map (copy s)) w xs ↔ List.Forall₂ (w.Copy s) as xs := by
  unfold All
  rw [List.forall₂_map_left_iff]
  rfl

/-- A tuple of places with signs stands at the place. -/
def tuple (ps : List Sign) : Sign where
  holds w x := ∃ xs, w.store.get? x = some (.tuple xs) ∧ All ps w xs
  mono := by
    rintro w w' x hle ⟨xs, hx, hps⟩
    exact ⟨xs, hle.get?_some hx, hps.mono hle⟩

end Sign

end Wire

end ServiceStubs
