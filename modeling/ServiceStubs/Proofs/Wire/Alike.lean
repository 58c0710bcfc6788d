import ServiceStubs.Proofs.Except
import ServiceStubs.Proofs.Wire.Parts
import ServiceStubs.Wire.Equality

/-!
# Values that are alike

Two places, each in its store, hold alike values when their objects are the same up to the places
of their parts, and the parts are alike in their order. Where the objects of one value stand and
which of its parts are one object may differ.

A copy of a value is more than alike: it is labelled with what it is a copy of. So two copies that
are one object are copies of one object, and keys that are two stay two when they are copied.

## Main definitions

* `Object.skeleton`: an object without the places of its parts
* `Store.Alike`: values that are alike
* `World.Copy`: a labelled copy of a value

## Main statements

* `World.Copy.isKey`, `World.Copy.same`: copies of keys are keys, and they are one only if the keys
  are
-/

namespace ServiceStubs

namespace Wire

/-- An object without the places of its parts, and without the mark of texts and bytes that are one
object wherever they occur. -/
def Object.skeleton : Object → Object
  | text t _ => text t false
  | bytes bs _ => bytes bs false
  | tuple items => tuple (items.map fun _ => 0)
  | list items => list (items.map fun _ => 0)
  | dict entries => dict (entries.map fun _ => (0, 0))
  | set items => set (items.map fun _ => 0)
  | frozenSet items => frozenSet (items.map fun _ => 0)
  | slice _ _ _ => slice 0 0 0
  | orderedDict entries => orderedDict (entries.map fun _ => (0, 0))
  | deque items limit => deque (items.map fun _ => 0) limit
  | datetime d c zone => datetime d c (zone.map fun _ => 0)
  | time c zone => time c (zone.map fun _ => 0)
  | timezone _ name => timezone 0 (name.map fun _ => 0)
  | uuid number => uuid (number.map fun _ => 0)
  | .instance id attributes => .instance id (attributes.map fun _ => (0, 0))
  | view _ => view 0
  | o => o

attribute [local simp] Object.skeleton

/-- Places that hold alike values: objects that are the same up to the places of their parts, and
alike parts. -/
inductive Store.Alike (s t : Store) : Ref → Ref → Prop
  | intro {r r' : Ref} {o o' : Object} (ho : s.get? r = some o) (ho' : t.get? r' = some o')
    (hskeleton : o'.skeleton = o.skeleton) (hparts : ∀ p ∈ o.parts.zip o'.parts, Alike s t p.1 p.2) :
    Alike s t r r'

/-- A store with labels, which tell of finished objects what they are copies of. -/
structure World where
  store : Store
  label : Ref → Option Identity

/-- A copy of a value, each object of which bears the label of the object that it was made from. -/
inductive World.Copy (s : Store) (w : World) : Ref → Ref → Prop
  | intro {r r' : Ref} {o o' : Object} (ho : s.get? r = some o) (ho' : w.store.get? r' = some o')
    (hlabel : w.label r' = some (o.identity r)) (hskeleton : o'.skeleton = o.skeleton)
    (hparts : ∀ p ∈ o.parts.zip o'.parts, Copy s w p.1 p.2) : Copy s w r r'

/-- Objects that are the same up to the places of their parts, which are related. -/
structure Object.Like (R : Ref → Ref → Prop) (o o' : Object) : Prop where
  skeleton : o'.skeleton = o.skeleton
  parts : List.Forall₂ R o.parts o'.parts

namespace Object

theorem length_parts_skeleton (o : Object) : o.skeleton.parts.length = o.parts.length := by
  cases o <;> simp [parts, Option.toList_map]

theorem length_parts_eq {o o' : Object} (h : o'.skeleton = o.skeleton) :
    o.parts.length = o'.parts.length := by
  rw [← length_parts_skeleton o, ← h, length_parts_skeleton]

theorem like_of_zip {R : Ref → Ref → Prop} {o o' : Object} (h : o'.skeleton = o.skeleton)
    (hparts : ∀ p ∈ o.parts.zip o'.parts, R p.1 p.2) : o.Like R o' :=
  ⟨h, List.forall₂_iff_zip.2 ⟨length_parts_eq h, fun hp => hparts _ hp⟩⟩

/-- An object without parts is like every object that is the same but for their places. -/
theorem like_of_parts {R : Ref → Ref → Prop} {o o' : Object} (h : o'.skeleton = o.skeleton)
    (hparts : o.parts = []) : o.Like R o' :=
  like_of_zip h (by simp [hparts])

theorem Like.zip {R : Ref → Ref → Prop} {o o' : Object} (h : o.Like R o') :
    ∀ p ∈ o.parts.zip o'.parts, R p.1 p.2 :=
  fun _ hp => (List.forall₂_iff_zip.1 h.parts).2 hp

theorem Like.mono {R R' : Ref → Ref → Prop} {o o' : Object} (h : o.Like R o')
    (hle : ∀ a b, R a b → R' a b) : o.Like R' o' :=
  ⟨h.skeleton, h.parts.imp hle⟩

/-! ### The skeleton tells the kind -/

variable {o : Object}

/-- An object without parts that is not a text or bytes is its own skeleton. -/
def isLeaf : Object → Bool
  | none | bool _ | int _ | float _ | byteArray _ | complex _ _ | range _ _ _ | date _
  | timedelta _ | utc | decimal _ | ofClass _ | locked => true
  | _ => false

theorem eq_of_skeleton {x : Object} (h : o.skeleton = x) (hx : x.isLeaf) : o = x := by
  subst h
  cases o <;> first | rfl | cases hx

theorem eq_of_isLeaf {o' : Object} (h : o'.skeleton = o.skeleton) (ho : o.isLeaf) : o' = o := by
  have hself : o.skeleton = o := by cases o <;> first | rfl | cases ho
  exact eq_of_skeleton (h.trans hself) ho

theorem eq_text_of_skeleton {t : WideText} (h : o.skeleton = text t false) :
    ∃ shared, o = text t shared := by
  cases o <;> simp at h ⊢
  exact h

theorem eq_bytes_of_skeleton {bs : List UInt8} (h : o.skeleton = bytes bs false) :
    ∃ shared, o = bytes bs shared := by
  cases o <;> simp at h ⊢
  exact h

theorem eq_tuple_of_skeleton {items : List Ref} (h : o.skeleton = tuple items) :
    ∃ items', o = tuple items' := by
  cases o <;> simp at h ⊢

theorem eq_frozenSet_of_skeleton {items : List Ref} (h : o.skeleton = frozenSet items) :
    ∃ items', o = frozenSet items' := by
  cases o <;> simp at h ⊢

theorem eq_datetime_of_skeleton {d : Date} {c : Clock} {z : Option Ref}
    (h : o.skeleton = datetime d c z) : ∃ z', o = datetime d c z' := by
  cases o <;> simp at h ⊢
  exact ⟨h.1, h.2.1⟩

theorem eq_time_of_skeleton {c : Clock} {z : Option Ref} (h : o.skeleton = time c z) :
    ∃ z', o = time c z' := by
  cases o <;> simp at h ⊢
  exact h.1

theorem eq_timezone_of_skeleton {p : Ref} {name : Option Ref}
    (h : o.skeleton = timezone p name) : ∃ p' name', o = timezone p' name' := by
  cases o <;> simp at h ⊢

theorem eq_uuid_of_skeleton {n : Ref} (h : o.skeleton = uuid (some n)) :
    ∃ n', o = uuid (some n') := by
  cases o <;> simp at h ⊢
  exact h.1

/-- An object is told apart by its place, or it is of a kind that is one object wherever it
occurs. -/
theorem identity_cases (o : Object) (r : Ref) :
    o.identity r = .place r ∨ (∃ t, o = text t true) ∨ (∃ bs, o = bytes bs true) ∨ o = utc ∨
      ∃ c, o = ofClass c := by
  unfold identity
  split <;> simp

/-- Two objects of one identity stand at one place, or they are of a kind that is one object
wherever it occurs. -/
theorem identity_eq {o o' : Object} {a b : Ref} (h : o.identity a = o'.identity b) :
    a = b ∨ o = o' ∧
      ((∃ t, o = text t true) ∨ (∃ bs, o = bytes bs true) ∨ o = utc ∨ ∃ c, o = ofClass c) := by
  unfold identity at h
  split at h <;> split at h <;> simp_all

theorem real?_skeleton (o : Object) : o.skeleton.real? = o.real? := by
  cases o <;> rfl

end Object

/-! ### Comparing -/

/-- Two objects of one kind that are compared by their fields or parts. -/
inductive Object.Paired : Object → Object → Prop
  | int (m n : Int) : Paired (.int m) (.int n)
  | text (t u : WideText) (b c : Bool) : Paired (.text t b) (.text u c)
  | bytes (bs cs : List UInt8) (b c : Bool) : Paired (.bytes bs b) (.bytes cs c)
  | none : Paired .none .none
  | utc : Paired .utc .utc
  | ofClass (c d : Class) : Paired (.ofClass c) (.ofClass d)
  | tuple (xs ys : List Ref) : Paired (.tuple xs) (.tuple ys)
  | frozenSet (xs ys : List Ref) : Paired (.frozenSet xs) (.frozenSet ys)
  | range (p q r p' q' r' : Int) : Paired (.range p q r) (.range p' q' r')
  | date (d e : Date) : Paired (.date d) (.date e)
  | datetime (d d' : Date) (c c' : Clock) (z z' : Option Ref) :
    Paired (.datetime d c z) (.datetime d' c' z')
  | time (c c' : Clock) (z z' : Option Ref) : Paired (.time c z) (.time c' z')
  | timedelta (d e : Duration) : Paired (.timedelta d) (.timedelta e)
  | uuid (m n : Ref) : Paired (.uuid (some m)) (.uuid (some n))

/-- How two objects are compared that are not of one such kind: as time zones, as numbers, or as
complex numbers. -/
def Object.sameOther (za zb : Option Duration) (x y : Object) : Bool :=
  match za, zb with
  | some m, some n => m == n
  | _, _ =>
    match x.real?, y.real? with
    | some m, some n => sameReal m n
    | _, _ =>
      match x, y with
      | .complex p q, .complex p' q' =>
        sameReal (.ofBinary64 p) (.ofBinary64 p') && sameReal (.ofBinary64 q) (.ofBinary64 q')
      | _, _ => false

theorem Object.Paired.of_skeleton {x y x' y' : Object} (h : Paired x' y')
    (hx : x'.skeleton = x.skeleton) (hy : y'.skeleton = y.skeleton) : Paired x y := by
  cases h with
  | int | none | utc | ofClass | range | date | timedelta =>
    rw [eq_of_isLeaf hx.symm rfl, eq_of_isLeaf hy.symm rfl]
    constructor
  | text =>
    obtain ⟨_, rfl⟩ := eq_text_of_skeleton hx.symm
    obtain ⟨_, rfl⟩ := eq_text_of_skeleton hy.symm
    constructor
  | bytes =>
    obtain ⟨_, rfl⟩ := eq_bytes_of_skeleton hx.symm
    obtain ⟨_, rfl⟩ := eq_bytes_of_skeleton hy.symm
    constructor
  | tuple =>
    obtain ⟨_, rfl⟩ := eq_tuple_of_skeleton hx.symm
    obtain ⟨_, rfl⟩ := eq_tuple_of_skeleton hy.symm
    constructor
  | frozenSet =>
    obtain ⟨_, rfl⟩ := eq_frozenSet_of_skeleton hx.symm
    obtain ⟨_, rfl⟩ := eq_frozenSet_of_skeleton hy.symm
    constructor
  | datetime =>
    obtain ⟨_, rfl⟩ := eq_datetime_of_skeleton hx.symm
    obtain ⟨_, rfl⟩ := eq_datetime_of_skeleton hy.symm
    constructor
  | time =>
    obtain ⟨_, rfl⟩ := eq_time_of_skeleton hx.symm
    obtain ⟨_, rfl⟩ := eq_time_of_skeleton hy.symm
    constructor
  | uuid =>
    obtain ⟨_, rfl⟩ := eq_uuid_of_skeleton hx.symm
    obtain ⟨_, rfl⟩ := eq_uuid_of_skeleton hy.symm
    constructor

theorem Object.sameOther_skeleton {x y x' y' : Object} (za zb : Option Duration)
    (hx : x'.skeleton = x.skeleton) (hy : y'.skeleton = y.skeleton) :
    sameOther za zb x' y' = sameOther za zb x y := by
  have hreal {o o' : Object} (h : o'.skeleton = o.skeleton) : o'.real? = o.real? := by
    rw [← real?_skeleton o', h, real?_skeleton]
  simp only [sameOther, hreal hx, hreal hy]
  split
  · rfl
  · split
    · rfl
    · split
      · rw [eq_of_isLeaf hx.symm rfl, eq_of_isLeaf hy.symm rfl]
      · rename_i hneg
        split
        · exact (hneg _ _ _ _ (eq_of_isLeaf hx rfl) (eq_of_isLeaf hy rfl)).elim
        · rfl

/-- Objects that are not of one such kind are compared otherwise, unless they are one. -/
theorem Store.sameWithin_other {s : Store} {a b : Ref} {x y : Object} (f : Nat)
    (hx : s.get? a = some x) (hy : s.get? b = some y) (h : ¬ Object.Paired x y) :
    s.sameWithin (f + 1) a b =
      (a == b || Object.sameOther (s.zoneOffset? a) (s.zoneOffset? b) x y) := by
  unfold sameWithin
  rw [hx, hy]
  split
  case h_15 hx hy =>
    cases hx
    cases hy
    rfl
  case h_16 hneg => exact (hneg _ _ rfl rfl).elim
  all_goals
    rename_i hx hy
    cases hx
    cases hy
    exact absurd (by constructor) h

/-! ### Copies -/

namespace World

variable {s : Store} {w : World} {a b x y : Ref}

theorem Copy.like (h : w.Copy s a x) :
    ∃ o o', s.get? a = some o ∧ w.store.get? x = some o' ∧ w.label x = some (o.identity a) ∧
      o.Like (w.Copy s) o' := by
  cases h with
  | intro ho ho' hlabel hskeleton hparts =>
    exact ⟨_, _, ho, ho', hlabel, Object.like_of_zip hskeleton hparts⟩

theorem copy_of_like {o o' : Object} (ho : s.get? a = some o) (ho' : w.store.get? x = some o')
    (hlabel : w.label x = some (o.identity a)) (h : o.Like (w.Copy s) o') : w.Copy s a x :=
  .intro ho ho' hlabel h.skeleton h.zip

theorem Copy.alike (h : w.Copy s a x) : s.Alike w.store a x := by
  induction h with
  | intro ho ho' _ hskeleton _ ih => exact .intro ho ho' hskeleton ih

/-- What is labelled stays as it is. -/
def Keeps (w w' : World) : Prop :=
  ∀ x i o, w.label x = some i → w.store.get? x = some o →
    w'.label x = some i ∧ w'.store.get? x = some o

theorem Copy.keeps {w' : World} (h : w.Copy s a x) (hle : w.Keeps w') : w'.Copy s a x := by
  induction h with
  | intro ho ho' hlabel hskeleton _ ih =>
    obtain ⟨hlabel', ho'⟩ := hle _ _ _ hlabel ho'
    exact .intro ho ho' hlabel' hskeleton ih

/-- A copy of an object without parts is the same. -/
theorem Copy.get?_leaf {o : Object} (h : w.Copy s a x) (ho : s.get? a = some o) (hleaf : o.isLeaf) :
    w.store.get? x = some o := by
  obtain ⟨o₁, o', ho₁, ho', -, hskeleton, -⟩ := h.like
  rw [ho] at ho₁
  cases ho₁
  rwa [Object.eq_of_isLeaf hskeleton hleaf] at ho'

theorem Copy.get?_text {t : WideText} {shared : Bool} (h : w.Copy s a x)
    (ho : s.get? a = some (.text t shared)) : ∃ shared', w.store.get? x = some (.text t shared') := by
  obtain ⟨o₁, o', ho₁, ho', -, hskeleton, -⟩ := h.like
  rw [ho] at ho₁
  cases ho₁
  obtain ⟨shared', rfl⟩ := Object.eq_text_of_skeleton hskeleton
  exact ⟨shared', ho'⟩

theorem Copy.shallow (h : w.Copy s a x) : ∃ n, w.store.Shallow n x := by
  induction h with
  | @intro r r' o o' ho ho' _ hskeleton _ ih =>
    have hparts : ∀ p ∈ o'.parts, ∃ n, w.store.Shallow n p := by
      have hlength := Object.length_parts_eq hskeleton
      intro p hp
      obtain ⟨i, hi, rfl⟩ := List.getElem_of_mem hp
      refine ih (o.parts[i], o'.parts[i]) ?_
      rw [← List.getElem_zip (h := by simp; omega)]
      exact List.getElem_mem _
    obtain ⟨n, hn⟩ := Store.exists_shallow hparts
    exact ⟨n + 1, o', ho', hn⟩

/-- A copy of one object is a copy of what is one with it. -/
theorem Copy.identity_eq {oa ob : Object} (ha : w.Copy s a x) (hb : w.Copy s b x)
    (hoa : s.get? a = some oa) (hob : s.get? b = some ob) : oa.identity a = ob.identity b := by
  obtain ⟨oa', _, hoa', _, hla, _⟩ := ha.like
  obtain ⟨ob', _, hob', _, hlb, _⟩ := hb.like
  rw [hoa] at hoa'
  rw [hob] at hob'
  cases hoa'
  cases hob'
  exact Option.some.inj (hla.symm.trans hlb)

theorem same_of_identity {oa ob : Object} (hoa : s.get? a = some oa) (hob : s.get? b = some ob)
    (h : oa.identity a = ob.identity b) (f : Nat) : s.sameWithin (f + 1) a b := by
  unfold Store.sameWithin
  rw [Bool.or_eq_true, hoa, hob]
  rcases Object.identity_eq h with rfl | ⟨rfl, ⟨t, rfl⟩ | ⟨bs, rfl⟩ | rfl | ⟨c, rfl⟩⟩
  · exact .inl (by simp)
  · exact .inr (by simp)
  · exact .inr (by simp)
  · exact .inr rfl
  · exact .inr (by simp)

/-- The difference of a time zone is that of its copy. -/
theorem Copy.zoneOffset? (h : w.Copy s a x) : w.store.zoneOffset? x = s.zoneOffset? a := by
  obtain ⟨o, o', ho, ho', -, hskeleton, hparts⟩ := h.like
  unfold Store.zoneOffset?
  rw [ho, ho']
  cases o with
  | utc =>
    obtain rfl := Object.eq_of_skeleton hskeleton rfl
    rfl
  | timezone p name =>
    obtain ⟨p', name', rfl⟩ := Object.eq_timezone_of_skeleton hskeleton
    obtain ⟨q, q', hq, hq', -, hskeleton, -⟩ := (List.forall₂_cons.1 hparts).1.like
    simp only [hq, hq']
    cases q with
    | timedelta d =>
      obtain rfl := Object.eq_of_skeleton hskeleton rfl
      rfl
    | _ => cases q' <;> simp [Object.skeleton] at hskeleton ⊢
  | _ => cases o' <;> simp [Object.skeleton] at hskeleton ⊢

/-- The difference of a time is that of its copy. -/
theorem offset?_eq {z z' : Option Ref} (h : List.Forall₂ (w.Copy s) z.toList z'.toList) :
    w.store.offset? z' = s.offset? z := by
  cases z with
  | none =>
    cases z' with
    | none => rfl
    | some x => cases h
  | some a =>
    cases z' with
    | none => cases h
    | some x =>
      have hx := (List.forall₂_cons.1 h).1.zoneOffset?
      simp only [Store.offset?, Option.bind_some, hx]

theorem exists_of_zip {R : Ref → Ref → Prop} {as xs bs ys : List Ref}
    (ha : List.Forall₂ R as xs) (hb : List.Forall₂ R bs ys) {p : Ref × Ref} (hp : p ∈ as.zip bs) :
    ∃ q ∈ xs.zip ys, R p.1 q.1 ∧ R p.2 q.2 := by
  induction ha generalizing bs ys with
  | nil => simp at hp
  | cons hax _ ih =>
    cases hb with
    | nil => simp at hp
    | cons hby hb =>
      rcases List.mem_cons.1 hp with rfl | hp
      · exact ⟨_, List.mem_cons_self, hax, hby⟩
      · obtain ⟨q, hq, hr⟩ := ih hb hp
        exact ⟨q, List.mem_cons_of_mem _ hq, hr⟩

/-- Objects that are the same up to the places of their parts are compared alike, when their parts
are and the differences of time zones agree. -/
theorem Copy.same_within {n f f' : Nat} (hs : s.Shallow n a) (hn : n ≤ f') (ha : w.Copy s a x)
    (hb : w.Copy s b y) (h : w.store.sameWithin f x y) : s.sameWithin f' a b := by
  induction n generalizing a b x y f f' with
  | zero => exact hs.elim
  | succ n ih =>
    obtain ⟨f', rfl⟩ : ∃ k, f' = k + 1 := ⟨f' - 1, by omega⟩
    obtain ⟨oa, ox, hoa, hox, -, hska, hpa⟩ := ha.like
    obtain ⟨ob, oy, hob, hoy, -, hskb, hpb⟩ := hb.like
    have hone (hxy : x = y) : s.sameWithin (f' + 1) a b := by
      subst hxy
      exact same_of_identity hoa hob (ha.identity_eq hb hoa hob) f'
    cases f with
    | zero => exact hone (by simpa [Store.sameWithin] using h)
    | succ f =>
      have hpart : ∀ c ∈ oa.parts, s.Shallow n c := fun c hc => hs.part hoa hc
      by_cases hpaired : Object.Paired oa ob
      · unfold Store.sameWithin at h
        rw [Bool.or_eq_true, beq_iff_eq, hox, hoy] at h
        rcases h with hxy | h
        · exact hone hxy
        unfold Store.sameWithin
        rw [Bool.or_eq_true, hoa, hob]
        right
        cases hpaired with
        | int | none | utc | ofClass | range | date | timedelta =>
          obtain rfl := Object.eq_of_isLeaf hska rfl
          obtain rfl := Object.eq_of_isLeaf hskb rfl
          exact h
        | text =>
          obtain ⟨_, rfl⟩ := Object.eq_text_of_skeleton hska
          obtain ⟨_, rfl⟩ := Object.eq_text_of_skeleton hskb
          exact h
        | bytes =>
          obtain ⟨_, rfl⟩ := Object.eq_bytes_of_skeleton hska
          obtain ⟨_, rfl⟩ := Object.eq_bytes_of_skeleton hskb
          exact h
        | tuple =>
          obtain ⟨xs, rfl⟩ := Object.eq_tuple_of_skeleton hska
          obtain ⟨ys, rfl⟩ := Object.eq_tuple_of_skeleton hskb
          simp only [Bool.and_eq_true, beq_iff_eq, List.all_eq_true] at h ⊢
          refine ⟨(hpa.length_eq.trans h.1).trans hpb.length_eq.symm, fun p hp => ?_⟩
          obtain ⟨q, hq, ha, hb⟩ := exists_of_zip hpa hpb hp
          exact ih (hpart _ (List.of_mem_zip hp).1) (by omega) ha hb (h.2 q hq)
        | frozenSet =>
          obtain ⟨xs, rfl⟩ := Object.eq_frozenSet_of_skeleton hska
          obtain ⟨ys, rfl⟩ := Object.eq_frozenSet_of_skeleton hskb
          simp only [Bool.and_eq_true, beq_iff_eq, List.all_eq_true, List.any_eq_true] at h ⊢
          refine ⟨(hpa.length_eq.trans h.1).trans hpb.length_eq.symm, fun a ha => ?_⟩
          obtain ⟨x, hx, hax⟩ := (exists_of_forall₂ hpa).1 a ha
          obtain ⟨y, hy, hxy⟩ := h.2 x hx
          obtain ⟨b, hb, hby⟩ := (exists_of_forall₂ hpb).2 y hy
          exact ⟨b, hb, ih (hpart a ha) (by omega) hax hby hxy⟩
        | datetime =>
          obtain ⟨_, rfl⟩ := Object.eq_datetime_of_skeleton hska
          obtain ⟨_, rfl⟩ := Object.eq_datetime_of_skeleton hskb
          simpa only [Store.sameMoment, offset?_eq hpa, offset?_eq hpb] using h
        | time =>
          obtain ⟨_, rfl⟩ := Object.eq_time_of_skeleton hska
          obtain ⟨_, rfl⟩ := Object.eq_time_of_skeleton hskb
          simpa only [Store.sameClock, offset?_eq hpa, offset?_eq hpb] using h
        | uuid m =>
          obtain ⟨_, rfl⟩ := Object.eq_uuid_of_skeleton hska
          obtain ⟨_, rfl⟩ := Object.eq_uuid_of_skeleton hskb
          exact ih (hpart m (by simp [Object.parts])) (by omega) (List.forall₂_cons.1 hpa).1
            (List.forall₂_cons.1 hpb).1 h
      · have hpaired' : ¬ Object.Paired ox oy := fun hp => hpaired (hp.of_skeleton hska hskb)
        rw [Store.sameWithin_other f hox hoy hpaired', ha.zoneOffset?, hb.zoneOffset?,
          Object.sameOther_skeleton _ _ hska hskb, Bool.or_eq_true, beq_iff_eq] at h
        rcases h with hxy | h
        · exact hone hxy
        · rw [Store.sameWithin_other f' hoa hob hpaired, h, Bool.or_true]

/-- **Copies of two keys are two keys.** -/
theorem Copy.same (hs : s.Shallow s.size a) (ha : w.Copy s a x) (hb : w.Copy s b y)
    (h : s.same a b = false) : w.store.same x y = false := by
  cases hxy : w.store.same x y with
  | false => rfl
  | true =>
    have hab : s.same a b = true := ha.same_within hs (Nat.le_succ _) hb hxy
    rw [h] at hab
    cases hab

theorem Copy.isKeyWithin {f f' : Nat} (hx : w.store.Shallow f' x) (ha : w.Copy s a x)
    (h : s.isKeyWithin f a) : w.store.isKeyWithin f' x := by
  induction f generalizing a x f' with
  | zero => cases h
  | succ f ih =>
    obtain ⟨f', rfl⟩ : ∃ k, f' = k + 1 := by
      cases f' with
      | zero => exact hx.elim
      | succ k => exact ⟨k, rfl⟩
    obtain ⟨o, o', ho, ho', -, hskeleton, hparts⟩ := ha.like
    unfold Store.isKeyWithin at h ⊢
    rw [ho] at h
    rw [ho']
    cases o with
    | tuple items =>
      obtain ⟨items', rfl⟩ := Object.eq_tuple_of_skeleton hskeleton
      simp only [List.all_eq_true] at h ⊢
      intro x' hx'
      obtain ⟨a', ha', hcopy⟩ := (exists_of_forall₂ hparts).2 x' hx'
      exact ih (hx.part ho' hx') hcopy (h a' ha')
    | uuid number =>
      cases number with
      | none => cases h
      | some m =>
        obtain ⟨m', rfl⟩ := Object.eq_uuid_of_skeleton hskeleton
        exact ih (hx.part ho' (by simp [Object.parts])) (List.forall₂_cons.1 hparts).1 h
    | decimal d =>
      obtain rfl := Object.eq_of_isLeaf hskeleton rfl
      cases d <;> exact h
    | datetime =>
      obtain ⟨_, rfl⟩ := Object.eq_datetime_of_skeleton hskeleton
      exact h
    | time =>
      obtain ⟨_, rfl⟩ := Object.eq_time_of_skeleton hskeleton
      exact h
    | list | dict | set | byteArray | slice | orderedDict | deque | view => cases h
    | _ => cases o' <;> simp [Object.skeleton] at hskeleton ⊢

/-- **A copy of a key is a key.** -/
theorem Copy.isKey (ha : w.Copy s a x) (h : s.isKey a) : w.store.isKey x := by
  obtain ⟨n, hn⟩ := ha.shallow
  exact ha.isKeyWithin (hn.size.mono (Nat.le_succ _)) h

end World

end Wire

end ServiceStubs
