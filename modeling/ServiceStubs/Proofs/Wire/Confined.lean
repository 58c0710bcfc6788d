import Mathlib.Data.List.Basic
import Mathlib.Tactic.SplitIfs
import ServiceStubs.Proofs.Wire.Parts
import ServiceStubs.Wire.Conduct
import ServiceStubs.Wire.Construct

/-!
# What the safe classes make

Objects that are made while a message is read refer to each other only, and they are of the classes
that the message named. Objects that were there before may be among them where the code of a class
hands them out. This module states that property of a store (`Store.Confined`) and proves that the
classes which are safe keep it: their new instances are made from their arguments and from what the
classes add by themselves. So do classes without code.

## Main definitions

* `Object.class?`: the class that an object shows
* `Store.Confined`: the property of a store
* `Build.Keeps`, `Conduct.Keeps`: work on a store, and the code of a class, that keep the property

## Main statements

* `Build.keeps_create`, `Build.keeps_createBlank`: the safe classes keep the property
* `Conduct.keeps_plain`: classes without code keep it
-/

namespace ServiceStubs

namespace Wire

/-- The class that an object is or is an instance of, unless the format has a form of its own for
such objects. -/
def Object.class? : Object → Option Class
  | complex _ _ => some (.safe .complex)
  | range _ _ _ => some (.safe .range)
  | slice _ _ _ => some (.safe .slice)
  | orderedDict _ => some (.safe .orderedDict)
  | deque _ _ => some (.safe .deque)
  | date _ => some (.safe .date)
  | datetime _ _ _ => some (.safe .datetime)
  | time _ _ => some (.safe .time)
  | timedelta _ => some (.safe .timedelta)
  | utc | timezone _ _ => some (.safe .timezone)
  | decimal _ => some (.safe .decimal)
  | uuid _ => some (.safe .uuid)
  | ofClass c => some c
  | .instance id _ => some (.defined id)
  | _ => Option.none

/-- An object that refers to places inside only and that shows an allowed class. -/
structure Object.Within (inside : Ref → Prop) (allowed : Class → Prop) (o : Object) : Prop where
  parts_inside : ∀ p ∈ o.parts, inside p
  allowed : ∀ c, o.class? = some c → allowed c
  ne_locked : o ≠ .locked

/-- A store the objects of which, where they stand inside, refer to places inside and show allowed
classes. New objects come to stand inside. -/
structure Store.Confined (inside : Ref → Prop) (allowed : Class → Prop) (s : Store) : Prop where
  new_inside : ∀ r, s.size ≤ r → inside r
  within : ∀ r o, inside r → s.get? r = some o → o.Within inside allowed

/-- Work on a store that keeps it confined and comes to a result as told. -/
def Build.Keeps (inside : Ref → Prop) (allowed : Class → Prop) {α : Type} (b : Build α)
    (post : α → Prop) :
    Prop :=
  ∀ s, s.Confined inside allowed → ∀ a s', b s = some (a, s') → s'.Confined inside allowed ∧ post a

variable {inside : Ref → Prop} {allowed allowed' : Class → Prop}

/-! ### Stores -/

theorem entries_inside {es : List (Ref × Ref)} :
    (∀ p ∈ es.map Prod.fst ++ es.map Prod.snd, inside p) ↔ ∀ e ∈ es, inside e.1 ∧ inside e.2 := by
  simp only [List.mem_append, List.mem_map]
  grind

theorem Object.Within.mono {o : Object} (h : o.Within inside allowed)
    (hle : ∀ c, allowed c → allowed' c) : o.Within inside allowed' :=
  ⟨h.parts_inside, fun c hc => hle c (h.allowed c hc), h.ne_locked⟩

/-- An object of a form of its own is within any bounds that its parts are in. -/
theorem Object.Within.of_parts {o : Object} (hparts : ∀ p ∈ o.parts, inside p)
    (hclass : o.class? = Option.none) (hlocked : o ≠ .locked) : o.Within inside allowed :=
  ⟨hparts, fun c hc => (by rw [hclass] at hc; cases hc), hlocked⟩

/-- An instance of an allowed class is within any bounds that its parts are in. -/
theorem Object.Within.of_class {o : Object} {c : Class} (hparts : ∀ p ∈ o.parts, inside p)
    (hclass : o.class? = some c) (hc : allowed c) : o.Within inside allowed := by
  refine ⟨hparts, fun d hd => ?_, ?_⟩
  · rw [hclass] at hd
    cases hd
    exact hc
  · rintro rfl
    cases hclass

namespace Store

theorem Confined.mono {s : Store} (h : s.Confined inside allowed)
    (hle : ∀ c, allowed c → allowed' c) : s.Confined inside allowed' :=
  ⟨h.new_inside, fun r o hr ho => (h.within r o hr ho).mono hle⟩

theorem Confined.add {s : Store} (h : s.Confined inside allowed) {o : Object}
    (ho : o.Within inside allowed) : (s.add o).2.Confined inside allowed := by
  have hsize : s.size ≤ (s.add o).2.size := by simp [Store.add, size]
  refine ⟨fun r hr => h.new_inside r (Nat.le_trans hsize hr), fun r x hr hx => ?_⟩
  rw [get?_add] at hx
  split at hx
  · cases hx
    exact ho
  · exact h.within r x hr hx

theorem Confined.set {s : Store} (h : s.Confined inside allowed) (r : Ref) {o : Object}
    (ho : o.Within inside allowed) : (s.set r o).Confined inside allowed := by
  refine ⟨by simpa [Store.set, size] using h.new_inside, fun x y hx hy => ?_⟩
  rw [get?_set] at hy
  split at hy
  · cases hy
    exact ho
  · exact h.within x y hx hy

/-- The value of an attribute is one of the values. -/
theorem attribute?_mem {s : Store} {attributes : List (Ref × Ref)} {name : WideText} {r : Ref}
    (h : s.attribute? attributes name = some r) : r ∈ attributes.map Prod.snd := by
  simp only [attribute?, Option.map_eq_some_iff] at h
  obtain ⟨e, he, rfl⟩ := h
  exact List.mem_map_of_mem (List.mem_of_find?_eq_some he)

theorem replaceEntry_mem {s : Store} {key value : Ref} {es es' : List (Ref × Ref)}
    (h : s.replaceEntry key value es = some es') :
    ∀ e ∈ es', e ∈ es ∨ (e.2 = value ∧ e.1 ∈ es.map Prod.fst) := by
  induction es generalizing es' with
  | nil => simp [replaceEntry] at h
  | cons e es ih =>
    simp only [replaceEntry] at h
    split at h
    · cases h
      grind
    · obtain ⟨rest, hrest, rfl⟩ := Option.map_eq_some_iff.1 h
      have := ih hrest
      grind

/-- The entries of a dict with one more are the old ones, but for the new key and value. -/
theorem setEntry_inside {s : Store} {key value : Ref} {es es' : List (Ref × Ref)}
    (h : s.setEntry es key value = some es') (hkey : inside key) (hvalue : inside value)
    (hes : ∀ e ∈ es, inside e.1 ∧ inside e.2) : ∀ e ∈ es', inside e.1 ∧ inside e.2 := by
  simp only [setEntry] at h
  split at h
  · cases h
  · cases h
    intro e he
    cases hr : s.replaceEntry key value es with
    | none => grind
    | some es' =>
      rw [hr, Option.getD_some] at he
      have := replaceEntry_mem hr e he
      grind

theorem insertKey_inside {s : Store} {members members' : List Ref} {r : Ref}
    (h : s.insertKey members r = some members') (hr : inside r) (hm : ∀ m ∈ members, inside m) :
    ∀ m ∈ members', inside m := by
  simp only [insertKey] at h
  grind

end Store

/-! ### Work on a store -/

namespace Build

variable {α β : Type}

theorem Keeps.pure {post : α → Prop} {a : α} (h : post a) :
    Keeps inside allowed (Pure.pure a : Build α) post := by
  intro s hs a' s' hrun
  cases hrun
  exact ⟨hs, h⟩

theorem Keeps.pure_any (a : α) : Keeps inside allowed (Pure.pure a : Build α) fun _ => True :=
  .pure trivial

theorem Keeps.failure {post : α → Prop} : Keeps inside allowed (failure : Build α) post := by
  intro s hs a s' hrun
  cases hrun

theorem Keeps.bind {b : Build α} {f : α → Build β} {post : α → Prop} {post' : β → Prop}
    (hb : Keeps inside allowed b post) (hf : ∀ a, post a → Keeps inside allowed (f a) post') :
    Keeps inside allowed (b >>= f) post' := by
  intro s hs c s' hrun
  simp only [Bind.bind, StateT.bind, Option.bind_eq_some_iff, Prod.exists] at hrun
  obtain ⟨a, s₁, ha, hrun⟩ := hrun
  obtain ⟨hs₁, hpost⟩ := hb s hs a s₁ ha
  exact hf a hpost s₁ hs₁ c s' hrun

theorem Keeps.failure_bind {f : α → Build β} {post : β → Prop} :
    Keeps inside allowed (Alternative.failure >>= f) post :=
  .bind .failure fun _ (h : False) => h.elim

/-- What follows a check need only be looked at where the check succeeds. -/
theorem Keeps.unless {c : Prop} [Decidable c] {f : PUnit → Build α} {post : α → Prop}
    (hf : Keeps inside allowed (f ⟨⟩) post) :
    Keeps inside allowed (if c then Bind.bind Alternative.failure f else f ⟨⟩) post := by
  split
  · exact .failure_bind
  · exact hf

theorem Keeps.mono {b : Build α} {post post' : α → Prop} (hb : Keeps inside allowed b post)
    (h : ∀ a, post a → post' a) : Keeps inside allowed b post' := by
  intro s hs a s' hrun
  obtain ⟨hs', ha⟩ := hb s hs a s' hrun
  exact ⟨hs', h a ha⟩

theorem Keeps.liftM (x : Option α) :
    Keeps inside allowed (liftM x : Build α) fun a => x = some a := by
  intro s hs a s' hrun
  cases x with
  | none => cases hrun
  | some b =>
    cases hrun
    exact ⟨hs, rfl⟩

theorem Keeps.get : Keeps inside allowed (MonadState.get : Build Store) fun _ => True := by
  intro s hs a s' hrun
  cases hrun
  exact ⟨hs, trivial⟩

theorem Keeps.mapM {f : α → Build β} {post : β → Prop} :
    ∀ {xs : List α}, (∀ x ∈ xs, Keeps inside allowed (f x) post) →
      Keeps inside allowed (xs.mapM f) fun ys => ∀ y ∈ ys, post y
  | [], _ => by
    rw [List.mapM_nil]
    exact .pure (by simp)
  | x :: xs, h => by
    rw [List.mapM_cons]
    refine .bind (h x List.mem_cons_self) fun y hy => ?_
    refine .bind (Keeps.mapM fun z hz => h z (List.mem_cons_of_mem _ hz)) fun ys hys => ?_
    exact .pure (by simpa using ⟨hy, hys⟩)

theorem Keeps.add {o : Object} (ho : o.Within inside allowed) :
    Keeps inside allowed (add o) inside := by
  intro s hs r s' hrun
  cases hrun
  exact ⟨hs.add ho, hs.new_inside _ (Nat.le_refl _)⟩

theorem Keeps.object {r : Ref} (hr : inside r) :
    Keeps inside allowed (object r) fun o => o.Within inside allowed := by
  intro s hs o s' hrun
  simp only [Build.object, Option.map_eq_some_iff] at hrun
  obtain ⟨o', ho', heq⟩ := hrun
  cases heq
  exact ⟨hs, hs.within r _ hr ho'⟩

/-- Looking at an object changes nothing, wherever it stands. -/
theorem Keeps.object_any (r : Ref) : Keeps inside allowed (Build.object r) fun _ => True := by
  intro s hs o s' hrun
  simp only [Build.object, Option.map_eq_some_iff] at hrun
  obtain ⟨o', -, heq⟩ := hrun
  cases heq
  exact ⟨hs, trivial⟩

/-! ### Arguments -/

theorem Keeps.integer (r : Ref) : Keeps inside allowed (integer r) fun _ => True := by
  refine .bind (.object_any r) fun o _ => ?_
  split
  · exact .pure trivial
  · exact .pure trivial
  · exact .failure

theorem Keeps.integerOr (fallback : Int) (r : Option Ref) :
    Keeps inside allowed (integerOr fallback r) fun _ => True := by
  cases r with
  | none => exact .pure trivial
  | some r => exact .integer r

theorem Keeps.double (r : Ref) : Keeps inside allowed (double r) fun _ => True := by
  refine .bind (.object_any r) fun o _ => ?_
  split
  · exact .pure trivial
  · exact .failure
  · split
    · dsimp only
      split
      · exact .failure
      · exact .pure trivial
    · exact (Keeps.liftM _).mono fun _ _ => trivial
    · exact .failure

/-- The arguments of a call are among those that were given. -/
theorem Keeps.arguments {parameters : List WideText} {args : List Ref} {named : List (Ref × Ref)}
    (hargs : ∀ r ∈ args, inside r) (hnamed : ∀ e ∈ named, inside e.1 ∧ inside e.2) :
    Keeps inside allowed (arguments parameters args named) fun given => ∀ r, some r ∈ given →
    inside r := by
  refine .bind .get fun s _ => ?_
  dsimp only
  split
  · exact .failure
  · split
    · exact .failure
    · refine .pure fun r hr => ?_
      obtain ⟨⟨name, a⟩, hp, he⟩ := List.mem_map.1 hr
      have ha := (List.of_mem_zip hp).2
      cases a with
      | none =>
        obtain ⟨e, hmem, rfl⟩ := List.mem_map.1 (Store.attribute?_mem he)
        exact (hnamed e hmem).2
      | some r' =>
        cases he
        rcases List.mem_append.1 ha with ha | ha
        · obtain ⟨_, hr, heq⟩ := List.mem_map.1 ha
          cases heq
          exact hargs _ hr
        · simp at ha

theorem Keeps.zone {z : Option Ref} (hz : ∀ r, z = some r → inside r) :
    Keeps inside allowed (zone z) fun z' => ∀ r ∈ z'.toList, inside r := by
  cases z with
  | none => exact .pure (by simp)
  | some r =>
    have hr : ∀ r' ∈ (some r).toList, inside r' := by simpa using hz r rfl
    refine .bind (.object_any r) fun o _ => ?_
    split
    · exact .pure (by simp)
    · exact .pure hr
    · exact .pure hr
    · exact .failure

theorem Keeps.addText (t : WideText) : Keeps inside allowed (addText t) inside :=
  .add (.of_parts (by simp [Object.parts]) rfl nofun)

theorem Keeps.addInt (m : Int) : Keeps inside allowed (Build.add (.int m)) inside :=
  .add (.of_parts (by simp [Object.parts]) rfl nofun)

theorem Keeps.addNone : Keeps inside allowed (Build.add .none) inside :=
  .add (.of_parts (by simp [Object.parts]) rfl nofun)

/-- What an object is run through by: its parts, or new objects. -/
theorem Keeps.members {r : Ref} (hr : inside r) :
    Keeps inside allowed (members r) fun items => ∀ x ∈ items, inside x := by
  refine .bind (.object hr) fun o ho => ?_
  split
  case h_1 | h_2 | h_3 | h_4 | h_5 => exact .pure ho.parts_inside
  case h_6 | h_7 => exact .pure fun x hx => ho.parts_inside x (List.mem_append_left _ hx)
  case h_8 => exact .mapM fun c _ => .addText _
  case h_9 | h_10 | h_11 => exact .mapM fun c _ => .addInt _
  case h_12 => exact .failure

theorem Keeps.entries {r : Ref} (hr : inside r) :
    Keeps inside allowed (entries r) fun es => ∀ e ∈ es, inside e.1 ∧ inside e.2 := by
  refine .bind (.object hr) fun o ho => ?_
  split
  · exact .pure (entries_inside.1 ho.parts_inside)
  · exact .pure (entries_inside.1 ho.parts_inside)
  · refine .bind (.members hr) fun pairs hpairs => .mapM fun pair hpair => ?_
    refine .bind (.members (hpairs pair hpair)) fun both hboth => ?_
    split
    · exact .pure ⟨hboth _ (by simp), hboth _ (by simp)⟩
    · exact .failure

theorem Keeps.setAll {start added : List (Ref × Ref)} (hstart : ∀ e ∈ start, inside e.1 ∧ inside e.2)
    (hadded : ∀ e ∈ added, inside e.1 ∧ inside e.2) :
    Keeps inside allowed (setAll start added) fun es => ∀ e ∈ es, inside e.1 ∧ inside e.2 := by
  refine .bind .get fun s _ => (Keeps.liftM _).mono fun es hes => ?_
  induction added generalizing start with
  | nil =>
    cases hes
    exact hstart
  | cons e added ih =>
    simp only [List.foldlM_cons, Option.bind_eq_bind, Option.bind_eq_some_iff] at hes
    obtain ⟨start', hset, hes⟩ := hes
    have he := hadded e List.mem_cons_self
    exact ih (Store.setEntry_inside hset he.1 he.2 hstart)
      (fun x hx => hadded x (List.mem_cons_of_mem _ hx)) hes

theorem lastOf_inside {limit : Option Nat} {items : List Ref} (h : ∀ x ∈ items, inside x) :
    ∀ x ∈ lastOf limit items, inside x := by
  cases limit with
  | none => exact h
  | some k => exact fun x hx => h x (List.mem_of_mem_drop hx)

/-! ### The classes -/

variable {args : List Ref} {named : List (Ref × Ref)}

theorem keeps_complex (hc : allowed (.safe .complex)) (hargs : ∀ r ∈ args, inside r)
    (hnamed : ∀ e ∈ named, inside e.1 ∧ inside e.2) :
    Keeps inside allowed (complex args named) inside := by
  have hadd (x y : Binary64) : Keeps inside allowed (add (.complex x y)) inside :=
    .add (.of_class (by simp [Object.parts]) rfl hc)
  refine .bind (.arguments hargs hnamed) fun given hgiven => ?_
  split
  · exact hadd _ _
  · rename_i re
    have hre : inside re := hgiven re (by simp)
    refine .bind (.object hre) fun o _ => ?_
    split
    · exact .pure hre
    · exact .bind (.liftM _) fun p _ => hadd _ _
    · exact .bind (.double _) fun x _ => hadd _ _
  · exact .bind (.double _) fun x _ => hadd _ _
  · exact .bind (.double _) fun x _ => .bind (.double _) fun y _ => hadd _ _
  · exact .failure

theorem keeps_range (hc : allowed (.safe .range)) : Keeps inside allowed (range args) inside := by
  have hadd (start stop step : Int) : Keeps inside allowed (add (.range start stop step)) inside :=
    .add (.of_class (by simp [Object.parts]) rfl hc)
  refine .bind (.mapM fun r _ => .integer r) fun given _ => ?_
  split
  · exact hadd _ _ _
  · exact hadd _ _ _
  · split
    · exact .failure
    · exact hadd _ _ _
  · exact .failure

theorem keeps_slice (hc : allowed (.safe .slice)) (hargs : ∀ r ∈ args, inside r) :
    Keeps inside allowed (slice args) inside := by
  have hadd {start stop step : Ref} (h₁ : inside start) (h₂ : inside stop) (h₃ : inside step) :
      Keeps inside allowed (add (.slice start stop step)) inside :=
    .add (.of_class (by simp [Object.parts, h₁, h₂, h₃]) rfl hc)
  unfold slice
  split
  · exact .bind .addNone fun a ha => .bind .addNone fun b hb => hadd ha (hargs _ (by simp)) hb
  · exact .bind .addNone fun a ha => hadd (hargs _ (by simp)) (hargs _ (by simp)) ha
  · exact hadd (hargs _ (by simp)) (hargs _ (by simp)) (hargs _ (by simp))
  · exact .failure

theorem keeps_deque (hc : allowed (.safe .deque)) (hargs : ∀ r ∈ args, inside r)
    (hnamed : ∀ e ∈ named, inside e.1 ∧ inside e.2) :
    Keeps inside allowed (deque args named) inside := by
  refine .bind (.arguments hargs hnamed) fun given hgiven => ?_
  split
  · rename_i items limit
    have hlast {items : List Ref} (limit : Option Nat) (h : ∀ r ∈ items, inside r) :
        Keeps inside allowed (add (.deque (lastOf limit items) limit)) inside :=
      .add (.of_class (lastOf_inside h) rfl hc)
    extract_lets k
    have hk (limit : Option Nat) : Keeps inside allowed (k limit) inside := by
      unfold k
      dsimp only
      split
      · exact .bind (.pure (by simp)) fun _ h => hlast limit h
      · exact .bind (.members (hgiven _ (by simp))) fun _ h => hlast limit h
    clear_value k
    split
    · exact .bind (.pure_any none) fun limit _ => hk limit
    · refine .bind (.object_any _) fun o _ => ?_
      split
      · exact .bind (.pure_any none) fun limit _ => hk limit
      · refine .bind (.integer _) fun m _ => ?_
        split
        · exact .failure_bind
        · exact .bind (.pure_any _) fun limit _ => hk limit
  · exact .failure

theorem keeps_orderedDict (hc : allowed (.safe .orderedDict)) (hargs : ∀ r ∈ args, inside r)
    (hnamed : ∀ e ∈ named, inside e.1 ∧ inside e.2) :
    Keeps inside allowed (orderedDict args named) inside := by
  have hadd {given : List (Ref × Ref)} (hgiven : ∀ e ∈ given, inside e.1 ∧ inside e.2) :
      Keeps inside allowed (do add (.orderedDict (← setAll [] (given ++ named)))) inside := by
    have hall : ∀ e ∈ given ++ named, inside e.1 ∧ inside e.2 := by
      intro e he
      rcases List.mem_append.1 he with he | he
      · exact hgiven e he
      · exact hnamed e he
    refine .bind (.setAll (by simp) hall) fun es hes => ?_
    exact .add (.of_class (entries_inside.2 hes) rfl hc)
  unfold orderedDict
  split
  · exact hadd (by simp)
  · exact .bind (.entries (hargs _ (by simp))) fun es hes => hadd hes
  · exact .failure

theorem keeps_date (hc : allowed (.safe .date)) (hargs : ∀ r ∈ args, inside r)
    (hnamed : ∀ e ∈ named, inside e.1 ∧ inside e.2) : Keeps inside allowed (date args named) inside := by
  have hadd (d : Date) : Keeps inside allowed (add (.date d)) inside :=
    .add (.of_class (by simp [Object.parts]) rfl hc)
  unfold date
  extract_lets k
  have hk (unpacked : Option (Date × Bool)) : Keeps inside allowed (k unpacked) inside := by
    unfold k
    split
    · split
      · exact .failure
      · exact hadd _
    · refine .bind (.arguments hargs hnamed) fun given _ => ?_
      split
      · refine .bind (.integer _) fun y _ => .bind (.integer _) fun m _ => ?_
        exact .bind (.integer _) fun d _ => .bind (.liftM _) fun d _ => hadd d
      · exact .failure
  clear_value k
  split
  · exact .bind (.object_any _) fun o _ => .bind (.pure_any _) fun unpacked _ => hk unpacked
  · exact .bind (.pure_any _) fun unpacked _ => hk unpacked

theorem Keeps.fold (r : Option Ref) : Keeps inside allowed (fold r) fun _ => True := by
  refine .bind (.integerOr 0 r) fun m _ => ?_
  split
  · exact .pure_any _
  · split
    · exact .pure_any _
    · exact .failure

theorem Keeps.clock (h m s us f : Option Ref) :
    Keeps inside allowed (clock h m s us f) fun _ => True := by
  refine .bind (.integerOr 0 h) fun h _ => .bind (.integerOr 0 m) fun m _ => ?_
  refine .bind (.integerOr 0 s) fun s _ => .bind (.integerOr 0 us) fun us _ => ?_
  exact .bind (.fold f) fun f _ => (Keeps.liftM _).mono fun _ _ => trivial

/-- The zone that stands behind a packed form is one of the arguments. -/
theorem Keeps.packedFirst {unpack? : List UInt8 → Option α} (hargs : ∀ r ∈ args, inside r) :
    Keeps inside allowed (packedFirst unpack? args) fun u =>
      ∀ p, u = some p → ∀ r, p.2 = some r → inside r := by
  unfold Build.packedFirst
  split
  · refine .bind (.object_any _) fun o _ => .pure fun p hp r hr => ?_
    obtain ⟨a, -, rfl⟩ := Option.map_eq_some_iff.1 hp
    cases hr
  · refine .bind (.object_any _) fun o _ => .pure fun p hp r hr => ?_
    obtain ⟨a, -, rfl⟩ := Option.map_eq_some_iff.1 hp
    cases hr
    exact hargs _ (by simp)
  · exact .pure (by simp)

theorem keeps_datetime (hc : allowed (.safe .datetime)) (hargs : ∀ r ∈ args, inside r)
    (hnamed : ∀ e ∈ named, inside e.1 ∧ inside e.2) :
    Keeps inside allowed (datetime args named) inside := by
  have hadd (d : Date) (c : Clock) {z : Option Ref} (hz : ∀ r ∈ z.toList, inside r) :
      Keeps inside allowed (add (.datetime d c z)) inside := .add (.of_class hz rfl hc)
  refine .bind (.packedFirst hargs) fun u hu => ?_
  split
  · exact .bind (.zone (hu _ rfl)) fun z hz => hadd _ _ hz
  · refine .unless (.bind (.arguments hargs hnamed) fun given hgiven => ?_)
    split
    · refine .bind (.integer _) fun y _ => .bind (.integer _) fun m _ => ?_
      refine .bind (.integer _) fun d _ => .bind (.liftM _) fun day _ => ?_
      refine .bind (.clock _ _ _ _ _) fun c _ => ?_
      exact .bind (.zone fun r hr => hgiven r (by simp [hr])) fun z hz => hadd _ _ hz
    · exact .failure

theorem keeps_time (hc : allowed (.safe .time)) (hargs : ∀ r ∈ args, inside r)
    (hnamed : ∀ e ∈ named, inside e.1 ∧ inside e.2) : Keeps inside allowed (time args named) inside := by
  have hadd (c : Clock) {z : Option Ref} (hz : ∀ r ∈ z.toList, inside r) :
      Keeps inside allowed (add (.time c z)) inside := .add (.of_class hz rfl hc)
  refine .bind (.packedFirst hargs) fun u hu => ?_
  split
  · exact .bind (.zone (hu _ rfl)) fun z hz => hadd _ hz
  · refine .unless (.bind (.arguments hargs hnamed) fun given hgiven => ?_)
    split
    · refine .bind (.clock _ _ _ _ _) fun c _ => ?_
      exact .bind (.zone fun r hr => hgiven r (by simp [hr])) fun z hz => hadd _ hz
    · exact .failure

theorem Keeps.microseconds (unit : Int) (r : Option Ref) :
    Keeps inside allowed (microseconds unit r) fun _ => True := by
  unfold Build.microseconds
  split
  · exact .pure_any _
  · refine .bind (.object_any _) fun o _ => ?_
    split
    · split
      · exact .pure_any _
      · exact .failure
    · exact .bind (.integer _) fun m _ => .pure_any _

theorem keeps_timedelta (hc : allowed (.safe .timedelta)) (hargs : ∀ r ∈ args, inside r)
    (hnamed : ∀ e ∈ named, inside e.1 ∧ inside e.2) :
    Keeps inside allowed (timedelta args named) inside := by
  refine .bind (.arguments hargs hnamed) fun given _ => ?_
  refine .bind (.mapM fun p _ => .microseconds p.1.2 p.2) fun parts _ => ?_
  dsimp only
  split
  · exact .add (.of_class (by simp [Object.parts]) rfl hc)
  · exact .failure

theorem keeps_timezone (hc : allowed (.safe .timezone)) (hargs : ∀ r ∈ args, inside r)
    (hnamed : ∀ e ∈ named, inside e.1 ∧ inside e.2) :
    Keeps inside allowed (timezone args named) inside := by
  have hadd {offset : Ref} {name : Option Ref} (ho : inside offset) (hz : ∀ r ∈ name.toList, inside r) :
      Keeps inside allowed (add (.timezone offset name)) inside :=
    .add (.of_class (List.forall_mem_cons.2 ⟨ho, hz⟩) rfl hc)
  refine .bind (.arguments hargs hnamed) fun given hgiven => ?_
  split
  · refine .bind (.object_any _) fun o _ => ?_
    split
    · split
      · split
        · exact .add (.of_class (by simp [Object.parts]) rfl hc)
        · split
          · exact hadd (hgiven _ (by simp)) (by simp)
          · exact .failure
      · refine .bind (.object_any _) fun o _ => ?_
        split
        · split
          · exact hadd (hgiven _ (by simp)) (by simpa using hgiven _ (by simp))
          · exact .failure
        · exact .failure
    · exact .failure
  · exact .failure

theorem Keeps.decimalOfParts {parts : List Ref} (hparts : ∀ r ∈ parts, inside r) :
    Keeps inside allowed (decimalOfParts parts) fun _ => True := by
  unfold Build.decimalOfParts
  split
  · refine .bind (.integer _) fun sign _ => ?_
    refine .bind (.members (hparts _ (by simp))) fun digits _ => ?_
    refine .bind (.mapM fun r _ => .integer r) fun digits _ => ?_
    split
    · exact .failure_bind
    · refine .bind (.object_any _) fun o _ => ?_
      split
      · split_ifs
        · exact .pure_any _
        · exact .pure_any _
        · exact .pure_any _
        · exact .failure
      · exact .bind (.integer _) fun e _ => (Keeps.liftM _).mono fun _ _ => trivial
  · exact .failure

theorem keeps_decimal (hc : allowed (.safe .decimal)) (hargs : ∀ r ∈ args, inside r)
    (hnamed : ∀ e ∈ named, inside e.1 ∧ inside e.2) :
    Keeps inside allowed (decimal args named) inside := by
  have hadd (d : Decimal) : Keeps inside allowed (add (.decimal d)) inside :=
    .add (.of_class (by simp [Object.parts]) rfl hc)
  refine .bind (.arguments hargs hnamed) fun given hgiven => ?_
  split
  · extract_lets k
    have hk (u : PUnit) : Keeps inside allowed (k u) inside := by
      unfold k
      split
      · exact hadd _
      · rename_i r
        have hr : inside r := hgiven r (by simp)
        refine .bind (.object hr) fun o ho => ?_
        split
        · exact .pure hr
        · exact .bind (.liftM _) fun d _ => hadd d
        · exact .bind (.decimalOfParts ho.parts_inside) fun d _ => hadd d
        · exact .bind (.decimalOfParts ho.parts_inside) fun d _ => hadd d
        · exact .failure
        · exact .bind (.liftM _) fun d _ => hadd d
    split
    · exact hk ()
    · refine .bind (.object_any _) fun o _ => ?_
      split
      · exact hk ()
      · exact .failure_bind
  · exact .failure

theorem keeps_uuid (hc : allowed (.safe .uuid)) (hargs : ∀ r ∈ args, inside r)
    (hnamed : ∀ e ∈ named, inside e.1 ∧ inside e.2) : Keeps inside allowed (uuid args named) inside := by
  have hadd (m : Int) : Keeps inside allowed (do add (.uuid (some (← add (.int m))))) inside :=
    .bind (.addInt m) fun r hr => .add (.of_class (by simpa [Object.parts] using hr) rfl hc)
  refine .bind (.arguments hargs hnamed) fun given _ => ?_
  have hmapM {f : Option Ref → Build (Option Ref)}
      (hf : ∀ a, Keeps inside allowed (f a) fun _ => True) :
      Keeps inside allowed (given.mapM f) fun _ => True :=
    (Keeps.mapM fun a _ => hf a).mono fun _ _ => trivial
  refine .bind (hmapM fun a => ?_) fun present _ => ?_
  · split
    · exact .pure_any _
    · refine .bind (.object_any _) fun o _ => ?_
      split <;> exact .pure_any _
  extract_lets k
  have hk (number : Nat) : Keeps inside allowed (k number) inside := by
    unfold k
    split
    · refine .bind (.integer _) fun v _ => ?_
      split
      · exact hadd _
      · exact .failure
    · exact hadd _
  clear_value k
  have hfail : Keeps inside allowed (failure >>= k) inside := .failure_bind
  split
  · refine .bind (.object_any _) fun o _ => ?_
    split
    · exact .bind (.liftM _) fun a _ => hk a
    · exact hfail
  case h_2 | h_3 =>
    refine .bind (.object_any _) fun o _ => ?_
    split
    · split
      · exact .bind (.pure_any _) fun a _ => hk a
      · exact hfail
    · exact hfail
  · refine .bind (.integer _) fun v _ => ?_
    split
    · exact .bind (.pure_any _) fun a _ => hk a
    · exact hfail
  · exact hfail

/-- **New instances keep a store confined.** -/
theorem keeps_create {c : SafeClass} (hc : allowed (.safe c)) (hargs : ∀ r ∈ args, inside r)
    (hnamed : ∀ e ∈ named, inside e.1 ∧ inside e.2) :
    Keeps inside allowed (c.create args named) inside := by
  cases c with
  | complex => exact keeps_complex hc hargs hnamed
  | range =>
    simp only [SafeClass.create]
    split
    · exact keeps_range hc
    · exact .failure
  | slice =>
    simp only [SafeClass.create]
    split
    · exact keeps_slice hc hargs
    · exact .failure
  | orderedDict => exact keeps_orderedDict hc hargs hnamed
  | deque => exact keeps_deque hc hargs hnamed
  | date => exact keeps_date hc hargs hnamed
  | datetime => exact keeps_datetime hc hargs hnamed
  | time => exact keeps_time hc hargs hnamed
  | timedelta => exact keeps_timedelta hc hargs hnamed
  | timezone => exact keeps_timezone hc hargs hnamed
  | decimal => exact keeps_decimal hc hargs hnamed
  | uuid => exact keeps_uuid hc hargs hnamed

/-- **Blank instances keep a store confined.** -/
theorem keeps_createBlank {c : SafeClass} (hc : allowed (.safe c)) (hargs : ∀ r ∈ args, inside r)
    (hnamed : ∀ e ∈ named, inside e.1 ∧ inside e.2) :
    Keeps inside allowed (c.createBlank args named) inside := by
  cases c with
  | orderedDict | deque | uuid => exact .add (.of_class (by simp [Object.parts]) rfl hc)
  | _ => exact keeps_create hc hargs hnamed

end Build

/-! ### The code of defined classes -/

/-- What is found under a name keeps a store confined, also where more classes are allowed by then.
-/
def Member.Keeps (inside : Ref → Prop) (allowed : Class → Prop) : Member → Prop
  | .object r => inside r
  | .code f => ∀ allowed', (∀ c, allowed c → allowed' c) → ∀ args, (∀ r ∈ args, inside r) →
    (f args).Keeps inside allowed' fun _ => True

/-- Code of a class that keeps a store confined and hands out only what stands inside. -/
structure Conduct.Keeps (inside : Ref → Prop) (allowed : Class → Prop) (k : Conduct) : Prop where
  create : ∀ args, (∀ r ∈ args, inside r) → (k.create args).Keeps inside allowed inside
  createBlank : ∀ args named, (∀ r ∈ args, inside r) → (∀ e ∈ named, inside e.1 ∧ inside e.2) →
    (k.createBlank args named).Keeps inside allowed inside
  call : ∀ f, k.call? = some f → ∀ r args, inside r → (∀ a ∈ args, inside a) →
    (f r args).Keeps inside allowed inside
  member : ∀ r name, inside r →
    (k.member r name).Keeps inside allowed fun found => ∀ m, found = some m → m.Keeps inside allowed
  setEntry : ∀ f, k.assign? = some f → ∀ r key value, inside r → inside key → inside value →
    (f r key value).Keeps inside allowed fun _ => True
  addMembers : ∀ f, k.addMembers? = some f → ∀ r items, inside r → (∀ a ∈ items, inside a) →
    (f r items).Keeps inside allowed fun _ => True
  setNamed : ∀ f, k.setNamed? = some f → ∀ r entry, inside r → inside entry.1 → inside entry.2 →
    (f r entry).Keeps inside allowed fun _ => True
  setState : ∀ f, k.setState? = some f → ∀ r entries, inside r →
    (∀ e ∈ entries, inside e.1 ∧ inside e.2) → (f r entries).Keeps inside allowed fun _ => True

end Wire

end ServiceStubs
