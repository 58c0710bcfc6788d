import Mathlib.Tactic.SplitIfs
import ServiceStubs.Proofs.Wire.Parts
import ServiceStubs.Proofs.Wire.Performing

/-!
# What the reading of a message leaves alone

Objects are added to the store while a message is read, and those that can change are changed. A
text cannot: it stays at its place whatever the other instructions do. Values are kept under numbers
by two instructions only, and nothing that was told is taken back.

A change of an object is safe for the texts when there is no text at its place. A computation is
therefore judged under the condition that some places are bare of texts (`Run.Steady`); looking at
an object that is no text makes its place such a one.

## Main definitions

* `Store.KeepsTexts`: the texts of a store are where they were
* `Build.Steady`, `Run.Steady`: computations that leave alone what this module is about

## Main statements

* `Build.steady_create`, `Build.steady_createBlank`: new instances of the safe classes
* `Machine.steady_step`: the instructions that keep no value under a number
-/

namespace ServiceStubs

namespace Wire

/-! ### Stores -/

namespace Store

/-- There is an object at a place, and it is no text. -/
def IsBare (s : Store) (r : Ref) : Prop := r < s.size ∧ s.text? r = none

/-- The texts of a store stand where they stood, and no other object became a text. -/
structure KeepsTexts (s t : Store) : Prop where
  size_le : s.size ≤ t.size
  text?_eq : ∀ r < s.size, t.text? r = s.text? r

variable {s t u : Store} {r : Ref} {o : Object}

theorem KeepsTexts.refl (s : Store) : s.KeepsTexts s := ⟨Nat.le_refl _, fun _ _ => rfl⟩

theorem KeepsTexts.trans (h : s.KeepsTexts t) (h' : t.KeepsTexts u) : s.KeepsTexts u where
  size_le := Nat.le_trans h.size_le h'.size_le
  text?_eq r hr := (h'.text?_eq r (Nat.lt_of_lt_of_le hr h.size_le)).trans (h.text?_eq r hr)

theorem KeepsTexts.isBare (h : s.KeepsTexts t) (hr : s.IsBare r) : t.IsBare r :=
  ⟨Nat.lt_of_lt_of_le hr.1 h.size_le, (h.text?_eq r hr.1).trans hr.2⟩

theorem text?_eq_some {text : WideText} :
    s.text? r = some text ↔ ∃ shared, s.get? r = some (.text text shared) := by
  unfold text?
  split <;> simp_all

theorem KeepsTexts.text? (h : s.KeepsTexts t) {text : WideText} (hr : s.text? r = some text) :
    t.text? r = some text := by
  obtain ⟨shared, ho⟩ := text?_eq_some.1 hr
  rw [h.text?_eq r (lt_size_of_get? ho), hr]

theorem isBare_of_get? (ho : s.get? r = some o) (htext : ∀ text shared, o ≠ .text text shared) :
    s.IsBare r := by
  refine ⟨lt_size_of_get? ho, ?_⟩
  unfold text?
  split
  · exact absurd (Option.some.inj (ho.symm.trans ‹_›)) (htext _ _)
  · rfl

theorem keepsTexts_add (s : Store) (o : Object) : s.KeepsTexts (s.add o).2 := by
  refine ⟨by simp [add, size], fun r hr => ?_⟩
  simp only [text?, get?_add, if_neg (Nat.ne_of_lt hr)]

theorem keepsTexts_set (hr : s.IsBare r) (htext : ∀ text shared, o ≠ .text text shared) :
    s.KeepsTexts (s.set r o) := by
  refine ⟨by simp [set, size], fun x hx => ?_⟩
  by_cases hxr : x = r
  · subst hxr
    have ho : (s.set x o).get? x = some o := by simp [get?_set, hx]
    rw [hr.2, (isBare_of_get? ho htext).2]
  · simp only [text?, get?_set, Ne.symm hxr, false_and, if_false]

end Store

/-! ### Work on a store -/

/-- Work on a store that leaves its texts alone. -/
def Build.Steady {α : Type} (b : Build α) : Prop :=
  ∀ s a s', b s = some (a, s') → s.KeepsTexts s'

namespace Build

variable {α β : Type}

theorem Steady.pure (a : α) : Steady (Pure.pure a) := by
  intro s a' s' h
  cases h
  exact .refl s

theorem Steady.failure : Steady (Alternative.failure : Build α) := nofun

theorem Steady.bind {b : Build α} {f : α → Build β} (hb : Steady b) (hf : ∀ a, Steady (f a)) :
    Steady (b >>= f) := by
  intro s c s' h
  simp only [Bind.bind, StateT.bind, Option.bind_eq_some_iff, Prod.exists] at h
  obtain ⟨a, s₁, ha, h⟩ := h
  exact (hb s a s₁ ha).trans (hf a s₁ c s' h)

theorem Steady.failure_bind {f : α → Build β} : Steady (Alternative.failure >>= f) := nofun

theorem Steady.get : Steady (MonadState.get : Build Store) := by
  intro s a s' h
  cases h
  exact .refl s

theorem Steady.liftM (x : Option α) : Steady (liftM x : Build α) := by
  intro s a s' h
  cases x with
  | none => cases h
  | some b =>
    cases h
    exact .refl s

theorem Steady.mapM {f : α → Build β} (hf : ∀ x, Steady (f x)) : ∀ xs : List α, Steady (xs.mapM f)
  | [] => by
    rw [List.mapM_nil]
    exact .pure _
  | x :: xs => by
    rw [List.mapM_cons]
    exact .bind (hf x) fun _ => .bind (.mapM hf xs) fun _ => .pure _

theorem Steady.add (o : Object) : Steady (add o) := by
  intro s r s' h
  cases h
  exact s.keepsTexts_add o

theorem Steady.object (r : Ref) : Steady (object r) := by
  intro s o s' h
  simp only [Build.object, Option.map_eq_some_iff] at h
  obtain ⟨o', -, heq⟩ := h
  cases heq
  exact .refl s

/-! ### Arguments -/

theorem Steady.integer (r : Ref) : Steady (integer r) := by
  refine .bind (.object r) fun o => ?_
  split
  · exact .pure _
  · exact .pure _
  · exact .failure

theorem Steady.integerOr (fallback : Int) : ∀ r : Option Ref, Steady (integerOr fallback r)
  | none => .pure _
  | some r => .integer r

theorem Steady.double (r : Ref) : Steady (double r) := by
  refine .bind (.object r) fun o => ?_
  split
  · exact .pure _
  · exact .failure
  · split
    · dsimp only
      split
      · exact .failure
      · exact .pure _
    · exact .liftM _
    · exact .failure

theorem Steady.arguments (parameters : List WideText) (args : List Ref) (named : List (Ref × Ref)) :
    Steady (arguments parameters args named) := by
  refine .bind .get fun s => ?_
  dsimp only
  split
  · exact .failure
  · split
    · exact .failure
    · exact .pure _

theorem Steady.zone : ∀ z : Option Ref, Steady (zone z)
  | none => .pure _
  | some r => by
    refine .bind (.object r) fun o => ?_
    split
    · exact .pure _
    · exact .pure _
    · exact .pure _
    · exact .failure

theorem Steady.members (r : Ref) : Steady (members r) := by
  refine .bind (.object r) fun o => ?_
  split
  case h_8 | h_9 | h_10 | h_11 => exact .mapM (fun _ => .add _) _
  case h_12 => exact .failure
  all_goals exact .pure _

theorem Steady.entries (r : Ref) : Steady (entries r) := by
  refine .bind (.object r) fun o => ?_
  split
  · exact .pure _
  · exact .pure _
  · refine .bind (.members r) fun pairs => .mapM (fun pair => ?_) _
    refine .bind (.members pair) fun both => ?_
    split
    · exact .pure _
    · exact .failure

theorem Steady.setAll (start added : List (Ref × Ref)) : Steady (setAll start added) :=
  .bind .get fun _ => .liftM _

theorem Steady.fold (r : Option Ref) : Steady (fold r) := by
  refine .bind (.integerOr 0 r) fun n => ?_
  split
  · exact .pure _
  · split
    · exact .pure _
    · exact .failure

theorem Steady.clock (h m s us f : Option Ref) : Steady (clock h m s us f) := by
  refine .bind (.integerOr 0 h) fun h => .bind (.integerOr 0 m) fun m => ?_
  refine .bind (.integerOr 0 s) fun s => .bind (.integerOr 0 us) fun us => ?_
  exact .bind (.fold f) fun f => .liftM _

theorem Steady.packedFirst (unpack? : List UInt8 → Option α) (args : List Ref) :
    Steady (packedFirst unpack? args) := by
  unfold Build.packedFirst
  split
  · exact .bind (.object _) fun o => .pure _
  · exact .bind (.object _) fun o => .pure _
  · exact .pure _

theorem Steady.microseconds (unit : Int) (r : Option Ref) : Steady (microseconds unit r) := by
  unfold Build.microseconds
  split
  · exact .pure _
  · refine .bind (.object _) fun o => ?_
    split
    · split
      · exact .pure _
      · exact .failure
    · exact .bind (.integer _) fun n => .pure _

theorem Steady.decimalOfParts (parts : List Ref) : Steady (decimalOfParts parts) := by
  unfold Build.decimalOfParts
  split
  · refine .bind (.integer _) fun sign => .bind (.members _) fun digits => ?_
    refine .bind (.mapM .integer _) fun digits => ?_
    split
    · exact .failure_bind
    · refine .bind (.object _) fun o => ?_
      split
      · split_ifs
        · exact .pure _
        · exact .pure _
        · exact .pure _
        · exact .failure
      · exact .bind (.integer _) fun e => .liftM _
  · exact .failure

/-! ### The classes -/

variable (args : List Ref) (named : List (Ref × Ref))

theorem steady_complex : Steady (complex args named) := by
  refine .bind (.arguments _ args named) fun given => ?_
  split
  · exact .add _
  · refine .bind (.object _) fun o => ?_
    split
    · exact .pure _
    · exact .bind (.liftM _) fun p => .add _
    · exact .bind (.double _) fun x => .add _
  · exact .bind (.double _) fun x => .add _
  · exact .bind (.double _) fun x => .bind (.double _) fun y => .add _
  · exact .failure

theorem steady_range : Steady (range args) := by
  refine .bind (.mapM .integer _) fun given => ?_
  split
  · exact .add _
  · exact .add _
  · split
    · exact .failure
    · exact .add _
  · exact .failure

theorem steady_slice : Steady (slice args) := by
  unfold slice
  split
  · exact .bind (.add _) fun a => .bind (.add _) fun b => .add _
  · exact .bind (.add _) fun a => .add _
  · exact .add _
  · exact .failure

theorem steady_orderedDict : Steady (orderedDict args named) := by
  have hadd (given : List (Ref × Ref)) :
      Steady (do add (.orderedDict (← setAll [] (given ++ named)))) :=
    .bind (.setAll _ _) fun es => .add _
  unfold orderedDict
  split
  · exact hadd _
  · exact .bind (.entries _) fun es => hadd es
  · exact .failure

theorem steady_deque : Steady (deque args named) := by
  refine .bind (.arguments _ args named) fun given => ?_
  split
  · rename_i items limit
    extract_lets k
    have hk (limit : Option Nat) : Steady (k limit) := by
      unfold k
      dsimp only
      split
      · exact .bind (.pure _) fun items => .add _
      · exact .bind (.members _) fun items => .add _
    clear_value k
    split
    · exact .bind (.pure _) hk
    · refine .bind (.object _) fun o => ?_
      split
      · exact .bind (.pure _) hk
      · refine .bind (.integer _) fun n => ?_
        split
        · exact .failure_bind
        · exact .bind (.pure _) hk
  · exact .failure

theorem steady_date : Steady (date args named) := by
  unfold date
  extract_lets k
  have hk (unpacked : Option (Date × Bool)) : Steady (k unpacked) := by
    unfold k
    split
    · split
      · exact .failure
      · exact .add _
    · refine .bind (.arguments _ args named) fun given => ?_
      split
      · refine .bind (.integer _) fun y => .bind (.integer _) fun m => ?_
        exact .bind (.integer _) fun d => .bind (.liftM _) fun d => .add _
      · exact .failure
  clear_value k
  split
  · exact .bind (.object _) fun o => .bind (.pure _) hk
  · exact .bind (.pure _) hk

theorem steady_datetime : Steady (datetime args named) := by
  refine .bind (.packedFirst _ args) fun u => ?_
  split
  · exact .bind (.zone _) fun z => .add _
  · split
    · exact .failure_bind
    · refine .bind (.arguments _ args named) fun given => ?_
      split
      · refine .bind (.integer _) fun y => .bind (.integer _) fun m => ?_
        refine .bind (.integer _) fun d => .bind (.liftM _) fun day => ?_
        exact .bind (.clock _ _ _ _ _) fun c => .bind (.zone _) fun z => .add _
      · exact .failure

theorem steady_time : Steady (time args named) := by
  refine .bind (.packedFirst _ args) fun u => ?_
  split
  · exact .bind (.zone _) fun z => .add _
  · split
    · exact .failure_bind
    · refine .bind (.arguments _ args named) fun given => ?_
      split
      · exact .bind (.clock _ _ _ _ _) fun c => .bind (.zone _) fun z => .add _
      · exact .failure

theorem steady_timedelta : Steady (timedelta args named) := by
  refine .bind (.arguments _ args named) fun given => ?_
  refine .bind (.mapM (fun p => .microseconds _ _) _) fun parts => ?_
  dsimp only
  split
  · exact .add _
  · exact .failure

theorem steady_timezone : Steady (timezone args named) := by
  refine .bind (.arguments _ args named) fun given => ?_
  split
  · refine .bind (.object _) fun o => ?_
    split
    · split
      · split
        · exact .add _
        · split
          · exact .add _
          · exact .failure
      · refine .bind (.object _) fun o => ?_
        split
        · split
          · exact .add _
          · exact .failure
        · exact .failure
    · exact .failure
  · exact .failure

theorem steady_decimal : Steady (decimal args named) := by
  refine .bind (.arguments _ args named) fun given => ?_
  split
  · extract_lets k
    have hk (u : PUnit) : Steady (k u) := by
      unfold k
      split
      · exact .add _
      · refine .bind (.object _) fun o => ?_
        split
        · exact .pure _
        · exact .bind (.liftM _) fun d => .add _
        · exact .bind (.decimalOfParts _) fun d => .add _
        · exact .bind (.decimalOfParts _) fun d => .add _
        · exact .failure
        · exact .bind (.liftM _) fun d => .add _
    clear_value k
    split
    · exact hk ()
    · refine .bind (.object _) fun o => ?_
      split
      · exact hk ()
      · exact .failure_bind
  · exact .failure

theorem steady_uuid : Steady (uuid args named) := by
  have hadd (m : Int) : Steady (do add (.uuid (some (← add (.int m))))) :=
    .bind (.add _) fun r => .add _
  refine .bind (.arguments _ args named) fun given => ?_
  refine .bind (.mapM (fun a => ?_) _) fun present => ?_
  · split
    · exact .pure _
    · refine .bind (.object _) fun o => ?_
      split <;> exact .pure _
  extract_lets k
  have hk (number : Nat) : Steady (k number) := by
    unfold k
    split
    · refine .bind (.integer _) fun v => ?_
      split
      · exact hadd _
      · exact .failure
    · exact hadd _
  clear_value k
  have hfail : Steady (failure >>= k) := .failure_bind
  split
  · refine .bind (.object _) fun o => ?_
    split
    · exact .bind (.liftM _) hk
    · exact hfail
  case h_2 | h_3 =>
    refine .bind (.object _) fun o => ?_
    split
    · split
      · exact .bind (.pure _) hk
      · exact hfail
    · exact hfail
  · refine .bind (.integer _) fun v => ?_
    split
    · exact .bind (.pure _) hk
    · exact hfail
  · exact hfail

/-- **New instances leave the texts alone.** -/
theorem steady_create (c : SafeClass) : Steady (c.create args named) := by
  cases c with
  | complex => exact steady_complex args named
  | range =>
    simp only [SafeClass.create]
    split
    · exact steady_range args
    · exact .failure
  | slice =>
    simp only [SafeClass.create]
    split
    · exact steady_slice args
    · exact .failure
  | orderedDict => exact steady_orderedDict args named
  | deque => exact steady_deque args named
  | date => exact steady_date args named
  | datetime => exact steady_datetime args named
  | time => exact steady_time args named
  | timedelta => exact steady_timedelta args named
  | timezone => exact steady_timezone args named
  | decimal => exact steady_decimal args named
  | uuid => exact steady_uuid args named

/-- **Blank instances leave the texts alone.** -/
theorem steady_createBlank (c : SafeClass) : Steady (c.createBlank args named) := by
  unfold SafeClass.createBlank
  split
  · exact .add _
  · exact .add _
  · exact .add _
  · exact steady_create args named _

end Build

/-! ### The code of defined classes -/

/-- What is found under a name leaves the texts alone when it is called. -/
def Member.Steady : Member → Prop
  | .object _ => True
  | .code f => ∀ args, (f args).Steady

/-- Code of a class that leaves the texts alone. -/
structure Conduct.Steady (k : Conduct) : Prop where
  create : ∀ args, (k.create args).Steady
  createBlank : ∀ args named, (k.createBlank args named).Steady
  call : ∀ f, k.call? = some f → ∀ r args, (f r args).Steady
  member : ∀ r name, (k.member r name).Steady
  found : ∀ r name s found s', k.member r name s = some (found, s') → ∀ m, found = some m → m.Steady
  setEntry : ∀ f, k.assign? = some f → ∀ r key value, (f r key value).Steady
  addMembers : ∀ f, k.addMembers? = some f → ∀ r items, (f r items).Steady
  setNamed : ∀ f, k.setNamed? = some f → ∀ r entry, (f r entry).Steady
  setState : ∀ f, k.setState? = some f → ∀ r entries, (f r entries).Steady

/-- The code of the defined classes leaves the texts alone, as a text cannot be changed. -/
def Registry.LeavesTexts (g : Registry) : Prop := ∀ id, (g.conduct id).Steady

/-- A computation of the machine that leaves alone the texts, what is kept under numbers, and what
was told, where there are no texts at the given places. -/
def Run.Steady (bare : List Ref) {α : Type} (x : Run α) : Prop :=
  ∀ m log, (∀ r ∈ bare, m.store.IsBare r) → ∀ a m' log', x m log = (.ok (a, m'), log') →
    m.store.KeepsTexts m'.store ∧ m'.memo = m.memo ∧ log <:+ log'

variable {bare : List Ref}

namespace Run

variable {α β : Type}

theorem Steady.pure (a : α) : Steady bare (Pure.pure a) := by
  intro m log _ a' m' log' h
  cases h
  exact ⟨.refl _, rfl, List.suffix_rfl⟩

/-- A computation that comes to a result came to one in each of its parts. -/
theorem of_bind {x : Run α} {f : α → Run β} {m m' : Machine} {log log' : Log} {b : β}
    (h : (x >>= f) m log = (.ok (b, m'), log')) :
    ∃ a m₁ log₁, x m log = (.ok (a, m₁), log₁) ∧ f a m₁ log₁ = (.ok (b, m'), log') := by
  rw [bind_apply] at h
  rcases hx : x m log with ⟨_ | ⟨a, m₁⟩, log₁⟩
  · rw [hx] at h
    cases h
  · rw [hx] at h
    exact ⟨a, m₁, log₁, rfl, h⟩

/-- What follows a computation may count on what is known of its results. -/
theorem Steady.bind_of {x : Run α} {f : α → Run β} {post : α → Prop} (hx : Steady bare x)
    (hpost : ∀ m log a m' log', x m log = (.ok (a, m'), log') → post a)
    (hf : ∀ a, post a → Steady bare (f a)) : Steady bare (x >>= f) := by
  intro m log hbare b m' log' h
  obtain ⟨a, m₁, log₁, hrun, h⟩ := of_bind h
  obtain ⟨htexts, hmemo, hlog⟩ := hx m log hbare a m₁ log₁ hrun
  obtain ⟨htexts', hmemo', hlog'⟩ := hf a (hpost m log a m₁ log₁ hrun) m₁ log₁
    (fun r hr => htexts.isBare (hbare r hr)) b m' log' h
  exact ⟨htexts.trans htexts', hmemo'.trans hmemo, hlog.trans hlog'⟩

theorem Steady.bind {x : Run α} {f : α → Run β} (hx : Steady bare x)
    (hf : ∀ a, Steady bare (f a)) : Steady bare (x >>= f) :=
  .bind_of hx (fun _ _ _ _ _ _ => trivial) fun a _ => hf a

theorem Steady.discard {x : Run α} (hx : Steady bare x) : Steady bare (Functor.discard x) := by
  unfold Functor.discard
  rw [LawfulFunctor.map_const, Function.comp_apply, map_eq_pure_bind]
  exact .bind hx fun _ => .pure _

theorem Steady.fail : Steady bare (Machine.fail : Run α) := nofun

theorem Steady.fail_bind {f : α → Run β} : Steady bare (Machine.fail >>= f) := nofun

theorem Steady.get : Steady bare (MonadState.get : Run Machine) := by
  intro m log _ a m' log' h
  cases h
  exact ⟨.refl _, rfl, List.suffix_rfl⟩

theorem Steady.orFail : ∀ x : Option α, Steady bare (Machine.orFail x)
  | none => .fail
  | some a => .pure a

theorem Steady.build {b : Build α} (hb : b.Steady) : Steady bare (Machine.build b) := by
  intro m log _ a m' log' h
  simp only [Machine.build] at h
  cases hrun : b m.store with
  | none =>
    rw [hrun] at h
    cases h
  | some p =>
    rw [hrun] at h
    cases h
    exact ⟨hb _ _ _ hrun, rfl, List.suffix_rfl⟩

theorem Steady.mapM {f : α → Run β} (hf : ∀ x, Steady bare (f x)) :
    ∀ xs : List α, Steady bare (xs.mapM f)
  | [] => by
    rw [List.mapM_nil]
    exact .pure _
  | x :: xs => by
    rw [List.mapM_cons]
    exact .bind (hf x) fun _ => .bind (.mapM hf xs) fun _ => .pure _

theorem Steady.forM {f : α → Run PUnit} (hf : ∀ x, Steady bare (f x)) :
    ∀ xs : List α, Steady bare (xs.forM f)
  | [] => .pure _
  | x :: xs => by
    rw [List.forM_eq_forM, List.forM_cons]
    exact .bind (hf x) fun _ => .forM hf xs

theorem Steady.foldlM {f : β → α → Run β} (hf : ∀ b x, Steady bare (f b x)) :
    ∀ (xs : List α) (b : β), Steady bare (xs.foldlM f b)
  | [], _ => .pure _
  | x :: xs, b => by
    rw [List.foldlM_cons]
    exact .bind (hf b x) fun _ => .foldlM hf xs _

/-- What follows the look at an object may count on its place to be bare, if it is no text. -/
theorem Steady.object {r : Ref} {f : Object → Run β}
    (htext : ∀ text shared, Steady bare (f (.text text shared)))
    (hother : ∀ o, (∀ text shared, o ≠ .text text shared) → Steady (r :: bare) (f o)) :
    Steady bare (Machine.object r >>= f) := by
  intro m log hbare b m' log' h
  obtain ⟨o, m₁, log₁, hrun, h⟩ := of_bind h
  simp only [Machine.object, Machine.build, Build.object] at hrun
  cases ho : m.store.get? r with
  | none =>
    rw [ho] at hrun
    cases hrun
  | some o =>
    rw [ho] at hrun
    cases hrun
    by_cases hkind : ∃ text shared, o = .text text shared
    · obtain ⟨text, shared, rfl⟩ := hkind
      exact htext text shared m log hbare b m' log' h
    · have hne : ∀ text shared, o ≠ .text text shared :=
        fun text shared heq => hkind ⟨text, shared, heq⟩
      exact hother o hne m log
        (List.forall_mem_cons.2 ⟨Store.isBare_of_get? ho hne, hbare⟩) b m' log' h

/-- A look at an object, whatever it is. -/
theorem Steady.object_any {r : Ref} {f : Object → Run β} (hf : ∀ o, Steady bare (f o)) :
    Steady bare (Machine.object r >>= f) :=
  .bind (.build (.object r)) hf

end Run

/-- Whether an instruction keeps a value under a number. -/
def Instruction.isKeeping : Instruction → Bool
  | put _ | memoize => true
  | _ => false

namespace Machine

open Run

variable {g : Registry} {r target : Ref}

/-! ### The stack -/

theorem steady_note (e : Event) : Steady bare (note e) := by
  intro m log _ a m' log' h
  cases h
  exact ⟨.refl _, rfl, List.suffix_cons ..⟩

theorem steady_push (r : Ref) : Steady bare (push r) := by
  intro m log _ a m' log' h
  cases h
  exact ⟨.refl _, rfl, List.suffix_rfl⟩

theorem steady_pushNew (o : Object) : Steady bare (pushNew o) :=
  .bind (.build (.add o)) fun r => steady_push r

theorem steady_pop : Steady bare pop := by
  rintro ⟨store, stack, below, memo⟩ log _ a m' log' h
  cases stack with
  | nil => cases h
  | cons r stack =>
    cases h
    exact ⟨.refl _, rfl, List.suffix_rfl⟩

theorem of_pop {m m' : Machine} {log log' : Log} (h : pop m log = (.ok (r, m'), log')) :
    ∃ stack, m.stack = r :: stack ∧ m' = { m with stack := stack } ∧ log' = log := by
  obtain ⟨store, stack, below, memo⟩ := m
  cases stack with
  | nil => cases h
  | cons x stack =>
    cases h
    exact ⟨stack, rfl, rfl, rfl⟩

theorem of_orFail {α : Type} {x : Option α} {a : α} {m m' : Machine} {log log' : Log}
    (h : orFail x m log = (.ok (a, m'), log')) : x = some a ∧ m' = m ∧ log' = log := by
  cases x with
  | none => cases h
  | some b =>
    cases h
    exact ⟨rfl, rfl, rfl⟩

theorem steady_top : Steady bare top :=
  .bind steady_pop fun r => .bind (steady_push r) fun _ => .pure r

theorem steady_popMany : ∀ n, Steady bare (popMany n)
  | 0 => .pure _
  | n + 1 => .bind steady_pop fun _ => .bind (steady_popMany n) fun _ => .pure _

theorem steady_popToMark : Steady bare popToMark := by
  rintro ⟨store, stack, below, memo⟩ log _ a m' log' h
  cases below with
  | nil => cases h
  | cons under below =>
    cases h
    exact ⟨.refl _, rfl, List.suffix_rfl⟩

theorem steady_setMark : Steady bare setMark := by
  intro m log _ a m' log' h
  cases h
  exact ⟨.refl _, rfl, List.suffix_rfl⟩

theorem steady_drop : Steady bare drop := by
  rintro ⟨store, stack, below, memo⟩ log _ a m' log' h
  rcases stack with _ | ⟨r, stack⟩
  · rcases below with _ | ⟨under, below⟩
    · cases h
    · cases h
      exact ⟨.refl _, rfl, List.suffix_rfl⟩
  · cases h
    exact ⟨.refl _, rfl, List.suffix_rfl⟩

/-- An object that is no text may take the place of one that is none. -/
theorem steady_change {o : Object} (hr : r ∈ bare) (ho : ∀ text shared, o ≠ .text text shared) :
    Steady bare (change r o) := by
  intro m log hbare a m' log' h
  cases h
  exact ⟨Store.keepsTexts_set (hbare r hr) ho, rfl, List.suffix_rfl⟩

/-! ### Classes and calls -/

/-- A name that was resolved is told. -/
theorem of_resolve {name : FullName} {c : Class} {m m' : Machine} {log log' : Log}
    (h : resolve g name m log = (.ok (c, m'), log')) : .resolved name c ∈ log' := by
  cases hc : g.resolve? name with
  | none =>
    simp only [resolve, hc] at h
    cases h
  | some d =>
    simp only [resolve, hc] at h
    cases h
    exact List.mem_cons_self

theorem steady_resolve (name : FullName) : Steady bare (resolve g name) := by
  unfold resolve
  split
  · exact .bind (steady_note _) fun _ => .pure _
  · exact .bind (steady_note _) fun _ => nofun

theorem steady_classAt (r : Ref) : Steady bare (classAt r) := by
  refine .object_any fun o => ?_
  split
  · exact .pure _
  · exact .fail

theorem steady_tupleAt (r : Ref) : Steady bare (tupleAt r) := by
  refine .object_any fun o => ?_
  split
  · exact .pure _
  · exact .fail

theorem steady_dictAt (r : Ref) : Steady bare (dictAt r) := by
  refine .object_any fun o => ?_
  split
  · exact .pure _
  · exact .pure _
  · exact .fail

theorem steady_call (hg : g.LeavesTexts) (c : Class) (args : List Ref) :
    Steady bare (call g c args) := by
  refine .bind (steady_note _) fun _ => ?_
  cases c with
  | safe c => exact .build (Build.steady_create _ _ _)
  | defined id => exact .build ((hg id).create args)

theorem steady_createBlank (hg : g.LeavesTexts) (c : Class) (args : List Ref)
    (named : List (Ref × Ref)) :
    Steady bare (createBlank g c args named) := by
  refine .bind (steady_note _) fun _ => ?_
  cases c with
  | safe c => exact .build (Build.steady_createBlank _ _ _)
  | defined id => exact .build ((hg id).createBlank args named)

theorem steady_make (hg : g.LeavesTexts) (c : Class) (args : List Ref) :
    Steady bare (make g c args) := by
  unfold make
  split
  · exact steady_createBlank hg _ _ _
  · exact steady_call hg _ _

theorem steady_invoke (hg : g.LeavesTexts) (id : Nat) (r : Ref) (args : List Ref) :
    Steady bare (invoke g id r args) := by
  unfold invoke
  split
  · exact .bind (steady_note _) fun _ => .build ((hg id).call _ ‹_› r args)
  · exact .fail

theorem steady_callObject (hg : g.LeavesTexts) (r : Ref) (args : List Ref) :
    Steady bare (callObject g r args) := by
  refine .object_any fun o => ?_
  split
  · exact steady_call hg _ _
  · exact steady_invoke hg _ _ _
  · exact .fail

theorem steady_makeObject (hg : g.LeavesTexts) (r : Ref) (args : List Ref) :
    Steady bare (makeObject g r args) := by
  refine .object_any fun o => ?_
  split
  · exact steady_make hg _ _
  · exact steady_invoke hg _ _ _
  · exact .fail

theorem steady_callMember (hg : g.LeavesTexts) (id : Nat) (target : Ref) (name : WideText)
    (args : List Ref) : Steady bare (callMember g id target name args) := by
  have hfound : ∀ m log found m' log',
      build ((g.conduct id).member target name) m log = (.ok (found, m'), log') →
        ∀ x, found = some x → x.Steady := by
    intro m log found m' log' h
    simp only [Machine.build] at h
    cases hrun : (g.conduct id).member target name m.store with
    | none =>
      rw [hrun] at h
      cases h
    | some p =>
      rw [hrun] at h
      cases h
      exact (hg id).found target name _ _ _ hrun
  refine .bind_of (.build ((hg id).member target name)) hfound fun found hcode => ?_
  split
  · exact .pure _
  · exact .bind (steady_callObject hg _ _).discard fun _ => .pure _
  · exact .bind (.build (hcode _ rfl args)) fun _ => .pure _

/-! ### Changing objects -/

theorem steady_integer (r : Ref) : Steady bare (build (Build.integer r)) := .build (.integer r)

theorem steady_byteAt (r : Ref) : Steady bare (byteAt r) := by
  refine .bind (steady_integer r) fun n => ?_
  split
  · exact .pure _
  · exact .fail

theorem steady_callEach (hg : g.LeavesTexts) (id : Nat) (target : Ref) (name : WideText)
    (items : List Ref) : Steady bare (items.forM fun r => do
      if !(← callMember g id target name [r]) then fail) := by
  refine .forM (fun r => .bind (steady_callMember hg _ _ _ _) fun called => ?_) items
  split
  · exact .fail
  · exact .pure _

theorem steady_extendInstance (hg : g.LeavesTexts) (id : Nat) (target : Ref) (items : List Ref) :
    Steady bare (extendInstance g id target items) := by
  refine .bind (.build (.add _)) fun all => .bind (steady_callMember hg _ _ _ _) fun called => ?_
  split
  · exact steady_callEach hg _ _ _ _
  · exact .pure _

theorem steady_extend (hg : g.LeavesTexts) (target : Ref) (items : List Ref) :
    Steady bare (extend g target items) := by
  refine .object (fun _ _ => .fail) fun o _ => ?_
  split
  · exact steady_change List.mem_cons_self nofun
  · exact steady_change List.mem_cons_self nofun
  · exact .bind (.mapM steady_byteAt _) fun _ => steady_change List.mem_cons_self nofun
  · exact steady_extendInstance hg _ _ _
  · exact steady_extendInstance hg _ _ _
  · exact .fail

theorem steady_setEntry (hg : g.LeavesTexts) (target key value : Ref) :
    Steady bare (setEntry g target key value) := by
  refine .bind .get fun m => .object (fun _ _ => .fail) fun o _ => ?_
  split
  · exact .bind (.orFail _) fun _ => steady_change List.mem_cons_self nofun
  · exact .bind (.orFail _) fun _ => steady_change List.mem_cons_self nofun
  · refine .bind (steady_integer key) fun _ => .bind (.orFail _) fun _ => ?_
    exact steady_change List.mem_cons_self nofun
  · refine .bind (steady_integer key) fun _ => .bind (.orFail _) fun _ => ?_
    exact steady_change List.mem_cons_self nofun
  · refine .bind (steady_integer key) fun _ => .bind (.orFail _) fun _ => ?_
    exact .bind (steady_byteAt value) fun _ => steady_change List.mem_cons_self nofun
  · split
    · exact .build ((hg _).setEntry _ ‹_› target key value)
    · exact .fail
  · exact .fail

theorem steady_addMembers (hg : g.LeavesTexts) (target : Ref) (items : List Ref) :
    Steady bare (addMembers g target items) := by
  refine .object (fun _ _ => .fail) fun o _ => ?_
  split
  · refine .bind .get fun m => .bind (.orFail _) fun _ => ?_
    exact steady_change List.mem_cons_self nofun
  · split
    · exact .build ((hg _).addMembers _ ‹_› target items)
    · exact steady_callEach hg _ _ _ _
  · exact steady_callEach hg _ _ _ _
  · exact .fail

theorem steady_attributeKey (r : Ref) : Steady bare (attributeKey r) := by
  refine .object_any fun o => ?_
  split
  · exact .build (.add _)
  · exact .pure _

theorem steady_setAttributes (id : Nat) (old entries : List (Ref × Ref)) (htarget : target ∈ bare) :
    Steady bare (setAttributes id target old entries) := by
  refine .bind (.foldlM (fun es e => ?_) _ _) fun updated => steady_change htarget nofun
  exact .bind (steady_attributeKey e.1) fun key => .bind .get fun m => .orFail _

/-- The target is an identifier. -/
theorem steady_setIdentifier (state : Ref) (htarget : target ∈ bare) :
    Steady bare (setIdentifier target state) := by
  refine .bind (steady_dictAt state) fun es => .bind .get fun m => .bind (.orFail _) fun r => ?_
  extract_lets k
  have hk (u : PUnit) : Steady bare (k u) := steady_change htarget nofun
  clear_value k
  split
  · exact hk ()
  · refine .object_any fun o => ?_
    split
    · exact .fail_bind
    · exact hk ()

theorem steady_setOwn (id : Nat) (attributes : List (Ref × Ref)) (name : WideText)
    (entry : Ref × Ref) (htarget : target ∈ bare) :
    Steady bare (setOwn id target attributes name entry) := by
  unfold setOwn
  split
  · refine .bind (steady_classAt _) fun c => ?_
    split
    · exact steady_change htarget nofun
    · exact .fail
  · split
    · exact .bind (steady_dictAt _) fun es => steady_change htarget nofun
    · split
      · exact .fail
      · exact steady_setAttributes _ _ _ htarget

theorem steady_setNamed (hg : g.LeavesTexts) (target : Ref) (entry : Ref × Ref) :
    Steady bare (setNamed g target entry) := by
  refine .bind .get fun m => .bind (.orFail _) fun name => ?_
  refine .object (fun _ _ => .fail) fun o _ => ?_
  split
  · split
    · exact .build ((hg _).setNamed _ ‹_› target entry)
    · exact steady_setOwn _ _ _ _ List.mem_cons_self
  · exact .pure _
  · split
    · exact .build ((hg _).setNamed _ ‹_› target entry)
    · exact .pure _
  · exact .pure _
  · exact .fail

theorem steady_setState (hg : g.LeavesTexts) (target state : Ref) :
    Steady bare (setState g target state) := by
  refine .object_any fun o => ?_
  split
  · exact .pure _
  · refine .bind (steady_dictAt state) fun es => .object (fun _ _ => .fail) fun o _ => ?_
    split
    · split
      · exact .build ((hg _).setState _ ‹_› target es)
      · exact steady_setAttributes _ _ _ List.mem_cons_self
    · exact .pure _
    · split
      · exact .fail
      · exact .pure _
    · exact .fail

theorem steady_setWholeState (hg : g.LeavesTexts) (target state : Ref) :
    Steady bare (setWholeState g target state) := by
  refine .object_any fun o => ?_
  split
  · refine .bind (steady_setState hg _ _) fun _ => .bind (steady_dictAt _) fun es => ?_
    exact .forM (steady_setNamed hg target) es
  · exact steady_setState hg _ _

theorem steady_restoreInstance (hg : g.LeavesTexts) (id : Nat) (target state : Ref) :
    Steady bare (restoreInstance g id target state) := by
  refine .bind (steady_callMember hg _ _ _ _) fun called => ?_
  split
  · exact steady_setWholeState hg _ _
  · exact .pure _

theorem steady_restore (hg : g.LeavesTexts) (target state : Ref) :
    Steady bare (restore g target state) := by
  refine .object (fun _ _ => steady_setWholeState hg _ _) fun o _ => ?_
  split
  · exact steady_setIdentifier _ List.mem_cons_self
  · exact .fail
  · exact steady_restoreInstance hg _ _ _
  · exact steady_restoreInstance hg _ _ _
  · exact steady_setWholeState hg _ _

/-! ### Instructions -/

/-- **An instruction leaves alone what this module is about**, unless it is one of the two that keep
a value under a number. -/
theorem steady_step (hg : g.LeavesTexts) {i : Instruction} (hi : i.isKeeping = false) :
    Steady bare (step g i) := by
  cases i with
  | protocol version =>
    simp only [step]
    split
    · exact .pure _
    · exact .fail
  | frame | stop => exact .pure _
  | mark => exact steady_setMark
  | pop => exact steady_drop
  | popMark => exact steady_popToMark.discard
  | duplicate => exact .bind steady_top fun r => steady_push r
  | none | bool | int | float | text | bytes | byteArray | emptyTuple | emptyList | emptyDict
  | emptySet => exact steady_pushNew _
  | tupleOf size => exact .bind (steady_popMany size) fun items => steady_pushNew _
  | tuple | list => exact .bind steady_popToMark fun items => steady_pushNew _
  | dict =>
    refine .bind steady_popToMark fun items => .bind (.orFail _) fun es => ?_
    exact .bind (.build (.setAll _ _)) fun all => steady_pushNew _
  | frozenSet =>
    refine .bind steady_popToMark fun items => .bind .get fun m => ?_
    exact .bind (.orFail _) fun members => steady_pushNew _
  | append => exact .bind steady_pop fun item => .bind steady_top fun target => steady_extend hg _ _
  | appends =>
    refine .bind steady_popToMark fun items => .bind steady_top fun target => ?_
    split
    · exact .pure _
    · exact steady_extend hg _ _
  | setItem =>
    refine .bind steady_pop fun value => .bind steady_pop fun key => ?_
    exact .bind steady_top fun target => steady_setEntry hg _ _ _
  | setItems =>
    refine .bind steady_popToMark fun items => .bind steady_top fun target => ?_
    exact .bind (.orFail _) fun es => .forM (fun e => steady_setEntry hg _ _ _) es
  | addItems =>
    refine .bind steady_popToMark fun items => .bind steady_top fun target => ?_
    split
    · exact .pure _
    · exact steady_addMembers hg _ _
  | global module name => exact .bind (steady_resolve _) fun c => steady_pushNew _
  | stackGlobal =>
    refine .bind steady_pop fun name => .bind steady_pop fun module => .bind .get fun m => ?_
    refine .bind (.orFail _) fun name => .bind (.orFail _) fun module => ?_
    exact .bind (steady_resolve _) fun c => steady_pushNew _
  | extension => exact .fail
  | newNamed module name =>
    refine .bind steady_popToMark fun args => .bind (steady_resolve _) fun c => ?_
    exact .bind (steady_make hg c args) fun r => steady_push r
  | newMarked =>
    refine .bind steady_popToMark fun items => ?_
    split
    · exact .bind (steady_makeObject hg _ _) fun r => steady_push r
    · exact .fail
  | newObject =>
    refine .bind steady_pop fun r => .bind (steady_tupleAt r) fun args => ?_
    refine .bind steady_pop fun r => .bind (steady_classAt r) fun c => ?_
    exact .bind (steady_createBlank hg _ _ _) fun r => steady_push r
  | newObjectNamed =>
    refine .bind steady_pop fun r => .bind (steady_dictAt r) fun named => ?_
    refine .bind steady_pop fun r => .bind (steady_tupleAt r) fun args => ?_
    refine .bind steady_pop fun r => .bind (steady_classAt r) fun c => ?_
    exact .bind (steady_createBlank hg _ _ _) fun r => steady_push r
  | reduce =>
    refine .bind steady_pop fun r => .bind (steady_tupleAt r) fun args => ?_
    exact .bind steady_pop fun r => .bind (steady_callObject hg _ _) fun r => steady_push r
  | build => exact .bind steady_pop fun state => .bind steady_top fun target => steady_restore hg _ _
  | get index => exact .bind .get fun m => .bind (.orFail _) fun r => steady_push r
  | put | memoize => cases hi
  | readOnly =>
    refine .bind steady_top fun r => .object_any fun o => ?_
    split
    · exact .pure _
    · exact .pure _
    · exact .bind steady_pop.discard fun _ => steady_pushNew _
    · exact .fail

end Machine

end Wire

end ServiceStubs
