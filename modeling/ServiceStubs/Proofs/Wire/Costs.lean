import Mathlib.Algebra.BigOperators.Group.Finset.Basic
import Mathlib.Algebra.Order.BigOperators.Group.Finset
import ServiceStubs.Proofs.Wire.Filling
import ServiceStubs.Proofs.Wire.Weight

/-!
# What writers cost

Each object has an account with what it takes. A writer pays for an object from the account when
the object gets its number, and later occurrences cost next to nothing. So what is left of a bound
for the whole value is a bound for the rest of it.

## Main definitions

* `Writer.accounts`: what is left for the objects that have no number
* `Costs`: what a writer costs apart from the accounts

## Main statements

* `Costs.both`, `Costs.fetchOr`: what writers cost that are put together
-/

namespace ServiceStubs

namespace Wire

/-! ### Accounts -/


/-- The numbers of the objects are below the count. -/
def Writer.Numbered (w : Writer) : Prop := ∀ (i : Identity) (n : Nat), w.known[i]? = some n → n < w.count

/-- What is left for the object at a place. -/
def Writer.account (g : Registry) (s : Store) (w : Writer) (x : Ref) : Nat :=
  match s.get? x with
  | some o => if o.identity x ∈ w.known then 0 else o.weight g s
  | none => 0

/-- What is left for the objects at some places. -/
def Writer.accounts (g : Registry) (s : Store) (places : Finset Ref) (w : Writer) : Nat :=
  ∑ x ∈ places, w.account g s x

variable {g : Registry} {s : Store} {places : Finset Ref}

theorem Writer.account_le {w w' : Writer} (h : ∀ i ∈ w.known, i ∈ w'.known) (x : Ref) :
    w'.account g s x ≤ w.account g s x := by
  unfold account
  split
  · split
    · exact Nat.zero_le _
    · rw [if_neg fun hmem => ‹¬ _› (h _ hmem)]
  · exact Nat.le_refl _

theorem Writer.accounts_le {w w' : Writer} (h : ∀ i ∈ w.known, i ∈ w'.known) :
    w'.accounts g s places ≤ w.accounts g s places :=
  Finset.sum_le_sum fun x _ => account_le h x

/-- The writer went on and put out pieces. Identities of a list have a number then, and apart from
the objects that got a number, the pieces cost no more than told. -/
structure Spends (g : Registry) (s : Store) (places : Finset Ref) (learned : List Identity)
    (cost : Nat) (w : Writer) (ps : List Piece) (w' : Writer) : Prop where
  known : ∀ i ∈ w.known, i ∈ w'.known
  learned : ∀ i ∈ learned, i ∈ w'.known
  numbered : w'.Numbered
  isBelow : ∀ p ∈ ps, p.IsBelow w'.count
  count_le : w.count ≤ w'.count
  count : w'.count ≤ w.count + weight ps
  weight : weight ps + w'.accounts g s places ≤ w.accounts g s places + cost

/-- What a writer costs, and the identities that have a number when it is done. -/
def Costs (g : Registry) (s : Store) (places : Finset Ref) (learned : List Identity) (write : Write)
    (cost : Nat) : Prop :=
  ∀ w ps w', w.Numbered → write w = .ok (ps, w') → Spends g s places learned cost w ps w'


namespace Costs

variable {write a b : Write} {L M : List Identity} {c d : Nat} {i : Identity} {j : Instruction}

theorem mono (h : Costs g s places L write c) (hML : ∀ i ∈ M, i ∈ L) (hcd : c ≤ d) :
    Costs g s places M write d := by
  intro w ps w' hw hrun
  have hspends := h w ps w' hw hrun
  exact { hspends with
    learned := fun i hi => hspends.learned i (hML i hi)
    weight := Nat.le_trans hspends.weight (Nat.add_le_add_left hcd _) }

/-- What is learned can be left out. -/
theorem le (h : Costs g s places L write c) (hcd : c ≤ d) : Costs g s places [] write d :=
  h.mono (by simp) hcd

theorem of_throw {e : WriteError} : Costs g s places L (throw e) c := by
  intro w ps w' _ hrun
  cases hrun

/-- Pieces that do not change the numbers. -/
theorem of_pieces {ps : List Piece} (hps : ∀ p ∈ ps, ∀ n, p.IsBelow n) :
    Costs g s places [] (return ps) (weight ps) := by
  intro w qs w' hw hrun
  cases hrun
  exact ⟨fun i hi => hi, by simp, hw, fun p hp => hps p hp _, Nat.le_refl _, Nat.le_add_right _ _,
    (Nat.add_comm _ _).le⟩

theorem nothing : Costs g s places [] Writer.nothing 0 := of_pieces (by simp)

theorem emit (hj : ∀ n, Piece.IsBelow n (.instruction j)) :
    Costs g s places [] (Writer.emit j) (j.form.length + 9) := by
  have hpiece : ∀ p ∈ Writer.one j, ∀ n, p.IsBelow n := by simpa [Writer.one] using hj
  exact of_pieces hpiece

theorem both (ha : Costs g s places L a c) (hb : Costs g s places M b d) :
    Costs g s places (L ++ M) (Writer.both a b) (c + d) := by
  intro w ps w'' hw hrun
  obtain ⟨qs, w', rs, hfirst, hsecond, rfl⟩ := Writer.of_both hrun
  replace hfirst := ha w qs w' hw hfirst
  replace hsecond := hb w' rs w'' hfirst.numbered hsecond
  refine ⟨fun i hi => hsecond.known i (hfirst.known i hi), fun i hi => ?_, hsecond.numbered,
    fun p hp => ?_, Nat.le_trans hfirst.count_le hsecond.count_le, ?_, ?_⟩
  · rcases List.mem_append.1 hi with hi | hi
    · exact hsecond.known i (hfirst.learned i hi)
    · exact hsecond.learned i hi
  · rcases List.mem_append.1 hp with hp | hp
    · exact (hfirst.isBelow p hp).mono hsecond.count_le
    · exact hsecond.isBelow p hp
  · have hcount := hfirst.count
    have hcount' := hsecond.count
    rw [weight_append]
    omega
  · have hweight := hfirst.weight
    have hweight' := hsecond.weight
    rw [weight_append]
    omega

theorem begin_ (h : Costs g s places L write c) : Costs g s places L (Writer.begin_ write) (c + 9) := by
  have hstart : Costs g s places [] (return [Piece.start]) 9 := of_pieces (by simp [Piece.IsBelow])
  exact (hstart.both h).mono (by simp) (by omega)

theorem keep (i : Identity) : Costs g s places [i] (Writer.keep i) 10 := by
  intro w ps w' hw hrun
  cases hrun
  have hknown : ∀ j ∈ w.known, j ∈ w.known.insert i w.count := fun j hj =>
    Std.HashMap.mem_insert.2 (.inr hj)
  refine ⟨hknown, by simp, fun j n hj => ?_, by simp [Writer.one, Piece.IsBelow], Nat.le_succ _, ?_, ?_⟩
  · rw [Std.HashMap.getElem?_insert] at hj
    split at hj
    · cases hj
      exact Nat.lt_succ_self _
    · exact Nat.lt_succ_of_lt (hw j n hj)
  · simp [Writer.one, Piece.weight, Instruction.form]
  · have hle : Writer.accounts g s places ⟨w.known.insert i w.count, w.count + 1⟩ ≤
        w.accounts g s places := Writer.accounts_le hknown
    simp only [Writer.one, weight_cons, weight_nil, Piece.weight, Instruction.form,
      List.length_singleton]
    omega

theorem keepNew : Costs g s places [] Writer.keepNew 10 := by
  intro w ps w' hw hrun
  cases hrun
  refine ⟨fun _ hi => hi, by simp, fun j n hj => Nat.lt_succ_of_lt (hw j n hj),
    by simp [Writer.one, Piece.IsBelow], Nat.le_succ _, ?_, ?_⟩
  · simp [Writer.one, Piece.weight, Instruction.form]
  · simp only [Writer.one, weight_cons, weight_nil, Piece.weight, Instruction.form,
      List.length_singleton]
    have hle : (⟨w.known, w.count + 1⟩ : Writer).accounts g s places = w.accounts g s places := rfl
    omega

theorem keepAs (i : Option Identity) : Costs g s places i.toList (Writer.keepAs i) 10 := by
  cases i with
  | none => exact keepNew
  | some i => exact keep i

/-! ### Objects that may have a number -/

/-- An object that has a number is fetched by it. -/
theorem spends_get {w : Writer} {n : Nat} {ps : List Piece} (hw : w.Numbered)
    (hi : w.known[i]? = some n) (hps : ∀ p ∈ ps, ∀ n, p.IsBelow n) (hc : weight ps + 14 ≤ c) :
    Spends g s places [i] c w (ps ++ [.instruction (.get n)]) w := by
  have hform : (Instruction.get n).form.length ≤ 5 := by
    simp only [Instruction.form, Instruction.indexForm]
    split <;> simp
  refine ⟨fun _ hj => hj, fun j hj => ?_, hw, fun p hp => ?_, Nat.le_refl _, Nat.le_add_right _ _, ?_⟩
  · obtain rfl := List.mem_singleton.1 hj
    exact Std.HashMap.mem_iff_isSome_getElem?.2 (by rw [hi]; rfl)
  · rcases List.mem_append.1 hp with hp | hp
    · exact hps p hp _
    · obtain rfl := List.mem_singleton.1 hp
      exact hw i n hi
  · simp only [weight_append, weight_cons, weight_nil, Piece.weight]
    omega

/-- What is written depends on whether an object has a number: if it has, it is fetched after what
was written in vain is dropped. -/
theorem get_known {f : Option Nat → Write} (drop : List Piece) (hL : ∀ j ∈ L, j = i)
    (hdrop : ∀ p ∈ drop, ∀ n, p.IsBelow n)
    (hget : ∀ n, f (some n) = return drop ++ [.instruction (.get n)]) (hc : weight drop + 14 ≤ c)
    (hnew : ∀ w ps w', w.Numbered → i ∉ w.known → f none w = .ok (ps, w') →
      Spends g s places L c w ps w') :
    Costs g s places L (do f (← get).known[i]?) c := by
  intro w ps w' hw hrun
  replace hrun : f w.known[i]? w = .ok (ps, w') := hrun
  cases hi : w.known[i]? with
  | some n =>
    rw [hi, hget] at hrun
    cases hrun
    have hspends : Spends g s places [i] c w _ w := spends_get hw hi hdrop hc
    exact { hspends with learned := fun j hj => hspends.learned j (by simp [hL j hj]) }
  | none =>
    rw [hi] at hrun
    refine hnew w ps w' hw (fun hmem => ?_) hrun
    rw [Std.HashMap.mem_iff_isSome_getElem?, hi] at hmem
    cases hmem

theorem fetchOr_of (hL : ∀ j ∈ L, j = i) (hc : 14 ≤ c)
    (hnew : ∀ w ps w', w.Numbered → i ∉ w.known → write w = .ok (ps, w') →
      Spends g s places L c w ps w') :
    Costs g s places L (Writer.fetchOr i write) c :=
  get_known (f := Writer.byNumber (fun n => return Writer.one (.get n)) write) [] hL (by simp)
    (fun _ => rfl) (by simpa using hc) hnew

theorem fetchOr (hL : ∀ j ∈ L, j = i) (hc : 14 ≤ c) (h : Costs g s places L write c) :
    Costs g s places L (Writer.fetchOr i write) c :=
  fetchOr_of hL hc fun w ps w' hw _ => h w ps w' hw

theorem finish {drop : List Instruction}
    (hj : ∀ n, Piece.IsBelow n (.instruction j))
    (hdrop : ∀ p ∈ drop.map Piece.instruction, ∀ n, p.IsBelow n)
    (htake : j.form.length + 19 ≤ c) (hc : weight (drop.map .instruction) + 14 ≤ c) :
    Costs g s places [i] (Writer.finish i j drop) c := by
  have htaken : Costs g s places [i] (Writer.both (Writer.emit j) (Writer.keep i)) c :=
    ((emit hj).both (keep i)).mono (by simp) htake
  refine get_known (f := Writer.byNumber
    (fun n => return (drop ++ [Instruction.get n]).map .instruction)
    (Writer.both (Writer.emit j) (Writer.keep i))) _ (by simp) hdrop (fun n => ?_) hc
    fun w ps w' hw _ => htaken w ps w' hw
  simp only [Writer.byNumber, List.map_append, List.map_cons, List.map_nil]

/-! ### Sequences -/

variable {α : Type} {f : α → Write} {cost : α → Nat} {xs : List α}

theorem all {ws : List Write} {cs : List Nat} (h : List.Forall₂ (Costs g s places []) ws cs) :
    Costs g s places [] (Writer.all ws) cs.sum := by
  induction h with
  | nil => exact nothing
  | cons hw _ ih =>
    rw [Pushes.all_cons, List.sum_cons]
    exact hw.both ih

theorem each (h : ∀ x ∈ xs, Costs g s places [] (f x) (cost x)) :
    Costs g s places [] (Writer.all (xs.map f)) (xs.map cost).sum := by
  refine all ?_
  rw [List.forall₂_map_left_iff, List.forall₂_map_right_iff]
  exact List.forall₂_same.2 h

theorem batch (hj : ∀ n, Piece.IsBelow n (.instruction j)) (hform : j.form.length = 1)
    (h : ∀ x ∈ xs, Costs g s places [] (f x) (cost x)) :
    Costs g s places [] (Writer.batch j (xs.map f)) ((xs.map cost).sum + 20) := by
  have hmark : Costs g s places [] (Writer.emit .mark) 10 := emit fun _ => trivial
  exact (hmark.both ((each h).both (emit hj))).le (by omega)

/-- A batch is paid by its items, if it has one at least. -/
theorem batch_le (hj : ∀ n, Piece.IsBelow n (.instruction j)) (hform : j.form.length = 1)
    (hxs : xs ≠ []) (h : ∀ x ∈ xs, Costs g s places [] (f x) (cost x)) :
    Costs g s places [] (Writer.batch j (xs.map f)) (xs.map fun x => cost x + 20).sum := by
  refine (batch hj hform h).le ?_
  obtain ⟨x, xs, rfl⟩ := List.exists_cons_of_ne_nil hxs
  have hrest : (xs.map cost).sum ≤ (xs.map fun x => cost x + 20).sum :=
    List.sum_le_sum fun x _ => Nat.le_add_right _ _
  simp only [List.map_cons, List.sum_cons]
  omega

theorem ne_nil_of_mem_chunks {β : Type} {size : Nat} {xs ys : List β}
    (h : ys ∈ Wire.chunks size xs) : ys ≠ [] := by
  fun_induction Wire.chunks size xs with
  | case1 => cases h
  | case2 xs hxs ih =>
    rcases List.mem_cons.1 h with rfl | h
    · simpa [not_or, and_comm] using hxs
    · exact ih h

/-- Batches cost what their items cost, if each batch does. -/
theorem batches {size : Nat} (wrap : List Write → Write) (hsize : size ≠ 0)
    (h : ∀ ys, ys ≠ [] → (∀ x ∈ ys, x ∈ xs) →
      Costs g s places [] (wrap (ys.map f)) (ys.map cost).sum) :
    ∃ cs : List Nat, List.Forall₂ (Costs g s places []) ((chunks size (xs.map f)).map wrap) cs ∧
      cs.sum = (xs.map cost).sum := by
  refine ⟨(chunks size xs).map fun ys => (ys.map cost).sum, ?_, ?_⟩
  · rw [chunks_map, List.map_map, List.forall₂_map_left_iff, List.forall₂_map_right_iff]
    refine List.forall₂_same.2 fun ys hys => h ys (ne_nil_of_mem_chunks hys) fun x hx => ?_
    rw [← flatten_chunks hsize xs]
    exact List.mem_flatten.2 ⟨ys, hys, hx⟩
  · conv_rhs => rw [← flatten_chunks hsize xs, List.map_flatten, List.sum_flatten, List.map_map]
    rfl

theorem listItems (h : ∀ x ∈ xs, Costs g s places [] (f x) (cost x)) :
    Costs g s places [] (Writer.listItems (xs.map f)) (xs.map fun x => cost x + 20).sum := by
  unfold Writer.listItems
  split
  case h_1 w hw =>
    obtain ⟨x, rfl, rfl⟩ := List.map_eq_singleton_iff.1 hw
    have happend : Costs g s places [] (Writer.emit .append) 10 := emit fun _ => trivial
    exact ((h x (by simp)).both happend).le (by simp)
  case h_2 =>
    obtain ⟨cs, hcs, hsum⟩ := batches _ (by decide : Writer.batchSize ≠ 0) fun ys hne hys =>
      batch_le (j := .appends) (fun _ => trivial) rfl hne fun x hx => h x (hys x hx)
    exact hsum ▸ all hcs

/-- Batches up to one that is not full. -/
theorem unfull (last : Bool) (hj : ∀ n, Piece.IsBelow n (.instruction j)) (hform : j.form.length = 1)
    (h : ∀ x ∈ xs, Costs g s places [] (f x) (cost x)) :
    Costs g s places [] (Writer.all (if last then
        (chunks Writer.batchSize (xs.map f)).map (Writer.batch j) ++ [Writer.batch j []]
      else (chunks Writer.batchSize (xs.map f)).map (Writer.batch j)))
      ((xs.map fun x => cost x + 20).sum + 20) := by
  obtain ⟨cs, hcs, hsum⟩ := batches _ (by decide : Writer.batchSize ≠ 0) fun ys hne hys =>
    batch_le hj hform hne fun x hx => h x (hys x hx)
  have hlast : Costs g s places [] (Writer.batch j ([].map f)) (([].map cost).sum + 20) :=
    batch hj hform (by simp)
  split
  · exact (all (List.rel_append hcs (.cons hlast .nil))).le (by simp [hsum])
  · exact (all hcs).le (by omega)

theorem setMembers (h : ∀ x ∈ xs, Costs g s places [] (f x) (cost x)) :
    Costs g s places [] (Writer.setMembers (xs.map f)) ((xs.map fun x => cost x + 20).sum + 20) := by
  unfold Writer.setMembers
  split
  case h_1 => exact nothing.le (Nat.zero_le _)
  case h_2 => exact unfull _ (fun _ => trivial) rfl h

theorem dictEntries (h : ∀ x ∈ xs, Costs g s places [] (f x) (cost x)) :
    Costs g s places [] (Writer.dictEntries (xs.map f)) ((xs.map fun x => cost x + 20).sum + 20) := by
  unfold Writer.dictEntries
  split
  case h_1 => exact nothing.le (Nat.zero_le _)
  case h_2 w hw =>
    obtain ⟨x, rfl, rfl⟩ := List.map_eq_singleton_iff.1 hw
    have hset : Costs g s places [] (Writer.emit .setItem) 10 := emit fun _ => trivial
    exact ((h x (by simp)).both hset).le (by simp)
  case h_3 => exact unfull _ (fun _ => trivial) rfl h

/-- What is written for a group of members: a lone one by itself, others in a batch. -/
def group (one several : Instruction) (items : List Write) : Write :=
  match items with
  | [item] => Writer.both item (Writer.emit one)
  | _ => Writer.batch several items

theorem streamed {one several : Instruction} (hone : ∀ n, Piece.IsBelow n (.instruction one))
    (hseveral : ∀ n, Piece.IsBelow n (.instruction several)) (hform : one.form.length = 1)
    (hform' : several.form.length = 1) (h : ∀ x ∈ xs, Costs g s places [] (f x) (cost x)) :
    Costs g s places [] (Writer.streamed one several (xs.map f))
      (xs.map fun x => cost x + 20).sum := by
  obtain ⟨cs, hcs, hsum⟩ : ∃ cs : List Nat, List.Forall₂ (Costs g s places [])
      ((chunks Writer.batchSize (xs.map f)).map (group one several)) cs ∧
        cs.sum = (xs.map fun x => cost x + 20).sum := by
    refine batches _ (by decide) fun ys hne hys => ?_
    unfold group
    split
    case h_1 w hw =>
      obtain ⟨x, rfl, rfl⟩ := List.map_eq_singleton_iff.1 hw
      exact ((h x (hys x (by simp))).both (emit hone)).le (by simp; omega)
    case h_2 => exact batch_le hseveral hform' hne fun x hx => h x (hys x hx)
  rw [← hsum]
  exact all hcs

end Costs

end Wire

end ServiceStubs
