import Mathlib.Data.List.Basic
import Mathlib.Data.List.Perm.Basic
import Mathlib.Data.List.Nodup
import ServiceStubs.Expansion.Edit

/-!
# Edits that are made at once

Edits are applied one after the other to lines that each of them changes. If no edit reaches into
the range of another one, that comes to the same as making them all at once: for every position of
the original lines it is known what stands there, whatever the order in which the edits were
recorded (`Edit.replaceAll`).

In between stands a walk from the top to the bottom (`Edit.splice`). The order in which edits are
applied is that of the walk backwards, so an edit always finds the lines up to its range as they
were. And what the walk passes at each position is what stands there when all edits are made at
once.

## Main definitions

* `Expansion.Edit.Compatible`: edits of a file that leave each other's ranges alone
* `Expansion.Edit.replaceAll`: the lines with all edits made at once

## Main statements

* `Expansion.Edit.foldr_apply`: the edits applied from the bottom up
* `Expansion.Edit.flatMap_linesAt`: the edits made at once
* `Expansion.Edit.applyAll_eq_replaceAll`: the two are the same
-/

namespace ServiceStubs

namespace Expansion

namespace Edit

/-! ### All edits at once -/

/-- Neither range reaches into the other one. A position where lines are added may be at either end
of another range, but not inside. -/
def Apart (a b : Edit) : Prop := a.stop ≤ b.start ∨ b.stop ≤ a.start

/-- What tells edits of a file apart. -/
def key (e : Edit) : ℕ × ℕ × ℕ := (e.start, e.stop, e.priority)

/-- Edits of a file of `n` lines whose ranges lie within it and do not overlap. -/
structure Compatible (n : ℕ) (edits : List Edit) : Prop where
  ranges : ∀ e ∈ edits, e.start ≤ e.stop ∧ e.stop ≤ n
  apart : edits.Pairwise Apart
  keys : (edits.map key).Nodup

/-- The edits that add lines at a position and remove none, in ascending priority. -/
def insertionsAt (edits : List Edit) (p : ℕ) : List Edit :=
  (edits.filter fun e => e.start = p ∧ e.stop = p).mergeSort fun a b => a.priority ≤ b.priority

/-- The edits that replace the lines from a position on. -/
def replacementsAt (edits : List Edit) (p : ℕ) : List Edit :=
  edits.filter fun e => e.start = p ∧ p < e.stop

/-- The line at a position, unless it is in the range of an edit. -/
def keptAt (ls : List String) (edits : List Edit) (p : ℕ) : List String :=
  if edits.any fun e => e.start ≤ p ∧ p < e.stop then [] else ls[p]?.toList

/-- What stands at a position of the original lines: what is added there, then what replaces the
lines from there on or the line that is kept. -/
def linesAt (ls : List String) (edits : List Edit) (p : ℕ) : List String :=
  (insertionsAt edits p).flatMap lines ++ (replacementsAt edits p).flatMap lines ++
    keptAt ls edits p

/-- The lines with all edits made at once. The position behind the last line is one of them. -/
def replaceAll (ls : List String) (edits : List Edit) : List String :=
  (List.range (ls.length + 1)).flatMap (linesAt ls edits)

/-! ### Edits in the order of their positions -/

/-- The first edit ends before the second one starts. At one position, edits that add lines are in
ascending priority. -/
def Precedes (a b : Edit) : Prop :=
  a.stop ≤ b.start ∧ (a.start = b.start → a.stop = b.stop → a.priority < b.priority)

theorem isNotBefore_trans (a b c : Edit) (hab : isNotBefore a b = true)
    (hbc : isNotBefore b c = true) : isNotBefore a c = true := by
  simp only [isNotBefore, Bool.or_eq_true, Bool.and_eq_true, decide_eq_true_eq, beq_iff_eq] at *
  omega

theorem isNotBefore_total (a b : Edit) : (isNotBefore a b || isNotBefore b a) = true := by
  simp only [isNotBefore, Bool.or_eq_true, Bool.and_eq_true, decide_eq_true_eq, beq_iff_eq] at *
  omega

/-- Of two edits that leave each other's ranges alone, the one that is applied later precedes. -/
theorem precedes_of_isNotBefore {a b : Edit} (h : isNotBefore a b = true) (ha : a.start ≤ a.stop)
    (hapart : Apart a b) (hkey : a.key ≠ b.key) : Precedes b a := by
  simp only [isNotBefore, Bool.or_eq_true, Bool.and_eq_true, decide_eq_true_eq, beq_iff_eq] at h
  simp only [key, ne_eq, Prod.mk.injEq] at hkey
  simp only [Precedes, Apart] at *
  omega

/-- Edits in the order in which they are applied, backwards. -/
def ordered (edits : List Edit) : List Edit := (edits.mergeSort isNotBefore).reverse

theorem ordered_perm (edits : List Edit) : (ordered edits).Perm edits :=
  (List.reverse_perm _).trans (List.mergeSort_perm _ _)

theorem Compatible.pairwise_ordered {n : ℕ} {edits : List Edit} (h : Compatible n edits) :
    (ordered edits).Pairwise Precedes := by
  have hperm := List.mergeSort_perm edits isNotBefore
  have hsorted := List.pairwise_mergeSort isNotBefore_trans isNotBefore_total edits
  have hapart : (edits.mergeSort isNotBefore).Pairwise Apart :=
    (hperm.pairwise_iff fun h => h.symm).mpr h.apart
  have hkeys : (edits.mergeSort isNotBefore).Pairwise fun a b => a.key ≠ b.key :=
    List.pairwise_map.mp ((hperm.map key).nodup_iff.mpr h.keys)
  refine List.pairwise_reverse.mpr (((hsorted.and hapart).and hkeys).imp_of_mem ?_)
  rintro a b ha - ⟨⟨hnot, hab⟩, hkey⟩
  exact precedes_of_isNotBefore hnot (h.ranges a (hperm.mem_iff.mp ha)).1 hab hkey

/-! ### The walk -/

/-- The lines from a position on, where the edits are met one after the other. -/
def splice (ls : List String) (pos : ℕ) : List Edit → List String
  | [] => ls.drop pos
  | e :: es => (ls.drop pos).take (e.start - pos) ++ e.lines ++ splice ls e.stop es

/-- Edits that are met one after the other on a walk from a position on. -/
structure Ahead (n pos : ℕ) (edits : List Edit) : Prop where
  pairwise : edits.Pairwise Precedes
  ranges : ∀ e ∈ edits, e.start ≤ e.stop ∧ e.stop ≤ n
  starts : ∀ e ∈ edits, pos ≤ e.start

theorem Ahead.tail {n pos : ℕ} {e : Edit} {es : List Edit} (h : Ahead n pos (e :: es)) :
    Ahead n e.stop es where
  pairwise := (List.pairwise_cons.mp h.pairwise).2
  ranges f hf := h.ranges f (List.mem_cons_of_mem _ hf)
  starts f hf := ((List.pairwise_cons.mp h.pairwise).1 f hf).1

/-- **From the bottom up.** An edit finds the lines up to its range as they were. -/
theorem foldr_apply {ls : List String} {pos : ℕ} {edits : List Edit}
    (h : Ahead ls.length pos edits) :
    edits.foldr (fun e r => apply r e) ls = ls.take pos ++ splice ls pos edits := by
  induction edits generalizing pos with
  | nil => simp [splice]
  | cons e es ih =>
    obtain ⟨hle, hn⟩ := h.ranges e List.mem_cons_self
    have hpos := h.starts e List.mem_cons_self
    have hlength : (ls.take e.stop).length = e.stop := List.length_take_of_le hn
    have hbefore : (ls.take e.stop ++ splice ls e.stop es).take e.start =
        ls.take pos ++ (ls.drop pos).take (e.start - pos) := by
      rw [List.take_append_of_le_length (by omega), List.take_take, Nat.min_eq_left hle,
        ← List.take_add, Nat.add_sub_cancel' hpos]
    have hbehind : (ls.take e.stop ++ splice ls e.stop es).drop e.stop = splice ls e.stop es :=
      List.drop_left' hlength
    rw [List.foldr_cons, ih h.tail, apply, Nat.max_eq_right hle, hbefore, hbehind, splice]
    simp

/-! ### What stands at each position -/

section Positions

variable {ls : List String} {n pos p : ℕ} {e : Edit} {es : List Edit}

/-- On a walk, edits that add lines are met in ascending priority. -/
theorem insertionsAt_of_ahead (h : Ahead n pos es) (p : ℕ) :
    insertionsAt es p = es.filter fun e => e.start = p ∧ e.stop = p := by
  refine List.mergeSort_of_pairwise ?_
  refine (h.pairwise.filter _).imp_of_mem fun {a b} ha hb hab => ?_
  simp only [List.mem_filter, decide_eq_true_eq] at ha hb
  have := hab.2 (by omega) (by omega)
  simp only [decide_eq_true_eq]
  omega

/-- Nothing but the line stands in front of all edits. -/
theorem linesAt_of_lt (h : ∀ e ∈ es, p < e.start) : linesAt ls es p = ls[p]?.toList := by
  have hins : insertionsAt es p = [] := by
    have hnone : (es.filter fun e => decide (e.start = p ∧ e.stop = p)) = [] :=
      List.filter_eq_nil_iff.mpr fun e he => by
        have := h e he
        simp only [decide_eq_true_eq]
        omega
    rw [insertionsAt, hnone, List.mergeSort_nil]
  have hrep : replacementsAt es p = [] := List.filter_eq_nil_iff.mpr fun e he => by
    have := h e he
    simp only [decide_eq_true_eq]
    omega
  have hany : (es.any fun e => decide (e.start ≤ p ∧ p < e.stop)) = false :=
    List.any_eq_false.mpr fun e he => by
      have := h e he
      simp only [decide_eq_true_eq]
      omega
  rw [linesAt, hins, hrep, keptAt, hany]
  rfl

/-- An edit is forgotten behind its range. -/
theorem linesAt_cons_of_stop_le (h : Ahead n pos (e :: es)) (hstop : e.stop ≤ p)
    (hstart : e.start < p) : linesAt ls (e :: es) p = linesAt ls es p := by
  have hins : insertionsAt (e :: es) p = insertionsAt es p := by
    rw [insertionsAt_of_ahead h, insertionsAt_of_ahead h.tail,
      List.filter_cons_of_neg (by simp only [decide_eq_true_eq]; omega)]
  have hrep : replacementsAt (e :: es) p = replacementsAt es p :=
    List.filter_cons_of_neg (by simp only [decide_eq_true_eq]; omega)
  have hkept : keptAt ls (e :: es) p = keptAt ls es p := by
    have hnot : decide (e.start ≤ p ∧ p < e.stop) = false := by
      simp only [decide_eq_false_iff_not]
      omega
    rw [keptAt, List.any_cons, hnot, Bool.false_or, keptAt]
  rw [linesAt, hins, hrep, hkept, linesAt]

/-- An edit that adds lines comes before the others at its position. -/
theorem linesAt_cons_insertion (h : Ahead n pos (e :: es)) (he : e.start = e.stop) :
    linesAt ls (e :: es) e.stop = e.lines ++ linesAt ls es e.stop := by
  have hins : insertionsAt (e :: es) e.stop = e :: insertionsAt es e.stop := by
    rw [insertionsAt_of_ahead h, insertionsAt_of_ahead h.tail,
      List.filter_cons_of_pos (by simp [he])]
  have hrep : replacementsAt (e :: es) e.stop = replacementsAt es e.stop :=
    List.filter_cons_of_neg (by simp)
  have hkept : keptAt ls (e :: es) e.stop = keptAt ls es e.stop := by
    simp [keptAt]
  rw [linesAt, hins, hrep, hkept, linesAt]
  simp

/-- An edit that replaces lines stands at its first position. -/
theorem linesAt_cons_replacement (h : Ahead n pos (e :: es)) (he : e.start < e.stop) :
    linesAt ls (e :: es) e.start = e.lines := by
  have hstarts := h.tail.starts
  have hins : insertionsAt (e :: es) e.start = [] := by
    rw [insertionsAt_of_ahead h]
    refine List.filter_eq_nil_iff.mpr fun f hf => ?_
    simp only [decide_eq_true_eq]
    rcases List.mem_cons.mp hf with rfl | hf
    · omega
    · have := hstarts f hf
      omega
  have hrep : replacementsAt (e :: es) e.start = [e] := by
    rw [replacementsAt, List.filter_cons_of_pos (by simp [he])]
    refine congrArg (e :: ·) (List.filter_eq_nil_iff.mpr fun f hf => ?_)
    have := hstarts f hf
    simp only [decide_eq_true_eq]
    omega
  simp [linesAt, hins, hrep, keptAt, he]

/-- Nothing stands inside the range of an edit. -/
theorem linesAt_cons_inside (h : Ahead n pos (e :: es)) (hstart : e.start < p)
    (hstop : p < e.stop) : linesAt ls (e :: es) p = [] := by
  have hstarts := h.tail.starts
  have hnot : ∀ f ∈ e :: es, f.start ≠ p := fun f hf => by
    rcases List.mem_cons.mp hf with rfl | hf
    · omega
    · have := hstarts f hf
      omega
  have hins : insertionsAt (e :: es) p = [] := by
    rw [insertionsAt_of_ahead h]
    exact List.filter_eq_nil_iff.mpr fun f hf => by simp [hnot f hf]
  have hrep : replacementsAt (e :: es) p = [] :=
    List.filter_eq_nil_iff.mpr fun f hf => by simp [hnot f hf]
  simp [linesAt, hins, hrep, keptAt, Nat.le_of_lt hstart, hstop]

end Positions

/-! ### The walk passes all positions -/

theorem flatMap_getElem?_range' (ls : List String) (a k : ℕ) :
    (List.range' a k).flatMap (fun p => ls[p]?.toList) = (ls.drop a).take k := by
  induction k generalizing a with
  | zero => simp
  | succ k ih =>
    rw [List.range'_succ, List.flatMap_cons, ih]
    cases hd : ls.drop a with
    | nil =>
      have hle : ls.length ≤ a := List.drop_eq_nil_iff.mp hd
      simp [List.getElem?_eq_none hle, List.drop_eq_nil_of_le (Nat.le_succ_of_le hle)]
    | cons l rest =>
      have hl : ls[a]? = some l := by
        have := congrArg (·[0]?) hd
        simpa using this
      have hrest : ls.drop (a + 1) = rest := by
        rw [← List.drop_drop, hd]
        rfl
      simp [hl, hrest]

theorem flatMap_range'_congr {f g : ℕ → List String} {a k : ℕ}
    (h : ∀ p, a ≤ p → p < a + k → f p = g p) :
    (List.range' a k).flatMap f = (List.range' a k).flatMap g :=
  List.flatMap_congr fun p hp => by
    have := List.mem_range'_1.mp hp
    exact h p this.1 this.2

theorem range'_split {a b c : ℕ} (hab : a ≤ b) (hbc : b ≤ c) :
    List.range' a (c - a) = List.range' a (b - a) ++ List.range' b (c - b) := by
  have h : List.range' a (b - a) ++ List.range' (a + 1 * (b - a)) (c - b) =
      List.range' a (b - a + (c - b)) := List.range'_append
  rw [Nat.one_mul, Nat.add_sub_cancel' hab] at h
  rw [h]
  congr 1
  omega

/-- **All at once.** What stands at the positions from one on is what the walk passes. -/
theorem flatMap_linesAt {ls : List String} {pos : ℕ} {edits : List Edit}
    (h : Ahead ls.length pos edits) :
    (List.range' pos (ls.length + 1 - pos)).flatMap (linesAt ls edits) = splice ls pos edits := by
  induction edits generalizing pos with
  | nil =>
    have hline : linesAt ls [] = fun p => ls[p]?.toList :=
      funext fun p => linesAt_of_lt (by simp)
    rw [hline, flatMap_getElem?_range', splice, List.take_of_length_le]
    simp only [List.length_drop]
    omega
  | cons e es ih =>
    obtain ⟨hle, hn⟩ := h.ranges e List.mem_cons_self
    have hpos := h.starts e List.mem_cons_self
    have hbefore : (List.range' pos (e.start - pos)).flatMap (linesAt ls (e :: es)) =
        (ls.drop pos).take (e.start - pos) := by
      rw [← flatMap_getElem?_range']
      refine flatMap_range'_congr fun p _ hp => linesAt_of_lt fun f hf => ?_
      rcases List.mem_cons.mp hf with rfl | hf
      · omega
      · have := h.tail.starts f hf
        omega
    -- behind its range, the edit is forgotten
    have hbehind (a : ℕ) (hstop : e.stop ≤ a) (hstart : e.start < a) :
        (List.range' a (ls.length + 1 - a)).flatMap (linesAt ls (e :: es)) =
          (List.range' a (ls.length + 1 - a)).flatMap (linesAt ls es) :=
      flatMap_range'_congr fun p hp _ =>
        linesAt_cons_of_stop_le h (Nat.le_trans hstop hp) (Nat.lt_of_lt_of_le hstart hp)
    have hrest : (List.range' e.start (ls.length + 1 - e.start)).flatMap (linesAt ls (e :: es)) =
        e.lines ++ splice ls e.stop es := by
      rw [← ih h.tail]
      rcases Nat.eq_or_lt_of_le hle with heq | hlt
      · -- the edit adds lines, and more may stand at its position
        rw [heq, range'_split (Nat.le_succ e.stop) (by omega), List.flatMap_append,
          List.flatMap_append, hbehind (e.stop + 1) (by omega) (by omega)]
        simp [linesAt_cons_insertion h heq]
      · rw [range'_split hle (by omega), range'_split (Nat.le_succ e.start) hlt,
          List.flatMap_append, List.flatMap_append, hbehind e.stop (Nat.le_refl _) hlt]
        have hinside : (List.range' (e.start + 1) (e.stop - (e.start + 1))).flatMap
            (linesAt ls (e :: es)) = [] := by
          rw [List.flatMap_eq_nil_iff]
          intro p hp
          have := List.mem_range'_1.mp hp
          exact linesAt_cons_inside h (by omega) (by omega)
        simp [linesAt_cons_replacement h hlt, hinside]
    rw [range'_split hpos (by omega), List.flatMap_append, hbefore, hrest, splice]
    simp

/-! ### The order in which edits were recorded -/

/-- No two edits replace the lines from one position on, as they would overlap. -/
theorem Compatible.pairwise_replacementsAt {n : ℕ} {edits : List Edit} (h : Compatible n edits)
    (p : ℕ) : (replacementsAt edits p).Pairwise fun _ _ => False := by
  refine (h.apart.filter _).imp_of_mem fun {a b} ha hb hab => ?_
  have ha := List.mem_filter.mp ha
  have hb := List.mem_filter.mp hb
  simp only [decide_eq_true_eq] at ha hb
  simp only [Apart] at hab
  omega

/-- An edit is one of those that add lines at its position, or it is what replaces the lines from
there on. -/
theorem Compatible.mem_at {n : ℕ} {edits : List Edit} (h : Compatible n edits) {e : Edit}
    (he : e ∈ edits) : (e.start = e.stop ∧ e ∈ insertionsAt edits e.start) ∨
      (e.start < e.stop ∧ replacementsAt edits e.start = [e]) := by
  rcases Nat.eq_or_lt_of_le (h.ranges e he).1 with heq | hlt
  · exact .inl ⟨heq, by simp [insertionsAt, he, heq]⟩
  · refine .inr ⟨hlt, ?_⟩
    have hmem : e ∈ replacementsAt edits e.start := List.mem_filter.mpr ⟨he, by simp [hlt]⟩
    have hone := h.pairwise_replacementsAt e.start
    cases hat : replacementsAt edits e.start with
    | nil => simp [hat] at hmem
    | cons first others =>
      rw [hat] at hmem hone
      have hnone := (List.pairwise_cons.mp hone).1
      obtain rfl := List.eq_nil_iff_forall_not_mem.mpr hnone
      rw [List.mem_singleton.mp hmem]

/-- What stands at a position does not depend on the order of the edits. -/
theorem Compatible.linesAt_eq {n : ℕ} {edits edits' : List Edit} (h : Compatible n edits)
    (hperm : edits'.Perm edits) (ls : List String) (p : ℕ) :
    linesAt ls edits' p = linesAt ls edits p := by
  have hins : insertionsAt edits' p = insertionsAt edits p := by
    have hp := hperm.filter fun e => e.start = p ∧ e.stop = p
    have hsorted (l : List Edit) : (l.mergeSort fun a b => a.priority ≤ b.priority).Pairwise
        fun a b => decide (a.priority ≤ b.priority) = true :=
      List.pairwise_mergeSort (fun a b c hab hbc => by simp only [decide_eq_true_eq] at *; omega)
        (fun a b => by simp only [Bool.or_eq_true, decide_eq_true_eq]; omega) l
    refine List.Perm.eq_of_pairwise ?_ (hsorted _) (hsorted _)
      (((List.mergeSort_perm _ _).trans hp).trans (List.mergeSort_perm _ _).symm)
    intro a b ha hb hab hba
    simp only [insertionsAt, List.mem_mergeSort, List.mem_filter, decide_eq_true_eq] at ha hb
    refine List.inj_on_of_nodup_map h.keys (hperm.mem_iff.mp ha.1) hb.1 ?_
    simp only [decide_eq_true_eq] at hab hba
    simp only [key, Prod.mk.injEq]
    omega
  have hrep : replacementsAt edits' p = replacementsAt edits p := by
    have hone := h.pairwise_replacementsAt p
    have hp : (replacementsAt edits' p).Perm (replacementsAt edits p) := hperm.filter _
    refine List.Perm.eq_of_pairwise (fun _ _ _ _ hf => hf.elim) ?_ hone hp
    exact (hp.pairwise_iff fun hf => hf.elim).mpr hone
  rw [linesAt, hins, hrep, keptAt, hperm.any_eq, ← keptAt, linesAt]

/-- **Edits one after the other come to the edits at once**, if they leave each other's ranges
alone, in whatever order they were recorded. -/
theorem Compatible.applyAll_eq_replaceAll {ls : List String} {edits : List Edit}
    (h : Compatible ls.length edits) : applyAll ls edits = replaceAll ls edits := by
  have hperm := ordered_perm edits
  have hahead : Ahead ls.length 0 (ordered edits) :=
    ⟨h.pairwise_ordered, fun e he => h.ranges e (hperm.mem_iff.mp he), fun _ _ => Nat.zero_le _⟩
  have happly : applyAll ls edits = (ordered edits).foldr (fun e r => apply r e) ls := by
    rw [ordered, List.foldr_reverse, applyAll]
  have hlines : linesAt ls edits = linesAt ls (ordered edits) :=
    funext fun p => (h.linesAt_eq hperm ls p).symm
  rw [happly, foldr_apply hahead, replaceAll, List.range_eq_range', hlines,
    ← flatMap_linesAt hahead]
  simp

end Edit

end Expansion

end ServiceStubs
