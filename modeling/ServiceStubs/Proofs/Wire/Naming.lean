import ServiceStubs.Proofs.Wire.Costs
import ServiceStubs.Proofs.Wire.Outline
import ServiceStubs.Proofs.Wire.Resolution

/-!
# Every class that is written is named

A writer asks for each class by its name when it meets the class or an instance of it first, and
fetches what it met before. So the pieces of a value name every class that the value shows, however
deep it lies. For this the numbers that the writer gives must be those under which the machine keeps
the texts, and an object with a number must have its parts written: all but those in the middle of
which the writer is.

## Main definitions

* `Store.mark`, `Store.owed`: the identities that an object is known by, and that it brings along
* `Progress.Consistent`: a writer and the outline of its instructions agree
* `Learns`: what has a number when a writer is done

## Main statements

* `Learns.object`: an object that was written has a number
* `names_of_leads`: the classes that a value shows are named
-/

namespace ServiceStubs

namespace Wire

/-- The identity by which an object at a place is known once it was written. Atoms are written again
where they occur. -/
def Store.mark (s : Store) (r : Ref) : List Identity :=
  match s.get? r with
  | some o => if o.isAtom then [] else [o.identity r]
  | none => []

/-- What is known once an object was written in full: its parts, and the class of an instance. -/
def Store.owed (s : Store) (o : Object) : List Identity :=
  o.parts.flatMap s.mark ++
    match o with
    | .instance id _ => [.ofClass (.defined id)]
    | _ => []

/-- A writer, and what its instructions tell. -/
structure Progress where
  writer : Writer
  outline : Outline

/-- A writer agrees with what its instructions tell: texts are kept under the numbers that the
writer gave them, the classes that have a number were named, and an object with a number was written
in full, unless it is among those in the middle of which the writer is. -/
structure Progress.Consistent (g : Registry) (s : Store) (pending : List Ref) (S : Progress) :
    Prop where
  count : S.writer.count = S.outline.kept.length
  text : ∀ (t : WideText) (n : Nat), S.writer.known[Identity.text t]? = some n →
    S.outline.kept[n]? = some (some t)
  named : ∀ id, Identity.ofClass (.defined id) ∈ S.writer.known →
    g.nameOf (.defined id) ∈ S.outline.names
  owed : ∀ x o, x ∉ pending → Identity.place x ∈ S.writer.known → s.get? x = some o →
    ∀ i ∈ s.owed o, i ∈ S.writer.known

/-- A writer went on and put out pieces. -/
structure Follows (g : Registry) (s : Store) (pending : List Ref) (learned : List Identity)
    (S : Progress) (ps : List Piece) (w : Writer) : Prop where
  isEmitted : ∀ i ∈ instructionsOf ps, i.isEmitted
  consistent : Progress.Consistent g s pending ⟨w, S.outline.after (instructionsOf ps)⟩
  known : ∀ i ∈ S.writer.known, i ∈ w.known
  learned : ∀ i ∈ learned, i ∈ w.known

/-- A writer goes on from any state in which it agrees with its instructions, and some identities
have a number when it is done. -/
def Learns (g : Registry) (s : Store) (pending : List Ref) (write : Write)
    (learned : List Identity) : Prop :=
  ∀ S : Progress, S.Consistent g s pending → ∀ ps w, write S.writer = .ok (ps, w) →
    Follows g s pending learned S ps w

variable {g : Registry} {s : Store} {pending : List Ref} {S : Progress}

/-! ### Numbers -/

namespace Progress

/-- An instruction that keeps nothing. -/
theorem Consistent.step (h : S.Consistent g s pending) {j : Instruction} (hj : j.isKeeping = false) :
    Consistent g s pending ⟨S.writer, S.outline.step j⟩ where
  count := by rw [Outline.kept_step hj]; exact h.count
  text := by rw [Outline.kept_step hj]; exact h.text
  named id hid := Outline.names_step (h.named id hid)
  owed := h.owed

/-- The next number goes to an object. -/
theorem Consistent.keep (h : S.Consistent g s pending) {i : Identity}
    (htext : ∀ t, i = .text t → S.outline.top.head? = some (some t))
    (hclass : ∀ id, i = .ofClass (.defined id) → g.nameOf (.defined id) ∈ S.outline.names)
    (hplace : ∀ x, i = .place x → x ∈ pending) :
    Consistent g s pending ⟨⟨S.writer.known.insert i S.writer.count, S.writer.count + 1⟩,
      S.outline.step .memoize⟩ where
  count := by simp [Outline.step, h.count]
  text t n hn := by
    simp only [Outline.step]
    rw [Std.HashMap.getElem?_insert] at hn
    split at hn
    · have hi : i = .text t := by simpa using ‹(i == Identity.text t) = true›
      obtain rfl : S.writer.count = n := by simpa using hn
      rw [h.count, List.getElem?_concat_length, htext t hi]
      rfl
    · have hold := h.text t n hn
      rw [List.getElem?_append_left (List.getElem?_eq_some_iff.1 hold).1, hold]
  named id hid := by
    rcases Std.HashMap.mem_insert.1 hid with heq | hid
    · exact hclass id (by simpa using heq)
    · exact h.named id hid
  owed x o hx hmem ho i' hi' := by
    refine Std.HashMap.mem_insert.2 (.inr ?_)
    rcases Std.HashMap.mem_insert.1 hmem with heq | hmem
    · exact absurd (hplace x (by simpa using heq)) hx
    · exact h.owed x o hx hmem ho i' hi'

/-- The next number goes to no object. -/
theorem Consistent.keepNew (h : S.Consistent g s pending) :
    Consistent g s pending ⟨⟨S.writer.known, S.writer.count + 1⟩, S.outline.step .memoize⟩ where
  count := by simp [Outline.step, h.count]
  text t n hn := by
    have hold := h.text t n hn
    simp only [Outline.step]
    rw [List.getElem?_append_left (List.getElem?_eq_some_iff.1 hold).1, hold]
  named := h.named
  owed := h.owed

/-- One more object may be in the middle of being written. -/
theorem Consistent.pend (h : S.Consistent g s pending) (r : Ref) :
    S.Consistent g s (r :: pending) :=
  { h with owed := fun x o hx => h.owed x o fun hmem => hx (List.mem_cons_of_mem _ hmem) }

/-- An object is written in full. -/
theorem Consistent.settle {r : Ref} {o : Object} (h : S.Consistent g s (r :: pending))
    (ho : s.get? r = some o) (howed : ∀ i ∈ s.owed o, i ∈ S.writer.known) :
    S.Consistent g s pending :=
  { h with
    owed := fun x o' hx hmem ho' => by
      by_cases hxr : x = r
      · subst hxr
        obtain rfl : o = o' := Option.some.inj (ho.symm.trans ho')
        exact howed
      · exact h.owed x o' (by simpa [hxr] using hx) hmem ho' }

end Progress

/-! ### Writers that are put together -/

@[simp] theorem instructionsOf_one (j : Instruction) : instructionsOf (Writer.one j) = [j] := rfl

theorem isEmitted_one {j : Instruction} (hj : j.isEmitted) :
    ∀ i ∈ instructionsOf (Writer.one j), i.isEmitted := by
  simpa using hj

namespace Follows

variable {L M : List Identity} {w w' : Writer} {ps qs : List Piece}

theorem append (h : Follows g s pending L S ps w)
    (h' : Follows g s pending M ⟨w, S.outline.after (instructionsOf ps)⟩ qs w') :
    Follows g s pending (L ++ M) S (ps ++ qs) w' := by
  refine ⟨fun i hi => ?_, ?_, fun i hi => h'.known i (h.known i hi), fun i hi => ?_⟩
  · rw [instructionsOf_append] at hi
    exact (List.mem_append.1 hi).elim (h.isEmitted i) (h'.isEmitted i)
  · rw [instructionsOf_append, Outline.after_append]
    exact h'.consistent
  · exact (List.mem_append.1 hi).elim (fun hi => h'.known i (h.learned i hi)) (h'.learned i)

theorem mono (h : Follows g s pending L S ps w) (hML : ∀ i ∈ M, i ∈ L) :
    Follows g s pending M S ps w :=
  { h with learned := fun i hi => h.learned i (hML i hi) }

end Follows

namespace Learns

variable {write a b : Write} {L M : List Identity} {i : Identity} {j : Instruction}

theorem mono (h : Learns g s pending write L) (hML : ∀ i ∈ M, i ∈ L) :
    Learns g s pending write M :=
  fun S hS ps w hrun => (h S hS ps w hrun).mono hML

theorem of_throw {e : WriteError} : Learns g s pending (throw e) L := by
  intro S hS ps w hrun
  cases hrun

theorem nothing : Learns g s pending Writer.nothing [] := by
  intro S hS ps w hrun
  cases hrun
  exact ⟨by simp [instructionsOf], hS, fun i hi => hi, by simp⟩

theorem emit (j : Instruction) (hj : j.isEmitted) (hkeep : j.isKeeping = false) :
    Learns g s pending (Writer.emit j) [] := by
  intro S hS ps w hrun
  cases hrun
  exact ⟨isEmitted_one hj, hS.step hkeep, fun i hi => hi, by simp⟩

theorem both (ha : Learns g s pending a L) (hb : Learns g s pending b M) :
    Learns g s pending (Writer.both a b) (L ++ M) := by
  intro S hS ps w hrun
  obtain ⟨qs, w', rs, hqs, hrs, rfl⟩ := Writer.of_both hrun
  have hfirst := ha S hS qs w' hqs
  exact hfirst.append (hb _ hfirst.consistent rs w hrs)

theorem begin_ (h : Learns g s pending write L) : Learns g s pending (Writer.begin_ write) L := by
  intro S hS ps w hrun
  obtain ⟨qs, hqs, rfl⟩ := Writer.of_begin hrun
  have hfollows := h S hS qs w hqs
  exact ⟨hfollows.isEmitted, hfollows.consistent, hfollows.known, hfollows.learned⟩

/-- An identity that may get a number anywhere: no text, no defined class, and a place only in the
middle of what stands there. -/
def Free (pending : List Ref) : Identity → Prop
  | .text _ | .ofClass (.defined _) => False
  | .place x => x ∈ pending
  | _ => True

theorem keep (hi : Free pending i) : Learns g s pending (Writer.keep i) [i] := by
  intro S hS ps w hrun
  cases hrun
  have hkept := hS.keep (i := i) (by rintro t rfl; exact hi.elim) (by rintro id rfl; exact hi.elim)
    (by rintro x rfl; exact hi)
  refine ⟨isEmitted_one rfl, ?_, fun j hj => Std.HashMap.mem_insert.2 (.inr hj),
    by simp⟩
  simpa only [instructionsOf_one, Outline.after_cons, Outline.after_nil] using hkept

theorem keepNew : Learns g s pending Writer.keepNew [] := by
  intro S hS ps w hrun
  cases hrun
  refine ⟨isEmitted_one rfl, ?_, fun j hj => hj, by simp⟩
  simpa only [instructionsOf_one, Outline.after_cons, Outline.after_nil] using hS.keepNew

theorem keepAs {i : Option Identity} (hi : ∀ j, i = some j → Free pending j) :
    Learns g s pending (Writer.keepAs i) i.toList := by
  cases i with
  | none => exact keepNew
  | some i => exact keep (hi i rfl)

/-- What is written depends on whether an object has a number. -/
theorem get_known {f : Option Nat → Write}
    (hknown : ∀ S : Progress, S.Consistent g s pending → ∀ n, S.writer.known[i]? = some n →
      ∀ ps w, f (some n) S.writer = .ok (ps, w) → Follows g s pending L S ps w)
    (hnew : ∀ S : Progress, S.Consistent g s pending → i ∉ S.writer.known →
      ∀ ps w, f none S.writer = .ok (ps, w) → Follows g s pending L S ps w) :
    Learns g s pending (do f (← get).known[i]?) L := by
  intro S hS ps w hrun
  replace hrun : f S.writer.known[i]? S.writer = .ok (ps, w) := hrun
  cases hi : S.writer.known[i]? with
  | some n =>
    rw [hi] at hrun
    exact hknown S hS n hi ps w hrun
  | none =>
    rw [hi] at hrun
    refine hnew S hS (fun hmem => ?_) ps w hrun
    rw [Std.HashMap.mem_iff_isSome_getElem?, hi] at hmem
    cases hmem

/-- Pieces that keep nothing, put out for an object that has a number. -/
theorem follows_known (hS : S.Consistent g s pending) {n : Nat} (hi : S.writer.known[i]? = some n)
    (hL : ∀ j ∈ L, j = i) {is : List Instruction} (his : ∀ j ∈ is, j.isEmitted ∧ j.isKeeping = false) :
    Follows g s pending L S (is.map .instruction) S.writer := by
  have hinstructions : instructionsOf (is.map .instruction) = is := by
    simp [instructionsOf, List.flatMap_map]
  refine ⟨fun j hj => (his j (hinstructions ▸ hj)).1, ?_, fun _ hj => hj, fun j hj => ?_⟩
  · rw [hinstructions]
    clear hinstructions
    induction is using List.reverseRecOn with
    | nil => exact hS
    | append_singleton is j ih =>
      rw [Outline.after_append, Outline.after_cons, Outline.after_nil]
      exact (ih fun k hk => his k (List.mem_append_left _ hk)).step (his j (by simp)).2
  · rw [hL j hj]
    exact Std.HashMap.mem_iff_isSome_getElem?.2 (by rw [hi]; rfl)

theorem fetchOr_of (hL : ∀ j ∈ L, j = i)
    (hnew : ∀ S : Progress, S.Consistent g s pending → i ∉ S.writer.known →
      ∀ ps w, write S.writer = .ok (ps, w) → Follows g s pending L S ps w) :
    Learns g s pending (Writer.fetchOr i write) L := by
  refine get_known (f := Writer.byNumber (fun n => return Writer.one (.get n)) write)
    (fun S hS n hi ps w hrun => ?_) hnew
  cases hrun
  refine (follows_known hS hi hL fun j hj => ?_ : Follows g s pending L S ([.get n].map _) _)
  obtain rfl := List.mem_singleton.1 hj
  exact ⟨rfl, rfl⟩

theorem fetchOr (hL : ∀ j ∈ L, j = i) (h : Learns g s pending write L) :
    Learns g s pending (Writer.fetchOr i write) L :=
  fetchOr_of hL fun S hS _ => h S hS

theorem finish {take : Instruction} {drop : List Instruction} (hi : Free pending i)
    (htake : take.isEmitted) (hkeep : take.isKeeping = false)
    (hdrop : ∀ j ∈ drop, j.isEmitted ∧ j.isKeeping = false) :
    Learns g s pending (Writer.finish i take drop) [i] := by
  refine get_known (f := Writer.byNumber
    (fun n => return (drop ++ [Instruction.get n]).map .instruction)
    (Writer.both (Writer.emit take) (Writer.keep i))) (fun S hS n hi ps w hrun => ?_)
    fun S hS _ => (emit take htake hkeep).both (keep hi) S hS
  cases hrun
  refine follows_known hS hi (by simp) fun j hj => ?_
  rcases List.mem_append.1 hj with hj | hj
  · exact hdrop j hj
  · obtain rfl := List.mem_singleton.1 hj
    exact ⟨rfl, rfl⟩

/-! ### Sequences -/

variable {α : Type} {f : α → Write} {learned : α → List Identity} {xs : List α}

theorem all {ws : List Write} {Ls : List (List Identity)}
    (h : List.Forall₂ (Learns g s pending) ws Ls) :
    Learns g s pending (Writer.all ws) Ls.flatten := by
  induction h with
  | nil => exact nothing
  | cons hw _ ih =>
    rw [Pushes.all_cons, List.flatten_cons]
    exact hw.both ih

theorem forall₂_map (h : ∀ x ∈ xs, Learns g s pending (f x) (learned x)) :
    List.Forall₂ (Learns g s pending) (xs.map f) (xs.map learned) := by
  rw [List.forall₂_map_left_iff, List.forall₂_map_right_iff]
  exact List.forall₂_same.2 h

theorem each (h : ∀ x ∈ xs, Learns g s pending (f x) (learned x)) :
    Learns g s pending (Writer.all (xs.map f)) (xs.flatMap learned) := all (forall₂_map h)

theorem batch (j : Instruction) (hj : j.isEmitted) (hkeep : j.isKeeping = false)
    (h : ∀ x ∈ xs, Learns g s pending (f x) (learned x)) :
    Learns g s pending (Writer.batch j (xs.map f)) (xs.flatMap learned) := by
  have hmark : Learns g s pending (Writer.emit .mark) [] := emit .mark rfl rfl
  exact (hmark.both ((each h).both (emit j hj hkeep))).mono (by simp)

/-- Batches teach what their items teach, if each batch does. -/
theorem batches {size : Nat} (wrap : List Write → Write) (hsize : size ≠ 0)
    (h : ∀ ys : List α, (∀ x ∈ ys, x ∈ xs) →
      Learns g s pending (wrap (ys.map f)) (ys.flatMap learned)) :
    ∃ Ls : List (List Identity),
      List.Forall₂ (Learns g s pending) ((chunks size (xs.map f)).map wrap) Ls ∧
        Ls.flatten = xs.flatMap learned := by
  refine ⟨(chunks size xs).map fun ys => ys.flatMap learned, ?_, ?_⟩
  · rw [chunks_map, List.map_map]
    refine forall₂_map fun ys hys => h ys fun x hx => ?_
    rw [← flatten_chunks hsize xs]
    exact List.mem_flatten.2 ⟨ys, hys, hx⟩
  · conv_rhs => rw [← flatten_chunks hsize xs, List.flatMap_def, List.map_flatten,
      List.flatten_flatten]
    simp [List.flatMap_def, Function.comp_def]

theorem listItems (h : ∀ x ∈ xs, Learns g s pending (f x) (learned x)) :
    Learns g s pending (Writer.listItems (xs.map f)) (xs.flatMap learned) := by
  unfold Writer.listItems
  split
  case h_1 w hw =>
    obtain ⟨x, rfl, rfl⟩ := List.map_eq_singleton_iff.1 hw
    have happend : Learns g s pending (Writer.emit .append) [] := emit .append rfl rfl
    exact ((h x (by simp)).both happend).mono (by simp)
  case h_2 =>
    obtain ⟨Ls, hLs, hflat⟩ := batches _ (by decide : Writer.batchSize ≠ 0) fun ys hys =>
      batch .appends rfl rfl fun x hx => h x (hys x hx)
    exact hflat ▸ all hLs

/-- Batches up to one that is not full. -/
theorem unfull (last : Bool) (j : Instruction) (hj : j.isEmitted) (hkeep : j.isKeeping = false)
    (h : ∀ x ∈ xs, Learns g s pending (f x) (learned x)) :
    Learns g s pending (Writer.all (if last then
        (chunks Writer.batchSize (xs.map f)).map (Writer.batch j) ++ [Writer.batch j []]
      else (chunks Writer.batchSize (xs.map f)).map (Writer.batch j))) (xs.flatMap learned) := by
  obtain ⟨Ls, hLs, hflat⟩ := batches _ (by decide : Writer.batchSize ≠ 0) fun ys hys =>
    batch j hj hkeep fun x hx => h x (hys x hx)
  have hlast : Learns g s pending (Writer.batch j ([].map f)) ([].flatMap learned) :=
    batch j hj hkeep (by simp)
  split
  · exact (all (List.rel_append hLs (.cons hlast .nil))).mono (by simp [hflat])
  · exact hflat ▸ all hLs

theorem setMembers (h : ∀ x ∈ xs, Learns g s pending (f x) (learned x)) :
    Learns g s pending (Writer.setMembers (xs.map f)) (xs.flatMap learned) := by
  unfold Writer.setMembers
  split
  case h_1 hnil =>
    obtain rfl := List.map_eq_nil_iff.1 hnil
    exact nothing
  case h_2 => exact unfull _ .addItems rfl rfl h

theorem dictEntries (h : ∀ x ∈ xs, Learns g s pending (f x) (learned x)) :
    Learns g s pending (Writer.dictEntries (xs.map f)) (xs.flatMap learned) := by
  unfold Writer.dictEntries
  split
  case h_1 hnil =>
    obtain rfl := List.map_eq_nil_iff.1 hnil
    exact nothing
  case h_2 w hw =>
    obtain ⟨x, rfl, rfl⟩ := List.map_eq_singleton_iff.1 hw
    have hset : Learns g s pending (Writer.emit .setItem) [] := emit .setItem rfl rfl
    exact ((h x (by simp)).both hset).mono (by simp)
  case h_3 => exact unfull _ .setItems rfl rfl h

theorem streamed {one several : Instruction} (hone : one.isEmitted ∧ one.isKeeping = false)
    (hseveral : several.isEmitted ∧ several.isKeeping = false)
    (h : ∀ x ∈ xs, Learns g s pending (f x) (learned x)) :
    Learns g s pending (Writer.streamed one several (xs.map f)) (xs.flatMap learned) := by
  have hgroup (ys : List α) (hys : ∀ x ∈ ys, x ∈ xs) :
      Learns g s pending (Costs.group one several (ys.map f)) (ys.flatMap learned) := by
    unfold Costs.group
    split
    case h_1 w hw =>
      obtain ⟨x, rfl, rfl⟩ := List.map_eq_singleton_iff.1 hw
      exact ((h x (hys x (by simp))).both (emit one hone.1 hone.2)).mono (by simp)
    case h_2 => exact batch several hseveral.1 hseveral.2 fun x hx => h x (hys x hx)
  obtain ⟨Ls, hLs, hflat⟩ := batches _ (by decide : Writer.batchSize ≠ 0) hgroup
  exact hflat ▸ all hLs

/-! ### Classes and instances -/

/-- The number of a text is the one under which the machine keeps it. -/
theorem keptText (t : WideText) :
    Learns g s pending (Writer.both (Writer.emit (.text t)) (Writer.keep (.text t))) [.text t] := by
  intro S hS ps w hrun
  cases hrun
  have hpushed : Progress.Consistent g s pending ⟨S.writer, S.outline.step (.text t)⟩ := hS.step rfl
  have hkept : Progress.Consistent g s pending
      ⟨⟨S.writer.known.insert (.text t) S.writer.count, S.writer.count + 1⟩,
        (S.outline.step (.text t)).step .memoize⟩ := by
    refine hpushed.keep ?_ (by rintro _ ⟨⟩) (by rintro _ ⟨⟩)
    rintro _ ⟨⟩
    rfl
  refine ⟨List.forall_mem_cons.2 ⟨rfl, List.forall_mem_singleton.2 rfl⟩, hkept,
    fun j hj => Std.HashMap.mem_insert.2 (.inr hj), by simp⟩

/-- A text that has a number or gets one lies topmost then. -/
theorem follows_text (hS : S.Consistent g s pending) {t : WideText} {ps : List Piece} {w : Writer}
    (hrun : Writer.text (some (.text t)) t S.writer = .ok (ps, w)) :
    Follows g s pending [.text t] S ps w ∧
      (S.outline.after (instructionsOf ps)).top = some t :: S.outline.top := by
  refine ⟨((keptText t).fetchOr (by simp)).begin_ S hS ps w hrun, ?_⟩
  obtain ⟨qs, hbody, rfl⟩ := Writer.of_begin hrun
  replace hbody : Writer.byNumber (fun n => return Writer.one (.get n))
    (Writer.both (Writer.emit (.text t)) (Writer.keep (.text t)))
    S.writer.known[Identity.text t]? S.writer = .ok (qs, w) := hbody
  cases hn : S.writer.known[Identity.text t]? with
  | some n =>
    rw [hn] at hbody
    cases hbody
    have hkept : (S.outline.kept[n]?).join = some t := by rw [hS.text t n hn]; rfl
    exact congrArg (· :: S.outline.top) hkept
  | none =>
    rw [hn] at hbody
    cases hbody
    rfl

theorem text {i : Option Identity} (hi : ∀ j, i = some j → Free pending j) (t : WideText) :
    Learns g s pending (Writer.text i t) i.toList := by
  have htext : Learns g s pending (Writer.both (Writer.emit (.text t)) (Writer.keepAs i)) i.toList :=
    (emit (.text t) rfl rfl).both (keepAs hi)
  cases i with
  | none => exact htext.begin_
  | some i => exact (htext.fetchOr (by simp)).begin_

/-- A class that was written was named. -/
theorem class_ (c : Class) : Learns g s pending (Writer.class_ g c) [.ofClass c] := by
  refine (fetchOr_of (by simp) fun S hS _ ps w hrun => ?_).begin_
  split at hrun
  · cases hrun
  cases c with
  | safe c =>
    have hsafe : Learns g s pending (Writer.both
        (Writer.text (some (.safeModule (g.nameOf (.safe c)).1)) (g.nameOf (.safe c)).1)
        (Writer.both (Writer.text none (g.nameOf (.safe c)).2)
          (Writer.both (Writer.emit .stackGlobal) (Writer.keep (.ofClass (.safe c))))))
        [.ofClass (.safe c)] := by
      have hmodule (name : WideText) : Learns g s pending (Writer.text (some (.safeModule name)) name)
          [.safeModule name] := text (by rintro _ ⟨⟩; trivial) name
      have hname (name : WideText) : Learns g s pending (Writer.text none name) [] := text (by simp) name
      have hkeep : Learns g s pending (Writer.keep (.ofClass (.safe c))) [.ofClass (.safe c)] :=
        keep trivial
      exact ((hmodule _).both ((hname _).both ((emit .stackGlobal rfl rfl).both hkeep))).mono (by simp)
    exact hsafe S hS ps w hrun
  | defined id =>
    -- The two texts of the name lie topmost when the class is asked for.
    obtain ⟨ps₁, w₁, rest, hmodule, hrest, rfl⟩ := Writer.of_both hrun
    obtain ⟨ps₂, w₂, rest', hname, hrest', rfl⟩ := Writer.of_both hrest
    obtain ⟨hfollows₁, htop₁⟩ := follows_text hS hmodule
    obtain ⟨hfollows₂, htop₂⟩ := follows_text hfollows₁.consistent hname
    obtain ⟨_, _, _, hask, hkeep, rfl⟩ := Writer.of_both hrest'
    cases hask
    cases hkeep
    have hasked : Progress.Consistent g s pending ⟨w₂, _⟩ :=
      hfollows₂.consistent.step (rfl : Instruction.stackGlobal.isKeeping = false)
    have hnamed : g.nameOf (.defined id) ∈
        (((S.outline.after (instructionsOf ps₁)).after (instructionsOf ps₂)).step .stackGlobal).names := by
      simp [Outline.step, htop₂, htop₁]
    have hkept : Progress.Consistent g s pending
        ⟨⟨w₂.known.insert (.ofClass (.defined id)) w₂.count, w₂.count + 1⟩, _⟩ :=
      hasked.keep (by rintro _ ⟨⟩) (by rintro _ ⟨⟩; exact hnamed) (by rintro _ ⟨⟩)
    have hfollows₃ : Follows g s pending [.ofClass (.defined id)] ⟨w₂, _⟩
        (Writer.one .stackGlobal ++ Writer.one .memoize) _ :=
      ⟨List.forall_mem_cons.2 ⟨rfl, List.forall_mem_singleton.2 rfl⟩, hkept,
        fun j hj => Std.HashMap.mem_insert.2 (.inr hj), by simp⟩
    exact (hfollows₁.append (hfollows₂.append hfollows₃)).mono (by simp)

/-! ### Atoms and calls -/

theorem newBytes (bs : List UInt8) : Learns g s pending (Writer.newBytes bs) [] :=
  ((emit (.bytes bs) rfl rfl).both keepNew).begin_

theorem int (n : Int) : Learns g s pending (Writer.int n) [] := (emit (.int n) rfl rfl).begin_

theorem float (x : Binary64) : Learns g s pending (Writer.float x) [] :=
  (emit (.float x) rfl rfl).begin_

theorem emptyTuple : Learns g s pending Writer.emptyTuple [] := (emit .emptyTuple rfl rfl).begin_

theorem newTuple {ws : List Write} {Ls : List (List Identity)}
    (h : List.Forall₂ (Learns g s pending) ws Ls) (hpos : 1 ≤ ws.length) (hle : ws.length ≤ 3) :
    Learns g s pending (Writer.newTuple ws) Ls.flatten := by
  have htake : Learns g s pending (Writer.emit (.tupleOf ws.length)) [] :=
    emit _ (Instruction.isEmitted_tupleOf.2 ⟨hpos, hle⟩) rfl
  exact (((all h).both (htake.both keepNew)).begin_).mono (by simp)

theorem call (c : SafeClass) {i : Option Identity} (hi : ∀ j, i = some j → Free pending j)
    (h : Learns g s pending write L) :
    Learns g s pending (Writer.call g c i write) (L ++ i.toList) := by
  have hreduce : Learns g s pending (Writer.emit .reduce) [] := emit .reduce rfl rfl
  cases i with
  | none => exact ((class_ (.safe c)).both (h.both (hreduce.both keepNew))).mono (by simp +contextual)
  | some i =>
    refine ((class_ (.safe c)).both (h.both (hreduce.both
      (?_ : Learns g s pending _ [i])))).mono (by simp +contextual)
    refine get_known (f := Writer.byNumber
      (fun n => return [.instruction .pop, .instruction (Instruction.get n)]) (Writer.keep i))
      (fun S hS n hn ps w hrun => ?_) fun S hS _ => keep (hi i rfl) S hS
    cases hrun
    refine (follows_known hS hn (by simp) fun j hj => ?_ :
      Follows g s pending [i] S ([.pop, .get n].map _) _)
    rcases List.mem_pair.1 hj with rfl | rfl <;> exact ⟨rfl, rfl⟩

theorem duration {i : Option Identity} (hi : ∀ j, i = some j → Free pending j) (d : Duration) :
    Learns g s pending (Writer.duration g i d) i.toList :=
  call .timedelta hi (newTuple (.cons (int _) (.cons (int _) (.cons (int _) .nil)))
    (by simp) (by simp))

theorem blank (c : Class) (hi : Free pending i) :
    Learns g s pending (Writer.blank g c i) [.ofClass c, i] :=
  (class_ c).both (emptyTuple.both ((emit .newObject rfl rfl).both (keep hi)))

theorem state {α : Type} {f : α → Write} {learned : α → List Identity} {xs : List α}
    (h : ∀ x ∈ xs, Learns g s pending (f x) (learned x)) :
    Learns g s pending (Writer.state (xs.map f)) (xs.flatMap learned) := by
  have hdict : Learns g s pending (Writer.emit .emptyDict) [] := emit .emptyDict rfl rfl
  have hbuild : Learns g s pending (Writer.emit .build) [] := emit .build rfl rfl
  exact (((hdict.both (keepNew.both (dictEntries h))).begin_).both hbuild).mono (by simp)

/-! ### Objects -/

section Body

variable {sub : Ref → Write} {r : Ref} {o : Object} {items : List Ref} {entries : List (Ref × Ref)}

/-- A container gets its number while it is empty. -/
theorem made (j : Instruction) (hj : j.isEmitted) (hkeep : j.isKeeping = false)
    (hi : Free pending i) (h : Learns g s pending write L) :
    Learns g s pending (Writer.both (Writer.emit j) (Writer.both (Writer.keep i) write)) (i :: L) :=
  ((emit j hj hkeep).both ((keep hi).both h)).mono (by simp)

theorem entry (h : ∀ p ∈ entries.map Prod.fst ++ entries.map Prod.snd,
      Learns g s pending (sub p) (s.mark p)) :
    ∀ e ∈ entries, Learns g s pending (Writer.both (sub e.1) (sub e.2)) (s.mark e.1 ++ s.mark e.2) :=
  fun e he => (h e.1 (List.mem_append_left _ (List.mem_map_of_mem he))).both
    (h e.2 (List.mem_append_right _ (List.mem_map_of_mem he)))

theorem mem_entries : i ∈ (entries.map Prod.fst ++ entries.map Prod.snd).flatMap s.mark ↔
    i ∈ entries.flatMap fun e => s.mark e.1 ++ s.mark e.2 := by
  simp only [List.mem_flatMap, List.mem_append, List.mem_map]
  grind

/-- What an object that is no instance of a defined class needs to be written in full. -/
theorem full (ho : s.get? r = some o) (hinstance : ∀ id attributes, o ≠ .instance id attributes)
    (h : Learns g s pending write L) (hidentity : o.isAtom = false → o.identity r ∈ L)
    (hparts : ∀ i ∈ o.parts.flatMap s.mark, i ∈ L) :
    Learns g s pending write (s.mark r ++ s.owed o) := by
  refine h.mono fun i hi => ?_
  rcases List.mem_append.1 hi with hi | hi
  · simp only [Store.mark, ho] at hi
    split at hi
    · cases hi
    · obtain rfl := List.mem_singleton.1 hi
      exact hidentity (by simpa using ‹¬o.isAtom = true›)
  · refine hparts i ((List.mem_append.1 hi).resolve_right fun hi => ?_)
    cases o with
    | «instance» id attributes => exact hinstance id attributes rfl
    | _ => cases hi

theorem length_zone_le {f : Ref → Write} (w : Write) (zone : Option Ref) :
    (w :: zone.toList.map f).length ≤ 3 := by
  cases zone <;> simp

theorem body_tuple (ho : s.get? r = some (.tuple items)) (hr : r ∈ pending)
    (h : ∀ p ∈ items, Learns g s pending (sub p) (s.mark p)) :
    Learns g s pending (Writer.body g s sub r (.tuple items))
      (s.mark r ++ s.owed (.tuple items)) := by
  cases items with
  | nil =>
    exact (emit .emptyTuple rfl rfl).full ho (by simp) (by simp [Object.isAtom])
      (by simp [Object.parts])
  | cons a rest =>
    have hfree : Free pending (.place r) := hr
    have hparts : Learns g s pending (Writer.all ((a :: rest).map sub)) ((a :: rest).flatMap s.mark) :=
      each h
    simp only [Writer.body]
    split
    · have hfinish : Learns g s pending (Writer.finish (.place r) (.tupleOf (a :: rest).length)
          (List.replicate (a :: rest).length .pop)) [.place r] := by
        refine finish hfree (Instruction.isEmitted_tupleOf.2 ⟨by simp, ‹_›⟩) rfl fun j hj => ?_
        rw [List.eq_of_mem_replicate hj]
        exact ⟨rfl, rfl⟩
      exact (hparts.both hfinish).full ho (by simp) (by simp [Object.identity])
        fun i hi => List.mem_append_left _ hi
    · have hfinish : Learns g s pending (Writer.finish (.place r) .tuple [.popMark]) [.place r] := by
        refine finish hfree rfl rfl fun j hj => ?_
        rw [List.mem_singleton.1 hj]
        exact ⟨rfl, rfl⟩
      have hmark : Learns g s pending (Writer.emit .mark) [] := emit .mark rfl rfl
      exact (hmark.both (hparts.both hfinish)).full ho (by simp) (by simp [Object.identity])
        fun i hi => List.mem_append_right [] (List.mem_append_left _ hi)

theorem body_frozenSet (ho : s.get? r = some (.frozenSet items)) (hr : r ∈ pending)
    (h : ∀ p ∈ items, Learns g s pending (sub p) (s.mark p)) :
    Learns g s pending (Writer.body g s sub r (.frozenSet items))
      (s.mark r ++ s.owed (.frozenSet items)) := by
  have hmark : Learns g s pending (Writer.emit .mark) [] := emit .mark rfl rfl
  have hfinish : Learns g s pending (Writer.finish (.place r) .frozenSet [.popMark]) [.place r] := by
    refine finish hr rfl rfl fun j hj => ?_
    rw [List.mem_singleton.1 hj]
    exact ⟨rfl, rfl⟩
  exact (hmark.both ((each h).both hfinish)).full ho (by simp) (by simp [Object.identity])
    fun i hi => List.mem_append_right [] (List.mem_append_left _ hi)

theorem body_deque {limit : Option Nat} (ho : s.get? r = some (.deque items limit)) (hr : r ∈ pending)
    (h : ∀ p ∈ items, Learns g s pending (sub p) (s.mark p)) :
    Learns g s pending (Writer.body g s sub r (.deque items limit))
      (s.mark r ++ s.owed (.deque items limit)) := by
  have hown : ∀ j, some (Identity.place r) = some j → Free pending j := by
    rintro _ ⟨⟩
    exact hr
  have hitems : Learns g s pending (Writer.streamed .append .appends (items.map sub))
      (items.flatMap s.mark) := streamed ⟨rfl, rfl⟩ ⟨rfl, rfl⟩ h
  cases limit with
  | none =>
    exact ((call .deque hown emptyTuple).both hitems).full ho (by simp) (by simp [Object.identity])
      fun i hi => List.mem_append_right _ hi
  | some n =>
    have hargs : List.Forall₂ (Learns g s pending) [Writer.emptyTuple, Writer.int n] [[], []] :=
      .cons emptyTuple (.cons (int n) .nil)
    exact ((call .deque hown (newTuple hargs (by simp) (by simp))).both hitems).full ho (by simp)
      (by simp [Object.identity]) fun i hi => List.mem_append_right _ hi

theorem body_uuid {number : Option Ref} (ho : s.get? r = some (.uuid number)) (hr : r ∈ pending)
    (h : ∀ p ∈ number.toList, Learns g s pending (sub p) (s.mark p)) :
    Learns g s pending (Writer.body g s sub r (.uuid number)) (s.mark r ++ s.owed (.uuid number)) := by
  cases number with
  | none => exact of_throw
  | some p =>
    have hname : Learns g s pending (Writer.text (some .numberField) "int") [.numberField] :=
      text (by rintro _ ⟨⟩; trivial) "int"
    have hfield : ∀ x ∈ [p], Learns g s pending
        (Writer.both (Writer.text (some .numberField) "int") (sub x))
        ([Identity.numberField] ++ s.mark x) := fun x hx => hname.both (h x hx)
    have hblank : Learns g s pending (Writer.blank g (.safe .uuid) (.place r))
        [.ofClass (.safe .uuid), .place r] := blank _ hr
    exact (hblank.both (state hfield)).full ho (by simp) (by simp [Object.identity])
      (by simp +contextual [Object.parts])

theorem body_instance {id : Nat} (ho : s.get? r = some (.instance id entries)) (hr : r ∈ pending)
    (h : ∀ p ∈ entries.map Prod.fst ++ entries.map Prod.snd,
      Learns g s pending (sub p) (s.mark p)) :
    Learns g s pending (Writer.body g s sub r (.instance id entries))
      (s.mark r ++ s.owed (.instance id entries)) := by
  simp only [Writer.body]
  split
  · exact of_throw
  have hblank : Learns g s pending (Writer.blank g (.defined id) (.place r))
      [.ofClass (.defined id), .place r] := blank _ hr
  have hstate : Learns g s pending (if entries.isEmpty then Writer.nothing
      else Writer.state (entries.map fun e => Writer.both (sub e.1) (sub e.2)))
      (entries.flatMap fun e => s.mark e.1 ++ s.mark e.2) := by
    split
    · obtain rfl := List.isEmpty_iff.1 ‹_›
      exact nothing
    · exact state (entry h)
  refine (hblank.both hstate).mono fun i hi => ?_
  have howed : i ∈ s.owed (.instance id entries) →
      i = .ofClass (.defined id) ∨ i ∈ entries.flatMap fun e => s.mark e.1 ++ s.mark e.2 := by
    intro hi
    rcases List.mem_append.1 hi with hi | hi
    · exact .inr (mem_entries.1 hi)
    · exact .inl (List.mem_singleton.1 hi)
  rcases List.mem_append.1 hi with hi | hi
  · simp only [Store.mark, ho] at hi
    obtain rfl : i = .place r := by simpa [Object.isAtom, Object.identity] using hi
    simp
  · rcases howed hi with rfl | hi
    · simp
    · exact List.mem_append_right _ hi

/-- **An object that is written in full** has a number then, and so has what it brings along. -/
theorem body (ho : s.get? r = some o) (hclass : ∀ c, o ≠ .ofClass c) (hr : r ∈ pending)
    (h : ∀ p ∈ o.parts, Learns g s pending (sub p) (s.mark p)) :
    Learns g s pending (Writer.body g s sub r o) (s.mark r ++ s.owed o) := by
  have hplace : Free pending (.place r) := hr
  have hown : ∀ j, some (Identity.place r) = some j → Free pending j := by
    rintro _ ⟨⟩
    exact hr
  cases o with
  | none | bool | int | float =>
    exact (emit _ rfl rfl).full ho (by simp) (by simp [Object.isAtom]) (by simp [Object.parts])
  | text t shared =>
    cases shared with
    | true => exact (keptText t).full ho (by simp) (by simp [Object.identity]) (by simp [Object.parts])
    | false =>
      exact ((emit (.text t) rfl rfl).both (keep hplace)).full ho (by simp)
        (by simp [Object.identity]) (by simp [Object.parts])
  | bytes bs shared =>
    have hfree : Free pending ((Object.bytes bs shared).identity r) := by
      cases shared with
      | true => trivial
      | false => exact hr
    exact ((emit (.bytes bs) rfl rfl).both (keep hfree)).full ho (by simp) (by simp)
      (by simp [Object.parts])
  | byteArray bs =>
    exact ((emit (.byteArray bs) rfl rfl).both (keep hplace)).full ho (by simp)
      (by simp [Object.identity]) (by simp [Object.parts])
  | tuple items => exact body_tuple ho hr h
  | list items =>
    exact (made .emptyList rfl rfl hplace (listItems h)).full ho (by simp) (by simp [Object.identity])
      (by simp +contextual [Object.parts])
  | dict entries =>
    exact (made .emptyDict rfl rfl hplace (dictEntries (entry h))).full ho (by simp)
      (by simp [Object.identity]) fun i hi => List.mem_cons_of_mem _ (mem_entries.1 hi)
  | set members =>
    exact (made .emptySet rfl rfl hplace (setMembers h)).full ho (by simp) (by simp [Object.identity])
      (by simp +contextual [Object.parts])
  | frozenSet members => exact body_frozenSet ho hr h
  | complex re im =>
    exact (call .complex hown (newTuple (.cons (float re) (.cons (float im) .nil)) (by simp)
      (by simp))).full ho (by simp) (by simp [Object.identity]) (by simp [Object.parts])
  | range start stop step =>
    exact (call .range hown (newTuple (.cons (int start) (.cons (int stop) (.cons (int step) .nil)))
      (by simp) (by simp))).full ho (by simp) (by simp [Object.identity]) (by simp [Object.parts])
  | slice start stop step =>
    have hargs : List.Forall₂ (Learns g s pending) ([start, stop, step].map sub)
        ([start, stop, step].map s.mark) := forall₂_map h
    exact (call .slice hown (newTuple hargs (by simp) (by simp))).full ho (by simp)
      (by simp [Object.identity]) fun i hi => List.mem_append_left _ hi
  | orderedDict entries =>
    have hentries : Learns g s pending (Writer.streamed .setItem .setItems
        (entries.map fun e => Writer.both (sub e.1) (sub e.2)))
        (entries.flatMap fun e => s.mark e.1 ++ s.mark e.2) :=
      streamed ⟨rfl, rfl⟩ ⟨rfl, rfl⟩ (entry h)
    exact ((call .orderedDict hown emptyTuple).both hentries).full ho (by simp)
      (by simp [Object.identity]) fun i hi => List.mem_append_right _ (mem_entries.1 hi)
  | deque items limit => exact body_deque ho hr h
  | date d =>
    exact (call .date hown (newTuple (.cons (newBytes _) .nil) (by simp) (by simp))).full ho (by simp)
      (by simp [Object.identity]) (by simp [Object.parts])
  | datetime d c zone =>
    exact (call .datetime hown (newTuple (.cons (newBytes _) (forall₂_map h))
      (by simp) (length_zone_le _ zone))).full ho (by simp) (by simp [Object.identity])
      fun i hi => List.mem_append_left _ hi
  | time c zone =>
    exact (call .time hown (newTuple (.cons (newBytes _) (forall₂_map h))
      (by simp) (length_zone_le _ zone))).full ho (by simp) (by simp [Object.identity])
      fun i hi => List.mem_append_left _ hi
  | timedelta d =>
    exact (duration hown d).full ho (by simp) (by simp [Object.identity]) (by simp [Object.parts])
  | utc =>
    have hfree : ∀ j, some Identity.utc = some j → Free pending j := by
      rintro _ ⟨⟩
      trivial
    exact (call .timezone hfree (newTuple (.cons (duration (by simp) _).begin_ .nil) (by simp)
      (by simp))).full ho (by simp) (by simp [Object.identity]) (by simp [Object.parts])
  | timezone offset name =>
    exact (call .timezone hown (newTuple (forall₂_map h) (by simp [Object.parts])
      (length_zone_le _ name))).full ho (by simp)
      (by simp [Object.identity]) fun i hi => List.mem_append_left _ hi
  | decimal d =>
    exact (call .decimal hown
      (newTuple (.cons (text (by simp) _) .nil) (by simp) (by simp))).full ho (by simp)
      (by simp [Object.identity]) (by simp [Object.parts])
  | uuid number => exact body_uuid ho hr h
  | ofClass c => exact (hclass c rfl).elim
  | «instance» id attributes => exact body_instance ho hr h
  | view target => exact of_throw
  | locked => exact of_throw

/-- **An object that was written has a number**, and the machine keeps what the writer is not in the
middle of in full. -/
theorem object (fuel : Nat) (r : Ref) : Learns g s pending (Writer.object g s fuel r) (s.mark r) := by
  induction fuel generalizing r pending with
  | zero => exact of_throw
  | succ fuel ih =>
    cases ho : s.get? r with
    | none =>
      simp only [Writer.object, ho]
      exact of_throw
    | some o =>
      by_cases hclass : ∃ c, o = .ofClass c
      · obtain ⟨c, rfl⟩ := hclass
        simp only [Writer.object, ho, Store.mark]
        exact class_ c
      have hne : ∀ c, o ≠ .ofClass c := fun c hc => hclass ⟨c, hc⟩
      rw [Writer.object_succ fuel ho hne]
      refine (fetchOr_of ?_ fun S hS _ ps w hrun => ?_).begin_
      · simp only [Store.mark, ho]
        split <;> simp
      · -- The object is pending while its body is written, and owes nothing more after that.
        have hbody := body ho hne List.mem_cons_self (fun p _ => ih p) S (hS.pend r) ps w hrun
        exact {
          isEmitted := hbody.isEmitted
          consistent := hbody.consistent.settle ho fun i hi =>
            hbody.learned i (List.mem_append_right _ hi)
          known := hbody.known
          learned := fun i hi => hbody.learned i (List.mem_append_left _ hi) }

end Body

end Learns

/-! ### Values -/

/-- An object that has parts is known by its place. -/
theorem mark_of_part {o : Object} {x y : Ref} (ho : s.get? x = some o) (hy : y ∈ o.parts) :
    s.mark x = [.place x] := by
  have hplace : o.isAtom = false ∧ o.identity x = .place x := by
    cases o with
    | tuple items =>
      cases items with
      | nil => cases hy
      | cons => exact ⟨rfl, rfl⟩
    | text | bytes => cases hy
    | _ => first | exact ⟨rfl, rfl⟩ | cases hy
  simp [Store.mark, ho, hplace]

/-- What belongs to an object that has a number has one, too. -/
theorem Progress.Consistent.leads (h : S.Consistent g s []) {r x : Ref}
    (hr : ∀ i ∈ s.mark r, i ∈ S.writer.known) (hx : s.Leads r x) :
    ∀ i ∈ s.mark x, i ∈ S.writer.known := by
  induction hx with
  | refl => exact hr
  | @tail x y _ hpart ih =>
    obtain ⟨o, ho, hy⟩ := hpart
    intro i hi
    refine h.owed x o (by simp) (ih _ (by simp [mark_of_part ho hy])) ho i ?_
    exact List.mem_append_left _ (List.mem_flatMap.2 ⟨y, hy, hi⟩)

end Wire

end ServiceStubs
