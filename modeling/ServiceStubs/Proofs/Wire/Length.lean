import ServiceStubs.Proofs.Wire.Costs
import ServiceStubs.Proofs.Wire.Message
import ServiceStubs.Proofs.Wire.Value

/-!
# How long messages get

An object takes its weight when it is written in full, and next to nothing where it occurs again. So
a message is no longer than its objects weigh.

## Main statements

* `Costs.object`: an occurrence of an object costs no more than its share
* `fits_of_modest`: a modest value has pieces that fit
-/

namespace ServiceStubs

namespace Wire

variable {g : Registry} {s : Store} {places : Finset Ref}

/-! ### Atoms -/

theorem Instruction.length_counted_le (short medium long : UInt8) (payload : List UInt8) :
    (counted short medium long payload).length ≤ payload.length + 9 := by
  simp only [counted]
  split
  · simp only [List.length_cons]
    omega
  · split
    · simp only [List.length_cons, List.length_append, length_littleEndian]
      omega
    · simp only [List.length_cons, List.length_append, length_littleEndian]
      omega

theorem Instruction.length_intForm_le (n : Int) : (intForm n).length ≤ signedWidth n + 5 := by
  simp only [intForm]
  split
  · simp
  split
  · simp
  split
  · simp
  split
  · simp
  · simp
    omega

namespace Costs

variable {write a b : Write} {L M : List Identity} {c d : Nat} {i : Identity} {j : Instruction}

theorem emit_le (hj : ∀ n, Piece.IsBelow n (.instruction j)) (hc : j.form.length + 9 ≤ c) :
    Costs g s places [] (Writer.emit j) c := (emit hj).le hc

/-- An instruction of one byte. -/
theorem emit_code (hj : ∀ n, Piece.IsBelow n (.instruction j)) (hform : j.form.length = 1) :
    Costs g s places [] (Writer.emit j) 10 := emit_le hj (by omega)

theorem emit_text (t : WideText) :
    Costs g s places [] (Writer.emit (.text t)) (t.utf8ByteSize + 18) := by
  have hform : (Instruction.text t).form.length ≤ t.utf8ByteSize + 9 :=
    Instruction.length_counted_le ..
  exact emit_le (fun _ => trivial) (by omega)

theorem text (i : Option Identity) (t : WideText) :
    Costs g s places [] (Writer.text i t) (t.utf8ByteSize + 37) := by
  have hnew : Costs g s places [] (Writer.both (Writer.emit (.text t)) (Writer.keepAs i))
      (t.utf8ByteSize + 28) := ((emit_text t).both (keepAs i)).le (by omega)
  cases i with
  | none => exact hnew.begin_
  | some i => exact (fetchOr (by simp) (by omega) hnew).begin_

theorem emit_bytes (bs : List UInt8) :
    Costs g s places [] (Writer.emit (.bytes bs)) (bs.length + 18) := by
  have hform : (Instruction.bytes bs).form.length ≤ bs.length + 9 :=
    Instruction.length_counted_le ..
  exact emit_le (fun _ => trivial) (by omega)

theorem newBytes (bs : List UInt8) :
    Costs g s places [] (Writer.newBytes bs) (bs.length + 37) :=
  ((emit_bytes bs).both keepNew).begin_.le (by omega)

theorem emit_int {n : Int} (hn : signedWidth n < 2 ^ 31) :
    Costs g s places [] (Writer.emit (.int n)) (signedWidth n + 14) := by
  have hform : (Instruction.int n).form.length ≤ signedWidth n + 5 :=
    Instruction.length_intForm_le n
  exact emit_le (fun _ => hn) (by omega)

theorem int {n : Int} (hn : signedWidth n < 2 ^ 31) :
    Costs g s places [] (Writer.int n) (signedWidth n + 23) := (emit_int hn).begin_

theorem emit_float (x : Binary64) : Costs g s places [] (Writer.emit (.float x)) 18 :=
  emit_le (fun _ => trivial) (by simp [Instruction.form])

theorem emptyTuple : Costs g s places [] Writer.emptyTuple 19 := by
  have hemit : Costs g s places [] (Writer.emit .emptyTuple) 10 := emit_code (fun _ => trivial) rfl
  exact hemit.begin_

/-- A tuple of arguments. -/
theorem newTuple {ws : List Write} {cs : List Nat} (h : List.Forall₂ (Costs g s places []) ws cs) :
    Costs g s places [] (Writer.newTuple ws) (cs.sum + 29) := by
  have htake : Costs g s places [] (Writer.emit (.tupleOf ws.length)) 10 :=
    emit_code (fun _ => trivial) rfl
  exact ((all h).both (htake.both keepNew)).begin_.le (by omega)

/-! ### Classes and calls -/

/-- A class that has no number is written by its name. -/
theorem className (g : Registry) (s : Store) (places : Finset Ref) (c : Class) :
    ∃ write, Writer.class_ g c = Writer.begin_ (Writer.fetchOr (.ofClass c) write) ∧
      Costs g s places [.ofClass c] write (g.nameLength c + 94) := by
  refine ⟨_, rfl, ?_⟩
  have hname (module simple : Option Identity) : Costs g s places [.ofClass c]
      (Writer.both (Writer.text module (g.nameOf c).1)
        (Writer.both (Writer.text simple (g.nameOf c).2)
          (Writer.both (Writer.emit .stackGlobal) (Writer.keep (.ofClass c)))))
      (g.nameLength c + 94) := by
    have hglobal : Costs g s places [] (Writer.emit .stackGlobal) 10 := emit_code (fun _ => trivial) rfl
    refine ((text module _).both ((text simple _).both (hglobal.both (keep _)))).mono (by simp) ?_
    simp only [Registry.nameLength]
    omega
  split
  · exact of_throw
  · cases c <;> exact hname _ _

theorem class_ (c : Class) :
    Costs g s places [.ofClass c] (Writer.class_ g c) (g.nameLength c + 103) := by
  obtain ⟨write, heq, hwrite⟩ := className g s places c
  rw [heq]
  exact (fetchOr (by simp) (by omega) hwrite).begin_

theorem nameLength_safe_le (c : SafeClass) : g.nameLength (.safe c) ≤ 22 := by
  have hname : c.fullName.1.utf8ByteSize + c.fullName.2.utf8ByteSize ≤ 22 := by cases c <;> decide
  exact hname

theorem call (c : SafeClass) (i : Option Identity) {args : Write}
    (hargs : Costs g s places [] args d) :
    Costs g s places i.toList (Writer.call g c i args) (d + 160) := by
  have hclass : Costs g s places [] (Writer.class_ g (.safe c)) 125 :=
    (class_ (.safe c)).le (by have := nameLength_safe_le (g := g) c; omega)
  have hreduce : Costs g s places [] (Writer.emit .reduce) 10 := emit_code (fun _ => trivial) rfl
  cases i with
  | none => exact (hclass.both (hargs.both (hreduce.both keepNew))).mono (by simp) (by omega)
  | some i =>
    have hknown : Costs g s places [i] (do
        Writer.byNumber (fun n => return [.instruction .pop, .instruction (Instruction.get n)])
          (Writer.keep i) (← get).known[i]?) 24 := by
      refine get_known [.instruction .pop] (by simp) (by simp [Piece.IsBelow]) (fun _ => rfl)
        (by simp [Piece.weight, Instruction.form]) fun w ps w' hw _ => ?_
      exact (keep i).mono (by simp) (by omega) w ps w' hw
    exact (hclass.both (hargs.both (hreduce.both hknown))).mono (by simp) (by omega)

theorem duration (i : Option Identity) {d : Duration}
    (hd : ∀ n ∈ (Object.timedelta d).ints, signedWidth n < 2 ^ 31) :
    Costs g s places i.toList (Writer.duration g i d)
      (((Object.timedelta d).ints.map signedWidth).sum + 258) := by
  simp only [Object.ints, List.forall_mem_cons] at hd
  obtain ⟨hdays, hseconds, hmicroseconds, -⟩ := hd
  refine (call .timedelta i (newTuple (.cons (int hdays) (.cons (int hseconds)
    (.cons (int hmicroseconds) .nil))))).mono (fun _ h => h) ?_
  simp only [Object.ints, List.map_cons, List.map_nil, List.sum_cons, List.sum_nil]
  omega

theorem blank (c : Class) (i : Identity) :
    Costs g s places [i] (Writer.blank g c i) (g.nameLength c + 142) := by
  have hnew : Costs g s places [] (Writer.emit .newObject) 10 := emit_code (fun _ => trivial) rfl
  exact ((class_ c).both (emptyTuple.both (hnew.both (keep i)))).mono (by simp) (by omega)

theorem state {α : Type} {f : α → Write} {cost : α → Nat} {xs : List α}
    (h : ∀ x ∈ xs, Costs g s places [] (f x) (cost x)) :
    Costs g s places [] (Writer.state (xs.map f)) ((xs.map fun x => cost x + 20).sum + 59) := by
  have hdict : Costs g s places [] (Writer.emit .emptyDict) 10 := emit_code (fun _ => trivial) rfl
  have hbuild : Costs g s places [] (Writer.emit .build) 10 := emit_code (fun _ => trivial) rfl
  exact (((hdict.both (keepNew.both (dictEntries h))).begin_).both hbuild).le (by omega)

/-! ### Objects -/

section Body

variable {sub : Ref → Write} {r : Ref} {o : Object} {items : List Ref} {entries : List (Ref × Ref)}

/-- Atoms are written again where they occur. -/
theorem body_atom (ho : s.get? r = some o) (hatom : o.isAtom)
    (hints : ∀ n ∈ o.ints, signedWidth n < 2 ^ 31) :
    Costs g s places [] (Writer.body g s sub r o) (s.share r - 9) := by
  cases o with
  | none | bool =>
    refine emit_le (fun _ => trivial) ?_
    simp [Instruction.form, Store.share, ho]
  | int n =>
    refine (emit_int (hints n (by simp [Object.ints]))).le ?_
    simp only [Store.share, ho]
    omega
  | float x =>
    refine (emit_float x).le ?_
    simp [Store.share, ho]
  | tuple items =>
    obtain rfl : items = [] := by
      cases items with
      | nil => rfl
      | cons => cases hatom
    refine emit_le (fun _ => trivial) ?_
    simp [Instruction.form, Store.share, ho]
  | _ => cases hatom

theorem sum_shares_le (ho : o.parts = items) : (items.map s.share).sum ≤ o.shares s := by
  subst ho
  exact List.sum_le_sum fun x _ => Nat.le_add_right _ _

theorem sum_items_le (ho : o.parts = items) :
    (items.map fun x => s.share x + 20).sum ≤ o.shares s := by
  subst ho
  exact List.sum_le_sum fun x _ => Nat.add_le_add_left (by decide) _

theorem sum_entries_le (ho : o.parts = entries.map Prod.fst ++ entries.map Prod.snd) :
    (entries.map fun e => s.share e.1 + s.share e.2 + 20).sum ≤ o.shares s := by
  rw [Object.shares, ho, List.map_append, List.sum_append, List.map_map, List.map_map,
    ← List.sum_map_add]
  refine List.sum_le_sum fun e _ => ?_
  simp only [Function.comp_apply]
  omega

theorem forall₂_sub (h : ∀ p ∈ o.parts, Costs g s places [] (sub p) (s.share p))
    (hitems : ∀ p ∈ items, p ∈ o.parts) :
    List.Forall₂ (Costs g s places []) (items.map sub) (items.map s.share) := by
  rw [List.forall₂_map_left_iff, List.forall₂_map_right_iff]
  exact List.forall₂_same.2 fun p hp => h p (hitems p hp)

theorem each_sub (h : ∀ p ∈ o.parts, Costs g s places [] (sub p) (s.share p)) (ho : o.parts = items) :
    Costs g s places [] (Writer.all (items.map sub)) (o.shares s) :=
  (each (ho ▸ h)).le (sum_shares_le ho)

theorem entry (h : ∀ p ∈ o.parts, Costs g s places [] (sub p) (s.share p))
    (ho : o.parts = entries.map Prod.fst ++ entries.map Prod.snd) :
    ∀ e ∈ entries, Costs g s places [] (Writer.both (sub e.1) (sub e.2))
      (s.share e.1 + s.share e.2) := by
  intro e he
  refine (h e.1 ?_).both (h e.2 ?_)
  · rw [ho]
    exact List.mem_append_left _ (List.mem_map_of_mem he)
  · rw [ho]
    exact List.mem_append_right _ (List.mem_map_of_mem he)

/-- An object that is closed off behind its parts, down to the mark in front of them. -/
theorem marked {parts : Write} (hj : ∀ n, Piece.IsBelow n (.instruction j)) (hform : j.form.length = 1)
    (hparts : Costs g s places [] parts c) :
    Costs g s places [i] (Writer.both (Writer.emit .mark)
      (Writer.both parts (Writer.finish i j [.popMark]))) (c + 64) := by
  have hmark : Costs g s places [] (Writer.emit .mark) 10 := emit_code (fun _ => trivial) rfl
  have hfinish : Costs g s places [i] (Writer.finish i j [.popMark]) 24 :=
    finish hj (by simp [Piece.IsBelow]) (by omega) (by simp [Piece.weight, Instruction.form])
  exact (hmark.both (hparts.both hfinish)).mono (by simp) (by omega)

theorem body_tuple (h : ∀ p ∈ items, Costs g s places [] (sub p) (s.share p)) (hne : items ≠ []) :
    Costs g s places [.place r] (Writer.body g s sub r (.tuple items))
      ((Object.tuple items).shares s + 64) := by
  obtain ⟨a, rest, rfl⟩ := List.exists_cons_of_ne_nil hne
  have hparts := each_sub (o := .tuple (a :: rest)) h rfl
  simp only [Writer.body]
  split
  case isTrue hle =>
    have hfinish : Costs g s places [.place r] (Writer.finish (.place r)
        (.tupleOf (a :: rest).length) (List.replicate (a :: rest).length .pop)) 64 := by
      refine finish (fun _ => trivial) (fun p hp _ => ?_) (by simp [Instruction.form]) ?_
      · rw [List.map_replicate] at hp
        rw [List.eq_of_mem_replicate hp]
        trivial
      · simp only [weight, List.map_replicate, List.sum_replicate_nat, Piece.weight,
          Instruction.form, List.length_singleton]
        omega
    exact (hparts.both hfinish).mono (by simp) (Nat.le_refl _)
  case isFalse =>
    exact marked (fun _ => trivial) rfl hparts

/-- A container gets its number while it is empty. -/
theorem made {fill : Write} (hj : ∀ n, Piece.IsBelow n (.instruction j)) (hform : j.form.length = 1)
    (hfill : Costs g s places [] fill c) :
    Costs g s places [i] (Writer.both (Writer.emit j) (Writer.both (Writer.keep i) fill)) (c + 20) :=
  ((emit_code hj hform).both ((keep i).both hfill)).mono (by simp) (by omega)

/-- An instruction with a payload and the number of what it makes. -/
theorem kept (h : Costs g s places [] write c) :
    Costs g s places [i] (Writer.both write (Writer.keep i)) (c + 10) :=
  (h.both (keep i)).mono (by simp) (Nat.le_refl _)

theorem body_deque {limit : Option Nat} (h : ∀ p ∈ items, Costs g s places [] (sub p) (s.share p))
    (hints : ∀ n ∈ (Object.deque items limit).ints, signedWidth n < 2 ^ 31) :
    Costs g s places [.place r] (Writer.body g s sub r (.deque items limit))
      ((Object.deque items limit).weight g s) := by
  have hstreamed : Costs g s places [] (Writer.streamed .append .appends (items.map sub)) _ :=
    streamed (fun _ => trivial) (fun _ => trivial) rfl rfl h
  have hle : (items.map fun x => s.share x + 20).sum ≤ (Object.deque items limit).shares s :=
    sum_items_le rfl
  cases limit with
  | none =>
    refine ((call .deque (some (.place r)) emptyTuple).both hstreamed).mono (by simp) ?_
    simp only [Object.weight]
    omega
  | some n =>
    have hn : signedWidth n < 2 ^ 31 := hints n (by simp [Object.ints])
    refine ((call .deque (some (.place r)) (newTuple (.cons emptyTuple
      (.cons (int hn) .nil)))).both hstreamed).mono (by simp) ?_
    simp only [Object.weight, Object.ints, Option.toList, List.map_cons, List.map_nil, List.sum_cons,
      List.sum_nil, Int.ofNat_eq_natCast] at hle ⊢
    omega

theorem body_instance {id : Nat} (h : ∀ p ∈ (Object.instance id entries).parts,
      Costs g s places [] (sub p) (s.share p)) :
    Costs g s places [.place r] (Writer.body g s sub r (.instance id entries))
      ((Object.instance id entries).weight g s) := by
  have hle := sum_entries_le (s := s) (o := .instance id entries) rfl
  have hblank : Costs g s places [.place r] (Writer.blank g (.defined id) (.place r)) _ :=
    blank (.defined id) (.place r)
  simp only [Writer.body]
  split
  · exact of_throw
  · split
    · refine (hblank.both nothing).mono (by simp) ?_
      simp only [Object.weight, Object.payload]
      omega
    · refine (hblank.both (state (entry h rfl))).mono (by simp) ?_
      simp only [Object.weight, Object.payload]
      omega

theorem body_uuid {number : Option Ref} (h : ∀ p ∈ (Object.uuid number).parts,
      Costs g s places [] (sub p) (s.share p)) :
    Costs g s places [.place r] (Writer.body g s sub r (.uuid number))
      ((Object.uuid number).weight g s) := by
  cases number with
  | none => exact of_throw
  | some p =>
    have hentry : ∀ x ∈ [p], Costs g s places []
        (Writer.both (Writer.text (some .numberField) "int") (sub x)) (40 + s.share x) :=
      fun x hx => (text (some .numberField) "int").both (h x hx)
    have hle : ([p].map s.share).sum ≤ (Object.uuid (some p)).shares s :=
      sum_shares_le rfl
    have hname := nameLength_safe_le (g := g) .uuid
    refine ((blank (.safe .uuid) (.place r)).both (state hentry)).mono (by simp) ?_
    simp only [Object.weight, List.map_cons, List.map_nil, List.sum_cons, List.sum_nil] at hle ⊢
    omega

/-- A call with packed fields and the time zone, if there is one. -/
theorem zoned {zone : Option Ref} (c : SafeClass) (packed : List UInt8)
    (h : ∀ p ∈ o.parts, Costs g s places [] (sub p) (s.share p)) (ho : o.parts = zone.toList) :
    Costs g s places [.place r] (Writer.call g c (some (.place r))
        (Writer.newTuple (Writer.newBytes packed :: zone.toList.map sub)))
      (packed.length + o.shares s + 226) := by
  have hzone : List.Forall₂ (Costs g s places []) (zone.toList.map sub) (zone.toList.map s.share) :=
    forall₂_sub h fun _ hp => ho ▸ hp
  have hle : (zone.toList.map s.share).sum ≤ o.shares s := sum_shares_le ho
  refine (call c (some (.place r)) (newTuple (.cons (newBytes packed) hzone))).mono
    (fun _ h => h) ?_
  rw [List.sum_cons]
  omega

/-- An object that is written in full gets a number, for no more than its weight. -/
theorem body (h : ∀ p ∈ o.parts, Costs g s places [] (sub p) (s.share p))
    (hints : ∀ n ∈ o.ints, signedWidth n < 2 ^ 31) (hatom : o.isAtom = false) :
    Costs g s places [o.identity r] (Writer.body g s sub r o) (o.weight g s) := by
  cases o with
  | none | bool | int | float => cases hatom
  | text t shared =>
    refine (emit_text t).kept.mono (fun _ h => h) ?_
    simp only [Object.weight, Object.payload]
    omega
  | bytes bs shared =>
    refine (emit_bytes bs).kept.mono (fun _ h => h) ?_
    simp only [Object.weight, Object.payload]
    omega
  | byteArray bs =>
    have hemit : Costs g s places [] (Writer.emit (.byteArray bs)) (bs.length + 18) :=
      emit_le (fun _ => trivial) (by simp [Instruction.form]; omega)
    refine hemit.kept.mono (fun _ h => h) ?_
    simp only [Object.weight, Object.payload]
    omega
  | tuple items =>
    have hitems : ∀ p ∈ items, Costs g s places [] (sub p) (s.share p) := h
    refine (body_tuple hitems ?_).mono (by simp [Object.identity]) ?_
    · rintro rfl
      cases hatom
    · simp only [Object.weight]
      omega
  | list items =>
    have hitems : ∀ p ∈ items, Costs g s places [] (sub p) (s.share p) := h
    refine (made (j := .emptyList) (fun _ => trivial) rfl (listItems hitems)).mono
      (fun _ h => h) ?_
    have hle : (items.map fun x => s.share x + 20).sum ≤ (Object.list items).shares s :=
      sum_items_le rfl
    simp only [Object.weight]
    omega
  | set members =>
    have hmembers : ∀ p ∈ members, Costs g s places [] (sub p) (s.share p) := h
    refine (made (j := .emptySet) (fun _ => trivial) rfl (setMembers hmembers)).mono
      (fun _ h => h) ?_
    have hle : (members.map fun x => s.share x + 20).sum ≤ (Object.set members).shares s :=
      sum_items_le rfl
    simp only [Object.weight]
    omega
  | dict entries =>
    refine (made (j := .emptyDict) (fun _ => trivial) rfl (dictEntries (entry h rfl))).mono
      (fun _ h => h) ?_
    have hle := sum_entries_le (s := s) (o := .dict entries) rfl
    simp only [Object.weight]
    omega
  | frozenSet members =>
    refine (marked (j := .frozenSet) (fun _ => trivial) rfl (each_sub h rfl)).mono (by simp [Object.identity]) ?_
    simp only [Object.weight]
    omega
  | complex re im =>
    refine (call .complex (some (.place r)) (newTuple (.cons (emit_float re).begin_
      (.cons (emit_float im).begin_ .nil)))).mono (fun _ h => h) ?_
    simp only [Object.weight, List.sum_cons, List.sum_nil]
    omega
  | range start stop step =>
    simp only [Object.ints, List.forall_mem_cons] at hints
    obtain ⟨hstart, hstop, hstep, -⟩ := hints
    refine (call .range (some (.place r)) (newTuple (.cons (int hstart) (.cons (int hstop)
      (.cons (int hstep) .nil))))).mono (fun _ h => h) ?_
    simp only [Object.weight, Object.ints, List.map_cons, List.map_nil, List.sum_cons, List.sum_nil]
    omega
  | slice start stop step =>
    refine (call .slice (some (.place r)) (newTuple (.cons (h start (by simp [Object.parts]))
      (.cons (h stop (by simp [Object.parts])) (.cons (h step (by simp [Object.parts])) .nil))))).mono
      (fun _ h => h) ?_
    simp only [Object.weight, Object.shares, Object.parts, List.map_cons, List.map_nil,
      List.sum_cons, List.sum_nil]
    omega
  | orderedDict entries =>
    have hstreamed : Costs g s places [] (Writer.streamed .setItem .setItems _) _ :=
      streamed (fun _ => trivial) (fun _ => trivial) rfl rfl (entry h rfl)
    refine ((call .orderedDict (some (.place r)) emptyTuple).both hstreamed).mono
      (by simp [Object.identity]) ?_
    have hle := sum_entries_le (s := s) (o := .orderedDict entries) rfl
    simp only [Object.weight]
    omega
  | deque items limit => exact body_deque h hints
  | date d =>
    refine (call .date (some (.place r)) (newTuple (.cons (newBytes _) .nil))).mono
      (fun _ h => h) ?_
    have hpack : (d.pack 0).length = 4 := by simp [Date.pack]
    rw [List.sum_cons, List.sum_nil, hpack]
    simp only [Object.weight]
    omega
  | datetime d c zone =>
    have hpack : (packDateTime d c).length = 10 := by simp [packDateTime, Date.pack, Clock.pack]
    refine (zoned .datetime (packDateTime d c) h rfl).mono (fun _ h => h) ?_
    simp only [Object.weight]
    omega
  | time c zone =>
    have hpack : (c.pack (foldBit c.fold)).length = 6 := by simp [Clock.pack]
    refine (zoned .time (c.pack (foldBit c.fold)) h rfl).mono (fun _ h => h) ?_
    simp only [Object.weight]
    omega
  | timedelta d =>
    refine (duration (some (.place r)) hints).mono (fun _ h => h) ?_
    simp only [Object.weight]
    omega
  | utc =>
    have hzero : ∀ n ∈ (Object.timedelta ⟨0, 0, 0⟩).ints, signedWidth n < 2 ^ 31 := by decide
    refine (call .timezone (some .utc) (newTuple (.cons (duration none hzero).begin_ .nil))).mono
      (fun _ h => h) ?_
    have hsum : ((Object.timedelta ⟨0, 0, 0⟩).ints.map signedWidth).sum = 3 := by decide
    rw [List.sum_cons, List.sum_nil, hsum]
    simp only [Object.weight]
    omega
  | timezone offset name =>
    have hle : ((offset :: name.toList).map s.share).sum ≤ (Object.timezone offset name).shares s :=
      sum_shares_le rfl
    refine (call .timezone (some (.place r)) (newTuple (forall₂_sub h fun _ hp => hp))).mono
      (fun _ h => h) ?_
    simp only [Object.weight, Object.parts]
    omega
  | decimal d =>
    refine (call .decimal (some (.place r)) (newTuple (.cons (text none d.text) .nil))).mono
      (fun _ h => h) ?_
    simp only [Object.weight, Object.payload, List.sum_cons, List.sum_nil]
    omega
  | uuid number => exact body_uuid h
  | ofClass c =>
    refine (class_ c).mono (fun _ h => h) ?_
    simp only [Object.weight, Object.payload]
    omega
  | «instance» id attributes => exact body_instance h
  | view | locked => exact of_throw

end Body

/-! ### Values -/

variable {r : Ref} {o : Object}

/-- An object that can have a number costs no more than to fetch it. -/
theorem paid (ho : s.get? r = some o) (hr : r ∈ places) (hc : c ≤ o.weight g s)
    (h : Costs g s (places.erase r) [o.identity r] write c) :
    Costs g s places [] (Writer.fetchOr (o.identity r) write) 14 := by
  refine fetchOr_of (by simp) (Nat.le_refl _) fun w ps w' hw hnew hrun => ?_
  have hspends := h w ps w' hw hrun
  have haccount : w.account g s r = o.weight g s := by
    simp only [Writer.account, ho, if_neg hnew]
  have haccount' : w'.account g s r = 0 := by
    simp only [Writer.account, ho, if_pos (hspends.learned _ List.mem_cons_self)]
  have hsum (w : Writer) : w.account g s r + w.accounts g s (places.erase r) =
      w.accounts g s places := Finset.add_sum_erase _ _ hr
  refine { hspends with learned := by simp, weight := ?_ }
  have hweight := hspends.weight
  rw [← hsum w, ← hsum w', haccount, haccount']
  omega

/-- **An occurrence of an object costs no more than its share.** -/
theorem object (fuel : Nat) (hr : s.Built g r) (hplaces : ∀ x, s.Leads r x → x ∈ places)
    (hints : ∀ x o, s.Leads r x → s.get? x = some o → ∀ n ∈ o.ints, signedWidth n < 2 ^ 31) :
    Costs g s places [] (Writer.object g s fuel r) (s.share r) := by
  induction fuel generalizing r places with
  | zero => exact of_throw
  | succ fuel ih =>
    cases ho : s.get? r with
    | none =>
      simp only [Writer.object, ho]
      exact of_throw
    | some o =>
      have hshare : 32 ≤ s.share r := by
        unfold Store.share
        split <;> omega
      have hmem : r ∈ places := hplaces r .refl
      by_cases hclass : ∃ c, o = .ofClass c
      · obtain ⟨c, rfl⟩ := hclass
        obtain ⟨write, heq, hwrite⟩ := className g s (places.erase r) c
        simp only [Writer.object, ho, heq]
        refine (paid ho hmem ?_ hwrite).begin_.le (by omega)
        simp only [Object.weight, Object.payload]
        omega
      rw [Writer.object_succ fuel ho fun c hc => hclass ⟨c, hc⟩]
      have hown := hints r o .refl ho
      cases hatom : o.isAtom with
      | true =>
        refine (fetchOr (by simp) ?_ (body_atom ho hatom hown)).begin_.le (by omega)
        omega
      | false =>
        have hparts : ∀ p ∈ o.parts, Costs g s (places.erase r) [] (Writer.object g s fuel p)
            (s.share p) := by
          intro p hp
          refine ih (hr.part ho hp) (fun x hx => ?_) fun x o' hx => hints x o' (hx.of_part ho hp)
          refine Finset.mem_erase.2 ⟨?_, hplaces x (hx.of_part ho hp)⟩
          rintro rfl
          exact hr.not_leads ho hp hx
        exact (paid ho hmem (Nat.le_refl _) (body hparts hown hatom)).begin_.le (by omega)

end Costs

/-- A value is modest if everything in its store is. -/
theorem Store.Built.modest {r : Ref} (h : s.Built g r)
    (hints : ∀ o ∈ s.objects.toList, ∀ n ∈ o.ints, signedWidth n < 2 ^ 31)
    (hweight : s.share r + ∑ x ∈ Finset.range s.size, s.weightAt g x < 2 ^ 32) :
    s.Modest g r where
  ints _ o _ ho := hints o (Array.mem_toList_iff.2 (Array.mem_of_getElem? ho))
  weight := ⟨_, fun _ hx => Finset.mem_range.2 (h.shallow.leads hx).lt_size, hweight⟩

/-- **A modest value has pieces that fit.** -/
theorem fits_of_modest {r : Ref} {fuel : Nat} {ps : List Piece} {w : Writer}
    (h : s.Modest g r) (hr : s.Built g r)
    (hrun : (Writer.object g s fuel r).run .empty = .ok (ps, w)) : Fits ps := by
  obtain ⟨places, hplaces, hweight⟩ := h.weight
  have hnumbered : Writer.empty.Numbered := by simp [Writer.Numbered, Writer.empty]
  have hspends := Costs.object fuel hr hplaces h.ints .empty ps w hnumbered hrun
  have haccounts : Writer.empty.accounts g s places = ∑ x ∈ places, s.weightAt g x := by
    refine Finset.sum_congr rfl fun x _ => ?_
    unfold Writer.account Store.weightAt
    cases s.get? x with
    | none => rfl
    | some o => exact if_neg Std.HashMap.not_mem_empty
  have hps : weight ps < 2 ^ 32 := by
    have hle := hspends.weight
    omega
  refine ⟨fun p hp => (hspends.isBelow p hp).isWritable ?_, ?_⟩
  · have hcount := hspends.count
    simp only [Writer.empty] at hcount
    omega
  · have hlength := length_messageOf_le ps
    unfold maxLength
    omega

end Wire

end ServiceStubs
