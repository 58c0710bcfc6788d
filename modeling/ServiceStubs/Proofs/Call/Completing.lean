import ServiceStubs.Proofs.Call.SettleOnce

/-!
# Who tells that it completed a call

Dropping and cancelling a call answer whether they ended it, and a run of a claimed reply returns
if it sent it. Such an answer tells that the call was completed by the one who gets it
(`Sink.Invocation.tells`), and one would like at most one call on a sink to get it, with the outcome
that the sink has.

A cancellation and a reply go by the outcome of the sink, so among themselves this is so. Dropping
goes by the claim, and does not look at whether its own outcome was taken. As a cancellation claims
nothing, a drop behind it still tells that it ended the call, which was cancelled. That is the only
way for two calls to tell: a drop claims the sink, so no reply is left that could be sent.

## Main definitions

* `Sink.Invocation.tells`: the answers that tell of a completed call
* `Sink.Operation.outcome?`: the outcome that an operation completes the call with
* `Sink.System.Traced`: where runs and settlements come from

## Main statements

* `Sink.System.Traced.step`, `Sink.System.traced_run`: the invariant and its preservation
* `Sink.told_once_of_history`: at most one call tells, or a drop and a cancellation do
-/

namespace ServiceStubs

namespace Call

namespace Sink

variable {α : Type}

/-! ### Answers that tell -/

/-- Whether an answer tells that the call was completed. -/
def Answer.tells : Answer α → Bool
  | flag ended => ended
  | sent => true
  | _ => false

/-- Whether a call on a sink is over and was told that it completed the call of the sink. -/
def Invocation.tells (c : Invocation α) : Bool := c.answer?.any Answer.tells

/-- The outcome that an operation completes a call of the named method with. -/
def Operation.outcome? (method : String) : Operation α → Option (Outcome α)
  | drop => some (.status (droppedStatus method))
  | cancel => some (.status endedStatus)
  | run send => some send.outcome
  | _ => none

/-- What a call that tells did: it dropped the sink and claimed it, or it settled the sink with its
own outcome. -/
theorem Invocation.InStage.of_tells {sink : Sink α} {c : Invocation α} (h : c.InStage sink)
    (ht : c.tells = true) :
    (c.operation = .drop ∧ c.claimed = true ∧ c.answer? = some (.flag true)) ∨
      (c.operation = .cancel ∧ c.settled = some .ended) ∨
      ∃ send, c.operation = .run send ∧ c.settled = some .own ∧
        sink.outcome = some send.outcome := by
  obtain ⟨operation, rest, claimed, settled⟩ := c
  have h' : Stage sink.method sink.outcome operation rest claimed settled := h
  cases h' with
  | begun =>
    cases operation with
    | failure status =>
      by_cases hok : (status.code == .ok) = true <;>
        simp [Invocation.tells, Invocation.answer?, Operation.steps, failureSteps, replySteps,
          hok, Answer.tells] at ht
    | _ => simp [Invocation.tells, Invocation.answer?, Operation.steps, replySteps, dropSteps,
        cancelSteps, deliverSteps] at ht
  | dropped hd => exact .inl ⟨rfl, rfl, rfl⟩
  | cancelled => exact .inr (.inl ⟨rfl, rfl⟩)
  | sent send ho => exact .inr (.inr ⟨send, rfl, rfl, ho⟩)
  | _ => simp [Invocation.tells, Invocation.answer?, Answer.tells] at ht

/-- What a call that settled the sink is. -/
theorem Invocation.InStage.of_settled {sink : Sink α} {c : Invocation α} (h : c.InStage sink)
    {source : Source} (hs : c.settled = some source) :
    (c.operation = .drop ∧ source = .dropped) ∨
      (c.operation = .cancel ∧ source = .ended ∧ c.tells = true) ∨
      ∃ send, c.operation = .run send := by
  obtain ⟨operation, rest, claimed, settled⟩ := c
  obtain rfl : settled = some source := hs
  have h' : Stage sink.method sink.outcome operation rest claimed (some source) := h
  cases h' with
  | dropped hd => exact .inl ⟨rfl, by simpa using hd⟩
  | cancelled => exact .inr (.inl ⟨rfl, rfl, rfl⟩)
  | sent send => exact .inr (.inr ⟨send, rfl⟩)
  | late send => exact .inr (.inr ⟨send, rfl⟩)

/-! ### Where runs and settlements come from -/

/-- What a call shows of the outcome of its sink, if it ended the call or tried to. -/
structure Invocation.Shows (sink : Sink α) (c : Invocation α) : Prop where
  dropped : c.settled = some .dropped → sink.outcome = some (.status (droppedStatus sink.method))
  ended : c.settled = some .ended → sink.outcome = some (.status endedStatus)
  /-- The sink has an outcome once a drop is told that it ended the call, if perhaps not its own. -/
  told : c.operation = .drop → c.answer? = some (.flag true) → sink.outcome.isSome = true

theorem Invocation.Shows.mono {sink sink' : Sink α} {c : Invocation α} (h : c.Shows sink)
    (hmethod : sink'.method = sink.method)
    (houtcome : ∀ o, sink.outcome = some o → sink'.outcome = some o) : c.Shows sink' where
  dropped hs := hmethod ▸ houtcome _ (h.dropped hs)
  ended hs := houtcome _ (h.ended hs)
  told hop ha := by
    obtain ⟨o, ho⟩ := Option.isSome_iff_exists.mp (h.told hop ha)
    simp [houtcome o ho]

/-- A call shows nothing as long as it has settled nothing and is not told that it ended the
call. -/
theorem Invocation.shows_of_silent {sink : Sink α} {c : Invocation α} (hs : c.settled = none)
    (ha : c.answer? ≠ some (.flag true)) : c.Shows sink :=
  ⟨by simp [hs], by simp [hs], fun _ h => absurd h ha⟩

/-- A settling step: whoever's outcome it was, the sink has one now. -/
theorem System.shows_of_settle (s : System α) {c : Invocation α}
    {next : Bool → Steps α (Answer α)} {source : Source} {o : Outcome α}
    (hrest : c.rest = .settle source o next) (hset : c.settled = none)
    (hdropped : source = .dropped → o = .status (droppedStatus s.sink.method))
    (hended : source = .ended → o = .status endedStatus) :
    (s.advance c).2.Shows (s.advance c).1 := by
  simp only [System.advance, hrest]
  cases hs : s.sink.outcome with
  | none =>
    refine ⟨?_, ?_, ?_⟩ <;> simp_all [settle]
  | some o' =>
    refine ⟨?_, ?_, ?_⟩ <;> simp_all [settle]

/-- One step of a call, for what it shows. -/
theorem System.shows_advance (s : System α) {c : Invocation α} (h : c.InStage s.sink)
    (hc : c.Shows s.sink) : (s.advance c).2.Shows (s.advance c).1 := by
  obtain ⟨operation, rest, claimed, settled⟩ := c
  have h' : Stage s.sink.method s.sink.outcome operation rest claimed settled := h
  cases h' with
  | begun =>
    cases operation with
    | success v =>
      refine Invocation.shows_of_silent rfl ?_
      cases hs : s.sink.claimed <;>
        simp [System.advance, Operation.steps, replySteps, Invocation.answer?, claim, hs]
    | failure status =>
      refine Invocation.shows_of_silent ?_ ?_ <;>
        by_cases hok : (status.code == .ok) = true <;> cases hs : s.sink.claimed <;>
        simp [System.advance, Operation.steps, failureSteps, replySteps, Invocation.answer?,
          claim, hs, hok]
    | drop =>
      refine Invocation.shows_of_silent rfl ?_
      cases hs : s.sink.claimed <;>
        simp [System.advance, Operation.steps, dropSteps, Invocation.answer?, claim, hs]
    | cancel => exact s.shows_of_settle rfl rfl (by simp) fun _ => rfl
    | run send =>
      refine Invocation.shows_of_silent rfl ?_
      cases hs : s.active <;>
        simp [System.advance, Operation.steps, deliverSteps, Invocation.answer?, hs]
  | dropping => exact s.shows_of_settle rfl rfl (fun _ => rfl) (by simp)
  | sending send => exact s.shows_of_settle rfl rfl (by simp) (by simp)
  | failing send => exact s.shows_of_settle rfl rfl (by simp) (by simp)
  | claimed | refused | dropped | kept | cancelled | notCancelled | sent | notSent | late =>
    exact hc

/-- A sink with calls on it, of which one knows where its runs and its outcome come from. -/
structure System.Traced (s : System α) : Prop extends s.Coherent where
  shows : ∀ c ∈ s.calls, c.Shows s.sink
  /-- What is run was claimed before. -/
  runs : ∀ c ∈ s.calls, ∀ send, c.operation = .run send → ∃ d ∈ s.calls, d.send? = some send

theorem System.traced_new (method : String) (active : Bool) :
    (System.new method active : System α).Traced :=
  ⟨System.coherent_new method active, by simp [System.new], by simp [System.new]⟩

theorem System.Traced.begin_ {s : System α} (h : s.Traced) (op : Operation α)
    (hrun : ∀ send, op = .run send → ∃ d ∈ s.calls, d.send? = some send) :
    (s.begin_ op).Traced := by
  have hmem {c : Invocation α} (hc : c ∈ (s.begin_ op).calls) :
      c ∈ s.calls ∨ c = .begin_ s.sink.method op := by
    simpa [System.begin_] using hc
  refine ⟨h.toCoherent.begin_ op, fun c hc => ?_, fun c hc send hop => ?_⟩
  · rcases hmem hc with hc | rfl
    · exact h.shows c hc
    · refine Invocation.shows_of_silent rfl fun ha => ?_
      have hs : (Invocation.begin_ s.sink.method op).InStage s.sink := .begun op
      have ht : (Invocation.begin_ s.sink.method op).tells = true := by
        simp [Invocation.tells, ha, Answer.tells]
      rcases hs.of_tells ht with ⟨-, hclaimed, -⟩ | ⟨-, hsettled⟩ | ⟨_, -, hsettled, -⟩
      · simp [Invocation.begin_] at hclaimed
      · simp [Invocation.begin_] at hsettled
      · simp [Invocation.begin_] at hsettled
  · obtain ⟨d, hd, hsend⟩ : ∃ d ∈ s.calls, d.send? = some send := by
      rcases hmem hc with hc | rfl
      · exact h.runs c hc send hop
      · exact hrun send hop
    exact ⟨d, List.mem_append_left _ hd, hsend⟩

/-- A call that returned a claimed reply is over. -/
theorem System.advance_of_send (s : System α) {c : Invocation α} {send : Send α}
    (h : c.send? = some send) : s.advance c = (s.sink, c) := by
  obtain ⟨operation, rest, claimed, settled⟩ := c
  cases rest with
  | done a => rfl
  | _ => simp [Invocation.send?, Invocation.answer?] at h

theorem System.Traced.advance {s : System α} (h : s.Traced) {i : ℕ} {c : Invocation α}
    (hc : s.calls[i]? = some c) :
    System.Traced
      { s with sink := (s.advance c).1, calls := s.calls.set i (s.advance c).2 } := by
  have hmem := List.mem_of_getElem? hc
  have ha := s.advances (h.stages c hmem)
  refine ⟨h.toCoherent.advance hc, fun d hd => ?_, fun d hd send hop => ?_⟩
  · rcases List.mem_or_eq_of_mem_set hd with hd | rfl
    · exact (h.shows d hd).mono ha.method ha.outcome
    · exact s.shows_advance (h.stages c hmem) (h.shows c hmem)
  · obtain ⟨e, he, hsend⟩ : ∃ e ∈ s.calls, e.send? = some send := by
      rcases List.mem_or_eq_of_mem_set hd with hd | rfl
      · exact h.runs d hd send hop
      · exact h.runs c hmem send (ha.operation ▸ hop)
    -- the call that claimed the reply is over, so if it is the one that advances, it stays
    obtain ⟨j, hj⟩ := List.mem_iff_getElem?.mp he
    refine ⟨e, List.mem_iff_getElem?.mpr ⟨j, ?_⟩, hsend⟩
    rcases eq_or_ne i j with rfl | hij
    · obtain rfl : c = e := Option.some.inj (hc.symm.trans hj)
      rw [s.advance_of_send hsend, List.getElem?_set_self (List.getElem?_eq_some_iff.mp hc).1]
    · rw [List.getElem?_set_ne hij, hj]

/-- **The invariant is preserved.** -/
theorem System.Traced.step {s : System α} (h : s.Traced) (e : Event α) : (s.step e).Traced := by
  cases e with
  | success v => exact h.begin_ _ (by simp)
  | failure status => exact h.begin_ _ (by simp)
  | drop => exact h.begin_ _ (by simp)
  | cancel => exact h.begin_ _ (by simp)
  | run claim =>
    simp only [System.step]
    split
    next send hsend =>
      obtain ⟨c, hc, hcs⟩ := Option.bind_eq_some_iff.mp hsend
      refine h.begin_ _ fun send' hop => ?_
      obtain rfl : send = send' := by simpa using hop
      exact ⟨c, List.mem_of_getElem? hc, hcs⟩
    · exact h
  | advance i =>
    simp only [System.step]
    split
    · exact h.advance ‹_›
    · exact h
  | setActive active => exact ⟨h.toCoherent.step (.setActive active), h.shows, h.runs⟩

theorem System.traced_run {s : System α} (h : s.Traced) (es : List (Event α)) :
    (s.run es).Traced := by
  induction es generalizing s with
  | nil => exact h
  | cons e es ih => exact ih (h.step e)

/-! ### Who tells -/

/-- The calls on the sink that were told that they completed its call. -/
def System.told (s : System α) : List (Invocation α) := s.calls.filter (·.tells)

theorem System.Coherent.countP_settled_le {s : System α} (h : s.Coherent) :
    s.calls.countP (·.settled.isSome) ≤ 1 := h.settlements ▸ Bool.toNat_le _

/-- At most one drop tells, as it claimed the sink. -/
theorem System.Coherent.countP_told_drop_le {s : System α} (h : s.Coherent) :
    s.told.countP (·.operation.isDrop) ≤ 1 := by
  refine Nat.le_trans ?_ h.countP_claimed_le
  rw [System.told, List.countP_filter]
  refine List.countP_mono_left fun c hc hd => ?_
  obtain ⟨hd, ht⟩ : c.operation.isDrop = true ∧ c.tells = true := by simpa using hd
  rcases (h.stages c hc).of_tells ht with ⟨-, hclaimed, -⟩ | ⟨hop, -⟩ | ⟨send, hop, -⟩
  · exact hclaimed
  · simp [hop, Operation.isDrop] at hd
  · simp [hop, Operation.isDrop] at hd

/-- At most one other call tells, as it settled the sink. -/
theorem System.Coherent.countP_told_other_le {s : System α} (h : s.Coherent) :
    s.told.countP (!·.operation.isDrop) ≤ 1 := by
  refine Nat.le_trans ?_ h.countP_settled_le
  rw [System.told, List.countP_filter]
  refine List.countP_mono_left fun c hc hd => ?_
  obtain ⟨hd, ht⟩ : c.operation.isDrop = false ∧ c.tells = true := by simpa using hd
  rcases (h.stages c hc).of_tells ht with ⟨hop, -⟩ | ⟨-, hs⟩ | ⟨send, -, hs, -⟩
  · simp [hop, Operation.isDrop] at hd
  · simp [hs]
  · simp [hs]

/-- Where no drop tells, the outcome is the one of the call that does. -/
theorem System.Traced.outcome_of_told {s : System α} (h : s.Traced) {c : Invocation α}
    (hc : c ∈ s.told) (hop : c.operation ≠ .drop) :
    s.sink.outcome = c.operation.outcome? s.sink.method := by
  obtain ⟨hc, ht⟩ := List.mem_filter.mp hc
  rcases (h.stages c hc).of_tells ht with ⟨hdrop, -⟩ | ⟨hcancel, hs⟩ | ⟨send, hrun, -, ho⟩
  · exact absurd hdrop hop
  · rw [(h.shows c hc).ended hs, hcancel, Operation.outcome?]
  · rw [ho, hrun, Operation.outcome?]

/-- A drop that tells claimed the sink. -/
theorem System.Coherent.claimed_of_told {s : System α} (h : s.Coherent) {d : Invocation α}
    (hd : d ∈ s.told) (hop : d.operation = .drop) :
    d.claimed = true ∧ d.answer? = some (.flag true) := by
  obtain ⟨hd, ht⟩ := List.mem_filter.mp hd
  rcases (h.stages d hd).of_tells ht with ⟨-, hclaimed, ha⟩ | ⟨hop', -⟩ | ⟨send, hop', -⟩
  · exact ⟨hclaimed, ha⟩
  · simp [hop] at hop'
  · simp [hop] at hop'

/-- Where a drop tells, no reply was run. -/
theorem System.Traced.not_run_of_told {s : System α} (h : s.Traced) {d c : Invocation α}
    (hd : d ∈ s.told) (hop : d.operation = .drop) (hc : c ∈ s.calls) (send : Send α) :
    c.operation ≠ .run send := by
  intro hrun
  obtain ⟨e, he, hsend⟩ := h.runs c hc send hrun
  have hclaimed := (h.toCoherent.claimed_of_told hd hop).1
  simp [h.toCoherent.send_eq_none (List.mem_of_mem_filter hd) hop hclaimed he] at hsend

/-- The status of a call tells whether it was cancelled or dropped. -/
theorem endedStatus_ne_droppedStatus (method : String) : endedStatus ≠ droppedStatus method := by
  simp [endedStatus, droppedStatus]

/-- A drop on a sink with the outcome of a cancellation has not settled it. -/
theorem System.Traced.settled_of_dropped {s : System α} (h : s.Traced) {d : Invocation α}
    (hd : d ∈ s.calls) (hop : d.operation = .drop)
    (ho : s.sink.outcome = some (.status endedStatus)) : d.settled = none := by
  cases hs : d.settled with
  | none => rfl
  | some source =>
    rcases (h.stages d hd).of_settled hs with ⟨-, rfl⟩ | ⟨hop', -⟩ | ⟨send, hop'⟩
    · have := ho.symm.trans ((h.shows d hd).dropped hs)
      exact absurd (by simpa using this) (endedStatus_ne_droppedStatus s.sink.method)
    · simp [hop] at hop'
    · simp [hop] at hop'

/-- Where a drop tells, either all calls that tell are drops and its outcome is that of the sink, or
a cancellation tells too. -/
theorem System.Traced.outcome_of_dropped {s : System α} (h : s.Traced) {d : Invocation α}
    (hd : d ∈ s.told) (hop : d.operation = .drop) :
    (s.sink.outcome = some (.status (droppedStatus s.sink.method)) ∧
        ∀ c ∈ s.told, c.operation = .drop) ∨
      ∃ c ∈ s.told, c.operation = .cancel := by
  by_cases hcancel : ∃ c ∈ s.told, c.operation = .cancel
  · exact .inr hcancel
  -- the sink has an outcome, so some call settled it, and only the drop is left
  have hpos : 0 < s.calls.countP (·.settled.isSome) := by
    rw [h.settlements, (h.shows d (List.mem_of_mem_filter hd)).told hop
      (h.toCoherent.claimed_of_told hd hop).2]
    decide
  obtain ⟨c, hc, hs⟩ := List.countP_pos_iff.mp hpos
  obtain ⟨source, hs⟩ := Option.isSome_iff_exists.mp hs
  refine .inl ⟨?_, fun e he => ?_⟩
  · rcases (h.stages c hc).of_settled hs with ⟨-, rfl⟩ | ⟨hop', -, htells⟩ | ⟨send, hrun⟩
    · exact (h.shows c hc).dropped hs
    · exact absurd ⟨c, List.mem_filter.mpr ⟨hc, htells⟩, hop'⟩ hcancel
    · exact absurd hrun (h.not_run_of_told hd hop hc send)
  · have hmem := List.mem_of_mem_filter he
    rcases (h.stages e hmem).of_tells (List.mem_filter.mp he).2 with
      ⟨hdrop, -⟩ | ⟨hop', -⟩ | ⟨send, hrun, -⟩
    · exact hdrop
    · exact absurd ⟨e, he, hop'⟩ hcancel
    · exact absurd hrun (h.not_run_of_told hd hop hmem send)

theorem filter_eq_singleton {γ : Type} {p : γ → Bool} {l : List γ} {a : γ} (ha : a ∈ l)
    (hp : p a = true) (h : l.countP p ≤ 1) : l.filter p = [a] := by
  have hmem : a ∈ l.filter p := List.mem_filter.mpr ⟨ha, hp⟩
  rw [List.countP_eq_length_filter] at h
  obtain ⟨b, hb⟩ := List.length_eq_one_iff.mp (Nat.le_antisymm h (List.length_pos_of_mem hmem))
  rw [hb] at hmem ⊢
  rw [List.mem_singleton.mp hmem]

/-- **At most one call tells that it completed the call, or a drop and a cancellation do.** After
every history of calls on a new sink, either at most one of them was told that it completed the
call, and the outcome of the sink is the one of its operation, or exactly two were: a drop that did
not settle the sink, and the cancellation that did. -/
theorem told_once_of_history (method : String) (active : Bool) (es : List (Event α)) :
    let s := (System.new method active : System α).run es
    (s.told.length ≤ 1 ∧ ∀ c ∈ s.told, s.sink.outcome = c.operation.outcome? method) ∨
      ∃ d c, s.told.Perm [d, c] ∧ d.operation = .drop ∧ d.settled = none ∧
        c.operation = .cancel ∧ s.sink.outcome = some (.status endedStatus) := by
  intro s
  have hs : s.Traced := System.traced_run (System.traced_new method active) es
  have hmethod : s.sink.method = method := System.run_method (System.coherent_new method active) es
  have hlength : s.told.length =
      s.told.countP (·.operation.isDrop) + s.told.countP (!·.operation.isDrop) := by
    simpa using List.length_eq_countP_add_countP (·.operation.isDrop) (l := s.told)
  have hdrops := hs.countP_told_drop_le
  have hothers := hs.countP_told_other_le
  rw [← hmethod]
  by_cases hdropped : ∃ d ∈ s.told, d.operation = .drop
  · obtain ⟨d, hd, hop⟩ := hdropped
    rcases hs.outcome_of_dropped hd hop with ⟨ho, hall⟩ | ⟨c, hc, hcancel⟩
    · have hnone : s.told.countP (!·.operation.isDrop) = 0 :=
        List.countP_eq_zero.mpr fun c hc => by simp [hall c hc, Operation.isDrop]
      exact .inl ⟨by omega, fun c hc => by rw [ho, hall c hc, Operation.outcome?]⟩
    · have ho : s.sink.outcome = some (.status endedStatus) := by
        rw [hs.outcome_of_told hc (by simp [hcancel]), hcancel, Operation.outcome?]
      have hperm := List.filter_append_perm (·.operation.isDrop) s.told
      rw [filter_eq_singleton hd (by simp [hop, Operation.isDrop]) hdrops,
        filter_eq_singleton hc (by simp [hcancel, Operation.isDrop]) hothers] at hperm
      exact .inr ⟨d, c, hperm.symm, hop,
        hs.settled_of_dropped (List.mem_of_mem_filter hd) hop ho, hcancel, ho⟩
  · have hnone : s.told.countP (·.operation.isDrop) = 0 := by
      refine List.countP_eq_zero.mpr fun c hc hd => hdropped ⟨c, hc, ?_⟩
      cases hop : c.operation <;> simp_all [Operation.isDrop]
    exact .inl ⟨by omega, fun c hc => hs.outcome_of_told hc fun hop => hdropped ⟨c, hc, hop⟩⟩

/-- A drop behind a cancellation: both are told that they ended the call. -/
theorem told_twice_of_cancel_drop :
    ¬ ∀ (method : String) (active : Bool) (es : List (Event ℕ)),
      let s := (System.new method active).run es
      s.told.length ≤ 1 ∧ ∀ c ∈ s.told, s.sink.outcome = c.operation.outcome? method := by
  intro h
  have htwo := (h "Greeter" true [.cancel, .advance 0, .drop, .advance 1, .advance 1]).1
  exact absurd htwo (by decide)

end Sink

end Call

end ServiceStubs
