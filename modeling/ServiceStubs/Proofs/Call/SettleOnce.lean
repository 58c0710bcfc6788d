import ServiceStubs.Proofs.Call.Interleaving

/-!
# A sink is settled once

Claiming and settling a sink are two steps, and a reply looks at whether the call is active in a
third. However these interleave, the sink gets one outcome and keeps it, at most one claimed reply
is ever handed out, and a run of that reply returns exactly if it settled the sink with its own
outcome.

The invariant (`Sink.System.Coherent`) has two parts. Each call on the sink stands at one of the
places that its operation passes through, and there it has claimed or settled the sink or not
(`Sink.Stage`). And the calls that claimed the sink are counted by the sink's claim, those that
settled it by its outcome, so there is at most one of either.

## Main statements

* `Sink.System.Coherent.step`, `Sink.System.coherent_run`: the invariant and its preservation
* `Sink.outcome_unique_of_interleaving`: what holds after every history
-/

namespace ServiceStubs

namespace Call

namespace Sink

variable {α : Type}

/-! ### Places of a call -/

/-- The outcome that an operation claims the sink for, if it is a reply. -/
def Operation.reply? : Operation α → Option (Outcome α)
  | success v => some (.value v)
  | failure status => if status.code == .ok then none else some (.status status)
  | _ => none

/-- Whether an operation drops the call. -/
def Operation.isDrop : Operation α → Bool
  | drop => true
  | _ => false

/-- The places that a call passes through: its operation, the steps left, whether it has claimed
the sink, and whose outcome it has settled it with. `outcome` is the outcome that the sink has. -/
inductive Stage (method : String) (outcome : Option (Outcome α)) :
    Operation α → Steps α (Answer α) → Bool → Option Source → Prop
  | begun (op : Operation α) : Stage method outcome op (op.steps method) false none
  | claimed {op : Operation α} {o : Outcome α} (h : op.reply? = some o) :
    Stage method outcome op (.done (.claimed ⟨o⟩)) true none
  | refused {op : Operation α} {o : Outcome α} (h : op.reply? = some o) :
    Stage method outcome op (.done (.raised (.alreadyReplied method))) false none
  | dropping :
    Stage method outcome .drop
      (.settle .dropped (.status (droppedStatus method)) fun _ => .done (.flag true)) true none
  | dropped {settled : Option Source} (h : settled = none ∨ settled = some .dropped) :
    Stage method outcome .drop (.done (.flag true)) true settled
  | kept : Stage method outcome .drop (.done (.flag false)) false none
  | cancelled : Stage method outcome .cancel (.done (.flag true)) false (some .ended)
  | notCancelled : Stage method outcome .cancel (.done (.flag false)) false none
  | sending (send : Send α) :
    Stage method outcome (.run send)
      (.settle .own send.outcome fun first =>
        .done (if first then .sent else .raised (.alreadyCompleted method))) false none
  | failing (send : Send α) :
    Stage method outcome (.run send)
      (.settle .late (.status lateStatus) fun _ => .done (.raised (.inactive method))) false none
  | sent (send : Send α) (h : outcome = some send.outcome) :
    Stage method outcome (.run send) (.done .sent) false (some .own)
  | notSent (send : Send α) :
    Stage method outcome (.run send) (.done (.raised (.alreadyCompleted method))) false none
  | late (send : Send α) {settled : Option Source} (h : settled = none ∨ settled = some .late) :
    Stage method outcome (.run send) (.done (.raised (.inactive method))) false settled

/-- A sink that has an outcome keeps it, so a call stays at its place when others take steps. -/
theorem Stage.mono {method : String} {outcome outcome' : Option (Outcome α)}
    (h : ∀ o, outcome = some o → outcome' = some o) {op : Operation α}
    {rest : Steps α (Answer α)} {claims : Bool} {settled : Option Source}
    (hs : Stage method outcome op rest claims settled) :
    Stage method outcome' op rest claims settled := by
  cases hs with
  | begun => exact .begun op
  | claimed hr => exact .claimed hr
  | refused hr => exact .refused hr
  | dropping => exact .dropping
  | dropped hd => exact .dropped hd
  | kept => exact .kept
  | cancelled => exact .cancelled
  | notCancelled => exact .notCancelled
  | sending send => exact .sending send
  | failing send => exact .failing send
  | sent send ho => exact .sent send (h _ ho)
  | notSent send => exact .notSent send
  | late send hl => exact .late send hl

/-- A call at one of its places. -/
def Invocation.InStage (sink : Sink α) (c : Invocation α) : Prop :=
  Stage sink.method sink.outcome c.operation c.rest c.claimed c.settled

/-! ### One step of a call -/

/-- What one step of a call keeps: the call comes to its next place, and claims and settlements are
counted by the sink. -/
structure Advances (sink : Sink α) (c : Invocation α) (next : Sink α × Invocation α) : Prop where
  method : next.1.method = sink.method
  /-- The sink keeps an outcome that it has. -/
  outcome : ∀ o, sink.outcome = some o → next.1.outcome = some o
  operation : next.2.operation = c.operation
  stage : next.2.InStage next.1
  claims : next.2.claimed.toNat + sink.claimed.toNat = c.claimed.toNat + next.1.claimed.toNat
  settlements : next.2.settled.isSome.toNat + sink.outcome.isSome.toNat =
    c.settled.isSome.toNat + next.1.outcome.isSome.toNat

theorem System.advances_of_claim (s : System α) {c : Invocation α}
    {next : Bool → Steps α (Answer α)} (hrest : c.rest = .claim next) (hc : c.claimed = false)
    (hset : c.settled = none)
    (h : ∀ first, Stage s.sink.method s.sink.outcome c.operation (next first) first none) :
    Advances s.sink c (s.advance c) := by
  simp only [System.advance, hrest]
  refine ⟨rfl, fun _ ho => ho, rfl, ?_, ?_, rfl⟩
  · simpa [Invocation.InStage, claim, hc, hset] using h (!s.sink.claimed)
  · cases hs : s.sink.claimed <;> simp [claim, hc, hs]

theorem System.advances_of_settle (s : System α) {c : Invocation α}
    {next : Bool → Steps α (Answer α)} {source : Source} {o : Outcome α}
    (hrest : c.rest = .settle source o next) (hset : c.settled = none)
    (hfirst : Stage s.sink.method (some o) c.operation (next true) c.claimed (some source))
    (hlater : Stage s.sink.method s.sink.outcome c.operation (next false) c.claimed none) :
    Advances s.sink c (s.advance c) := by
  simp only [System.advance, hrest]
  cases hs : s.sink.outcome with
  | none =>
    refine ⟨?_, fun _ ho => by simp [hs] at ho, rfl, ?_, ?_, ?_⟩
    · simp [settle, hs]
    · simpa [Invocation.InStage, settle, hs] using hfirst
    · simp [settle, hs]
    · simp [settle, hs, hset]
  | some o' =>
    refine ⟨?_, fun _ ho => by simpa [settle, hs] using ho, rfl, ?_, ?_, ?_⟩
    · simp [settle, hs]
    · simpa [Invocation.InStage, settle, hs, hset] using hlater
    · simp [settle, hs]
    · simp [settle, hs]

/-- A call that is over stays where it is. -/
theorem System.advances_of_done (s : System α) {c : Invocation α} {a : Answer α}
    (hrest : c.rest = .done a) (h : c.InStage s.sink) : Advances s.sink c (s.advance c) := by
  simp only [System.advance, hrest]
  exact ⟨rfl, fun _ ho => ho, rfl, h, rfl, rfl⟩

/-- **One step of a call.** Wherever a call stands, its next step leads to the next of its
places. -/
theorem System.advances (s : System α) {c : Invocation α} (h : c.InStage s.sink) :
    Advances s.sink c (s.advance c) := by
  obtain ⟨operation, rest, claimed, settled⟩ := c
  have h' : Stage s.sink.method s.sink.outcome operation rest claimed settled := h
  have reply {o : Outcome α} (hr : operation.reply? = some o) (first : Bool) :
      Stage s.sink.method s.sink.outcome operation
        (.done (if first then .claimed ⟨o⟩ else .raised (.alreadyReplied s.sink.method)))
        first none := by
    cases first
    · exact .refused hr
    · exact .claimed hr
  cases h' with
  | begun =>
    cases operation with
    | success v => exact s.advances_of_claim rfl rfl rfl (reply rfl)
    | failure status =>
      by_cases hok : (status.code == .ok) = true
      · exact s.advances_of_done (a := .raised .goodStatus)
          (by simp [Operation.steps, failureSteps, hok]) h
      · have hr : (Operation.failure status : Operation α).reply? = some (.status status) := by
          simp [Operation.reply?, hok]
        have hrest : (Operation.failure status).steps s.sink.method =
            replySteps s.sink.method (.status status : Outcome α) := by
          simp [Operation.steps, failureSteps, hok]
        exact s.advances_of_claim hrest rfl rfl (reply hr)
    | drop =>
      refine s.advances_of_claim rfl rfl rfl fun first => ?_
      cases first
      · exact .kept
      · exact .dropping
    | cancel => exact s.advances_of_settle rfl rfl .cancelled .notCancelled
    | run send =>
      refine ⟨rfl, fun _ ho => ho, rfl, ?_, rfl, rfl⟩
      simp only [System.advance, Operation.steps, deliverSteps, Invocation.InStage]
      cases s.active
      · exact .failing send
      · exact .sending send
  | dropping => exact s.advances_of_settle rfl rfl (.dropped (.inr rfl)) (.dropped (.inl rfl))
  | sending send => exact s.advances_of_settle rfl rfl (.sent send rfl) (.notSent send)
  | failing send =>
    exact s.advances_of_settle rfl rfl (.late send (.inr rfl)) (.late send (.inl rfl))
  | claimed | refused | dropped | kept | cancelled | notCancelled | sent | notSent | late =>
    exact s.advances_of_done rfl h

/-! ### One event -/

/-- The invariant of a sink with calls on it. -/
structure System.Coherent (s : System α) : Prop where
  stages : ∀ c ∈ s.calls, c.InStage s.sink
  /-- The sink is claimed if and only if one call claimed it. -/
  claims : s.calls.countP (·.claimed) = s.sink.claimed.toNat
  /-- The sink has an outcome if and only if one call settled it. -/
  settlements : s.calls.countP (·.settled.isSome) = s.sink.outcome.isSome.toNat

theorem System.coherent_new (method : String) (active : Bool) :
    (System.new method active : System α).Coherent :=
  ⟨by simp [System.new], rfl, rfl⟩

theorem countP_set_add {γ : Type} (p : γ → Bool) {l : List γ} {i : ℕ} {c : γ} (c' : γ)
    (h : l[i]? = some c) : (l.set i c').countP p + (p c).toNat = l.countP p + (p c').toNat := by
  obtain ⟨hi, rfl⟩ := List.getElem?_eq_some_iff.mp h
  have hle : (if p l[i] = true then 1 else 0) ≤ l.countP p := List.boole_getElem_le_countP hi
  rw [List.countP_set hi]
  cases hp : p l[i] <;> cases hp' : p c' <;>
    simp only [hp, if_true, if_false, Bool.false_eq_true, Bool.toNat_true, Bool.toNat_false]
      at hle ⊢ <;> omega

theorem System.Coherent.begin_ {s : System α} (h : s.Coherent) (op : Operation α) :
    (s.begin_ op).Coherent := by
  refine ⟨?_, ?_, ?_⟩
  · intro c hc
    rcases List.mem_append.mp hc with hc | hc
    · exact h.stages c hc
    · rw [List.mem_singleton.mp hc]
      exact .begun op
  · simpa [System.begin_, Invocation.begin_] using h.claims
  · simpa [System.begin_, Invocation.begin_] using h.settlements

theorem System.Coherent.advance {s : System α} (h : s.Coherent) {i : ℕ} {c : Invocation α}
    (hc : s.calls[i]? = some c) :
    System.Coherent
      { s with sink := (s.advance c).1, calls := s.calls.set i (s.advance c).2 } := by
  have ha := s.advances (h.stages c (List.mem_of_getElem? hc))
  have hclaims := countP_set_add (·.claimed) (s.advance c).2 hc
  have hsettlements := countP_set_add (·.settled.isSome) (s.advance c).2 hc
  refine ⟨?_, ?_, ?_⟩
  · intro d hd
    rcases List.mem_or_eq_of_mem_set hd with hd | rfl
    · have := (h.stages d hd).mono ha.outcome
      rwa [Invocation.InStage, ha.method]
    · exact ha.stage
  · have := ha.claims
    have := h.claims
    simp only at *
    omega
  · have := ha.settlements
    have := h.settlements
    simp only at *
    omega

/-- **The invariant is preserved.** -/
theorem System.Coherent.step {s : System α} (h : s.Coherent) (e : Event α) :
    (s.step e).Coherent := by
  cases e with
  | success v => exact h.begin_ _
  | failure status => exact h.begin_ _
  | drop => exact h.begin_ _
  | cancel => exact h.begin_ _
  | run claim =>
    simp only [System.step]
    split
    · exact h.begin_ _
    · exact h
  | advance i =>
    simp only [System.step]
    split
    · exact h.advance ‹_›
    · exact h
  | setActive active => exact ⟨h.stages, h.claims, h.settlements⟩

theorem System.Coherent.run {s : System α} (h : s.Coherent) (es : List (Event α)) :
    (s.run es).Coherent := by
  induction es generalizing s with
  | nil => exact h
  | cons e es ih => exact ih (h.step e)

/-! ### What the places of calls tell -/

theorem Invocation.InStage.claimed_of_send {sink : Sink α} {c : Invocation α}
    (h : c.InStage sink) (hs : c.send?.isSome) : c.claimed = true ∧ c.operation ≠ .drop := by
  obtain ⟨operation, rest, claimed, settled⟩ := c
  have h' : Stage sink.method sink.outcome operation rest claimed settled := h
  cases h' with
  | claimed hr =>
    refine ⟨rfl, ?_⟩
    rintro rfl
    simp [Operation.reply?] at hr
  | begun =>
    cases operation with
    | failure status =>
      by_cases hok : (status.code == .ok) = true <;>
        simp [Invocation.send?, Invocation.answer?, Operation.steps, failureSteps, replySteps,
          hok] at hs
    | _ => simp [Invocation.send?, Invocation.answer?, Operation.steps, replySteps, dropSteps,
        cancelSteps, deliverSteps] at hs
  | _ => simp [Invocation.send?, Invocation.answer?] at hs

/-- A run of a claimed reply that is over has sent it, and then it settled the sink, or it has
not. -/
theorem Invocation.InStage.answer_run {sink : Sink α} {c : Invocation α} (h : c.InStage sink)
    {send : Send α} (hop : c.operation = .run send) {a : Answer α} (ha : c.answer? = some a) :
    (a = .sent ∧ c.settled = some .own ∧ sink.outcome = some send.outcome) ∨
      (c.settled ≠ some .own ∧
        (a = .raised (.inactive sink.method) ∨ a = .raised (.alreadyCompleted sink.method))) := by
  obtain ⟨operation, rest, claimed, settled⟩ := c
  obtain rfl : operation = .run send := hop
  have h' : Stage sink.method sink.outcome (.run send) rest claimed settled := h
  cases h' with
  | begun => simp [Invocation.answer?, Operation.steps, deliverSteps] at ha
  | claimed hr => simp [Operation.reply?] at hr
  | refused hr => simp [Operation.reply?] at hr
  | sending => simp [Invocation.answer?] at ha
  | failing => simp [Invocation.answer?] at ha
  | sent _ ho =>
    obtain rfl : Answer.sent = a := Option.some.inj ha
    exact .inl ⟨rfl, rfl, ho⟩
  | notSent =>
    obtain rfl : Answer.raised (.alreadyCompleted sink.method) = a := Option.some.inj ha
    exact .inr ⟨by simp, .inr rfl⟩
  | late _ hl =>
    obtain rfl : Answer.raised (.inactive sink.method) = a := Option.some.inj ha
    refine .inr ⟨?_, .inl rfl⟩
    rcases hl with rfl | rfl <;> simp

theorem System.Coherent.countP_claimed_le {s : System α} (h : s.Coherent) :
    s.calls.countP (·.claimed) ≤ 1 := h.claims ▸ Bool.toNat_le _

theorem System.Coherent.countP_send_le {s : System α} (h : s.Coherent) :
    s.calls.countP (·.send?.isSome) ≤ 1 :=
  Nat.le_trans (List.countP_mono_left fun c hc hs => ((h.stages c hc).claimed_of_send hs).1)
    h.countP_claimed_le

/-- If dropping the call claimed the sink, no reply was claimed. -/
theorem System.Coherent.send_eq_none {s : System α} (h : s.Coherent) {d c : Invocation α}
    (hd : d ∈ s.calls) (hdrop : d.operation = .drop) (hclaimed : d.claimed = true)
    (hc : c ∈ s.calls) : c.send? = none := by
  by_contra hsend
  have hs : c.send?.isSome := Option.isSome_iff_ne_none.mpr hsend
  have hcs := (h.stages c hc).claimed_of_send hs
  have hd' : d.operation.isDrop = true := by rw [hdrop]; rfl
  have hc' : c.operation.isDrop = false := by
    cases hop : c.operation with
    | drop => exact absurd hop hcs.2
    | _ => rfl
  -- the two calls are counted apart, so the sink would have been claimed twice
  have hsplit := List.countP_eq_countP_filter_add s.calls (·.claimed) (·.operation.isDrop)
  have hpos : 0 < (s.calls.filter (·.operation.isDrop)).countP (·.claimed) :=
    List.countP_pos_iff.mpr ⟨d, List.mem_filter.mpr ⟨hd, hd'⟩, hclaimed⟩
  have hpos' : 0 < (s.calls.filter fun x => !x.operation.isDrop).countP (·.claimed) :=
    List.countP_pos_iff.mpr ⟨c, List.mem_filter.mpr ⟨hc, by simp [hc']⟩, hcs.1⟩
  have hle := h.countP_claimed_le
  omega

/-! ### What later events keep -/

theorem System.step_outcome {s : System α} (h : s.Coherent) {o : Outcome α}
    (ho : s.sink.outcome = some o) (e : Event α) : (s.step e).sink.outcome = some o := by
  cases e with
  | success | failure | drop | cancel | setActive => exact ho
  | run claim =>
    simp only [System.step]
    split <;> exact ho
  | advance i =>
    simp only [System.step]
    split
    · exact (s.advances (h.stages _ (List.mem_of_getElem? ‹_›))).outcome o ho
    · exact ho

theorem System.run_outcome {s : System α} (h : s.Coherent) {o : Outcome α}
    (ho : s.sink.outcome = some o) (es : List (Event α)) :
    (s.run es).sink.outcome = some o := by
  induction es generalizing s with
  | nil => exact ho
  | cons e es ih => exact ih (h.step e) (s.step_outcome h ho e)

theorem System.step_method (s : System α) (h : s.Coherent) (e : Event α) :
    (s.step e).sink.method = s.sink.method := by
  cases e with
  | success | failure | drop | cancel | setActive => rfl
  | run claim =>
    simp only [System.step]
    split <;> rfl
  | advance i =>
    simp only [System.step]
    split
    · exact (s.advances (h.stages _ (List.mem_of_getElem? ‹_›))).method
    · rfl

theorem System.run_method {s : System α} (h : s.Coherent) (es : List (Event α)) :
    (s.run es).sink.method = s.sink.method := by
  induction es generalizing s with
  | nil => rfl
  | cons e es ih => rw [System.run_cons, ih (h.step e), s.step_method h e]

/-- A call stays in the system, and a claim of it is never undone. -/
def System.Keeps (s t : System α) : Prop :=
  ∀ (i : ℕ) (c : Invocation α), s.calls[i]? = some c →
    ∃ c', t.calls[i]? = some c' ∧ c'.operation = c.operation ∧
      (c.claimed = true → c'.claimed = true)

theorem System.Keeps.refl (s : System α) : s.Keeps s := fun _ c hc => ⟨c, hc, rfl, id⟩

theorem System.keeps_begin (s : System α) (op : Operation α) : s.Keeps (s.begin_ op) := by
  intro i c hc
  refine ⟨c, ?_, rfl, id⟩
  rw [System.begin_, List.getElem?_append_left (List.getElem?_eq_some_iff.mp hc).1, hc]

theorem System.claimed_advance (s : System α) (c : Invocation α) :
    (s.advance c).2.operation = c.operation ∧
      (c.claimed = true → (s.advance c).2.claimed = true) := by
  unfold System.advance
  split <;> simp_all

theorem System.keeps_step (s : System α) (e : Event α) : s.Keeps (s.step e) := by
  cases e with
  | success | failure | drop | cancel => exact s.keeps_begin _
  | setActive => exact .refl s
  | run claim =>
    simp only [System.step]
    split
    · exact s.keeps_begin _
    · exact .refl s
  | advance i =>
    simp only [System.step]
    split
    next d hd =>
      intro j c hc
      rcases eq_or_ne i j with rfl | hij
      · obtain rfl : d = c := Option.some.inj (hd.symm.trans hc)
        refine ⟨(s.advance d).2, ?_, s.claimed_advance d⟩
        rw [List.getElem?_set_self (List.getElem?_eq_some_iff.mp hc).1]
      · exact ⟨c, by rw [List.getElem?_set_ne hij, hc], rfl, id⟩
    · exact .refl s

theorem System.keeps_run (s : System α) (es : List (Event α)) : s.Keeps (s.run es) := by
  induction es generalizing s with
  | nil => exact .refl s
  | cons e es ih =>
    intro i c hc
    obtain ⟨d, hd, hop, hclaimed⟩ := s.keeps_step e i c hc
    obtain ⟨d', hd', hop', hclaimed'⟩ := ih (s.step e) i d hd
    exact ⟨d', hd', hop'.trans hop, hclaimed' ∘ hclaimed⟩

/-! ### After every history -/

/-- **A sink is settled once.** After every history of calls on a new sink:

* the sink has an outcome exactly if one call settled it, and no later event changes it;
* at most one call has returned a claimed reply, and none ever does once a dropped call claimed the
  sink;
* a run of the claimed reply that is over has sent it exactly if it settled the sink with the
  outcome of that reply, which then is the sink's, and otherwise it failed as one that could not be
  sent. -/
theorem outcome_unique_of_interleaving (method : String) (active : Bool) (es : List (Event α)) :
    let s := (System.new method active : System α).run es
    (s.calls.countP (·.settled.isSome) = s.sink.outcome.isSome.toNat ∧
      ∀ o, s.sink.outcome = some o → ∀ later, (s.run later).sink.outcome = some o) ∧
    (s.calls.countP (·.send?.isSome) ≤ 1 ∧
      ∀ d ∈ s.calls, d.operation = .drop → d.claimed = true →
        ∀ later, ∀ c ∈ (s.run later).calls, c.send? = none) ∧
    ∀ c ∈ s.calls, ∀ send, c.operation = .run send → ∀ a, c.answer? = some a →
      (a = .sent ↔ c.settled = some .own) ∧
      (c.settled = some .own → s.sink.outcome = some send.outcome) ∧
      (a ≠ .sent → a = .raised (.inactive method) ∨ a = .raised (.alreadyCompleted method)) := by
  intro s
  have hs : s.Coherent := (System.coherent_new method active).run es
  have hmethod : s.sink.method = method := System.run_method (System.coherent_new method active) es
  refine ⟨⟨hs.settlements, fun o ho later => System.run_outcome hs ho later⟩,
    ⟨hs.countP_send_le, ?_⟩, ?_⟩
  · intro d hd hdrop hclaimed later c hc
    obtain ⟨i, hi⟩ := List.mem_iff_getElem?.mp hd
    obtain ⟨d', hd', hop, hkept⟩ := s.keeps_run later i d hi
    exact (hs.run later).send_eq_none (List.mem_of_getElem? hd') (hop.trans hdrop)
      (hkept hclaimed) hc
  · intro c hc send hop a ha
    rcases (hs.stages c hc).answer_run hop ha with ⟨rfl, hown, ho⟩ | ⟨hown, hfailed⟩
    · exact ⟨by simp [hown], fun _ => ho, fun hne => absurd rfl hne⟩
    · rw [hmethod] at hfailed
      refine ⟨⟨?_, fun h => absurd h hown⟩, fun h => absurd h hown, fun _ => hfailed⟩
      rintro rfl
      simp at hfailed

/-- A reply that is run twice, the second time while the call turns inactive: the first run is the
one that sends it. -/
theorem outcome_unique_of_two_runs :
    let es : List (Event ℕ) := [.success 7, .advance 0, .run 0, .run 0, .advance 1,
      .setActive false, .advance 2, .advance 1, .advance 2]
    let s := (System.new "Greeter" true).run es
    ∃ c ∈ s.calls, ∃ d ∈ s.calls, c.operation = .run ⟨.value 7⟩ ∧ d.operation = .run ⟨.value 7⟩ ∧
      c.answer? = some .sent ∧ d.answer? = some (.raised (.inactive "Greeter")) ∧
      c.settled = some .own ∧ d.settled ≠ some .own ∧ s.sink.outcome = some (.value 7) := by
  intro es s
  have h := (outcome_unique_of_interleaving "Greeter" true es).2.2
  have hc := h s.calls[1] (List.getElem_mem _) ⟨.value 7⟩ rfl .sent rfl
  have hd := h s.calls[2] (List.getElem_mem _) ⟨.value 7⟩ rfl (.raised (.inactive "Greeter")) rfl
  exact ⟨s.calls[1], List.getElem_mem _, s.calls[2], List.getElem_mem _, rfl, rfl, rfl, rfl,
    hc.1.mp rfl, fun hown => by simpa using hd.1.mpr hown, hc.2.1 (hc.1.mp rfl)⟩

end Sink

end Call

end ServiceStubs
