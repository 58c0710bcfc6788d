import Mathlib.Data.List.Induction
import ServiceStubs.Proofs.Call.Ending

/-!
# No call keeps its thread waiting for nothing

The thread that serves a call waits until the sink is completed. Whoever could complete it may be
gone by then: a reply that was claimed may never be sent, its run may come too late, and the end of
the call may have been missed because it was not watched. So a second invariant
(`Dispatch.Released`) follows who still has to complete the sink. A claim without a reply is
completed by the thread itself, a delivery completes it whether or not it can send its reply, and
the end of the call completes it once somebody is told of it.

## Main definitions

* `Dispatch.Told`: whether somebody was told in a history that the call had ended

## Main statements

* `Dispatch.completed_step`: a completed sink stays completed
* `Dispatch.Released.step`, `Dispatch.Released.run`: the invariant and its preservation
* `Dispatch.release_of_history`: when a thread can be left waiting, and what releases it
-/

namespace ServiceStubs

namespace Call

variable {α : Type}

/-- Whether the run of the reply is over. -/
def DeliveryStage.isOver : DeliveryStage → Bool
  | sent | failed _ => true
  | queued | looked _ => false

/-- Whether the thread claimed the sink for no reply and is about to settle it. -/
def Phase.settles : Phase α → Bool
  | dropping _ | abandoning => true
  | refused | calling | handling _ | ending _ | raising _ | waiting | finished _ => false

namespace Dispatch

/-- Whether a step tells of the end of the call to those who asked for it. -/
def tells (s : Dispatch α) : Event → Bool
  | .notify => s.watched && !s.active
  | .thread =>
    match s.phase with
    | .ending _ => true
    | _ => false
  | .deliver _ | .hangUp => false

/-- Whether somebody was told in a history that the call had ended. -/
def Told (s : Dispatch α) (es : List Event) : Prop :=
  ∃ before e after, es = before ++ e :: after ∧ (s.run before).tells e = true

/-! ### Completed sinks -/

theorem completed_settle (k : Sink α) (o : Outcome α) : (k.settle o).2.completed = true := by
  rw [Sink.completed, outcome_settle]
  rfl

theorem Acts.outcome {s t : Dispatch α} {a : Action α} {rest : Handler α} (h : s.Acts a rest t) :
    t.sink.outcome = s.sink.outcome := by
  cases h <;> rfl

theorem Delivers.completed_sink {s t : Dispatch α} {i : ℕ} {d : Delivery α}
    (h : s.Delivers i d t) (hs : s.sink.completed = true) : t.sink.completed = true := by
  cases h with
  | sent => rfl
  | late => exact completed_settle _ _
  | looked | completed | idle => exact hs

theorem completed_thread {s : Dispatch α} (h : s.sink.completed = true) :
    s.thread.sink.completed = true := by
  unfold thread
  cases s.phase with
  | refused | dropping | ending | abandoning => exact completed_settle _ _
  | raising e =>
    dsimp only
    split
    · exact completed_settle _ _
    · exact h
  | calling | finished => exact h
  | handling rest =>
    cases rest with
    | nil => exact h
    | cons a rest =>
      show (s.act a rest).sink.outcome.isSome = true
      rwa [(s.acts_act a rest).outcome]
  | waiting =>
    cases s.sink.outcome with
    | none => exact h
    | some o => cases o <;> exact h

/-- **A completed sink stays completed**, whoever takes the step. -/
theorem completed_step {s : Dispatch α} (h : s.sink.completed = true) (e : Event) :
    (s.step e).sink.completed = true := by
  cases e with
  | thread => exact completed_thread h
  | deliver i =>
    simp only [step]
    cases s.deliveries[i]? with
    | none => exact h
    | some d => exact (s.delivers_deliverStep i d).completed_sink h
  | hangUp => exact h
  | notify =>
    simp only [step]
    split
    · exact completed_settle _ _
    · exact h

theorem completed_run {s : Dispatch α} (h : s.sink.completed = true) (es : List Event) :
    (s.run es).sink.completed = true := by
  induction es generalizing s with
  | nil => exact h
  | cons e es ih => exact ih (completed_step h e)

/-- Who is told of the end of the call cancels its sink. -/
theorem completed_of_tells {s : Dispatch α} {e : Event} (h : s.tells e = true) :
    (s.step e).sink.completed = true := by
  cases e with
  | thread =>
    rw [step, thread]
    cases hp : s.phase <;> simp [tells, hp] at h
    exact completed_settle _ _
  | deliver i => simp [tells] at h
  | hangUp => simp [tells] at h
  | notify =>
    rw [tells] at h
    rw [step, if_pos h]
    exact completed_settle _ _

theorem Told.completed {s : Dispatch α} {es : List Event} (h : s.Told es) :
    (s.run es).sink.completed = true := by
  obtain ⟨before, e, after, rfl, htells⟩ := h
  rw [run_append, run_cons]
  exact completed_run (completed_of_tells htells) after

theorem claimed_settle (k : Sink α) (o : Outcome α) : (k.settle o).2.claimed = k.claimed := by
  cases h : k.outcome with
  | none => rw [settle_of_none h]
  | some o' => rw [settle_of_some h]

/-- **The run of a reply leaves the sink completed**, whether or not it could send the reply. -/
theorem completed_deliver (k : Sink α) (active : Bool) (send : Sink.Send α) :
    (k.deliver active send).2.completed = true := by
  cases active <;> exact completed_settle _ _

theorem claimed_deliver (k : Sink α) (active : Bool) (send : Sink.Send α) :
    (k.deliver active send).2.claimed = k.claimed := by
  cases active <;> exact claimed_settle _ _

/-! ### Who completes the sink -/

/-- Whoever was to complete the sink has done so, or is still about to. -/
structure Released (s : Dispatch α) : Prop where
  /-- The sink of a call that nobody watches is cancelled before the handler is called. -/
  unwatched : s.watched = false → s.phase ≠ .refused → s.sink.completed = true
  delivered : ∀ d ∈ s.deliveries, d.stage.isOver = true → s.sink.completed = true
  /-- A claim for no reply is settled by the thread that made it. -/
  claimed : s.sink.claimed = true → s.claims = [] →
    s.sink.completed = true ∨ s.phase.settles = true
  waiting : s.phase = .waiting → s.sink.claimed = true
  claims : s.claims = [] ∨ ∃ a ∈ s.handler, s.claims = [a] ∧ a.reply? s.request ≠ none

theorem released_start (context : Context α) (hc : context.sink.claimed = false)
    (watchable : Bool) (note : Observer) (handler : Handler α) (request : α) :
    (start context watchable note handler request).Released := by
  refine ⟨fun hw hp => ?_, nofun, fun h => ?_, fun hp => ?_, .inl rfl⟩
  · obtain rfl : watchable = false := hw
    exact absurd rfl hp
  · exact absurd (hc.symm.trans h) Bool.false_ne_true
  · cases watchable <;> cases hp

/-- A completed sink leaves little to ask for. -/
theorem Released.of_completed {t : Dispatch α} (h : t.sink.completed = true)
    (hwaiting : t.phase = .waiting → t.sink.claimed = true)
    (hclaims : t.claims = [] ∨ ∃ a ∈ t.handler, t.claims = [a] ∧ a.reply? t.request ≠ none) :
    t.Released :=
  ⟨fun _ _ => h, fun _ _ _ => h, fun _ _ => .inl h, hwaiting, hclaims⟩

/-- A step of the thread that leaves the sink and the deliveries alone, when nothing is to be
settled. -/
theorem Released.frame {s : Dispatch α} (h : s.Released) (hrefused : s.phase ≠ .refused)
    (hsettles : s.phase.settles = false) (context : Context α) (hsink : context.sink = s.sink)
    (calls : List α) (left : Option (Except CallError Unit)) (phase : Phase α)
    (hwaiting : phase = .waiting → s.sink.claimed = true) :
    Released { s with context, calls, left, phase } := by
  have hsame : sink { s with context, calls, left, phase } = s.sink := hsink
  refine ⟨fun hw _ => ?_, fun d hd ho => ?_, fun hc hclaims => .inl ?_, fun hp => ?_, h.claims⟩
  · rw [hsame]
    exact h.unwatched hw hrefused
  · rw [hsame]
    exact h.delivered d hd ho
  · rw [hsame] at hc ⊢
    exact (h.claimed hc hclaims).resolve_right (by simp [hsettles])
  · rw [hsame]
    exact hwaiting hp

/-- A step of the thread that settles the sink. -/
theorem Released.settled {s : Dispatch α} (h : s.Released) (o : Outcome α) {phase : Phase α}
    (hwaiting : phase = .waiting → s.sink.claimed = true) : (s.settled o phase).Released :=
  .of_completed (completed_settle _ _)
    (fun hp => (claimed_settle _ _).trans (hwaiting hp)) h.claims

theorem Released.act {s : Dispatch α} (h : s.Released) (hs : s.Coherent) {a : Action α}
    {rest : Handler α} (hp : s.phase = .handling (a :: rest)) {t : Dispatch α}
    (ht : s.Acts a rest t) : t.Released := by
  have hrefused : s.phase ≠ .refused := by simp [hp]
  have hsettles : s.phase.settles = false := by rw [hp]; rfl
  cases ht with
  | claimed ho hc ds hds =>
    obtain ⟨hclaims, hdeliveries⟩ := hs.of_unclaimed hc
    have ha : a ∈ s.handler := by
      have hin := hs.phase
      rw [InPhase, hp] at hin
      exact (mem_of_suffix hin.2.2).1
    refine ⟨fun hw _ => h.unwatched hw hrefused, fun d hd hover => ?_, fun _ hnil => ?_, by rintro ⟨⟩,
      .inr ⟨a, ha, by simp [hclaims], fun hnone => ?_⟩⟩
    · obtain rfl : d = ⟨⟨_⟩, .queued⟩ := hds d (by simpa [hdeliveries] using hd)
      cases hover
    · simp at hnil
    · cases ho.symm.trans hnone
  | failed e => exact h.frame hrefused hsettles s.context rfl s.calls _ _ (by rintro ⟨⟩)
  | noted reports =>
    exact h.frame hrefused hsettles { s.context with reports } rfl s.calls s.left _ (by rintro ⟨⟩)
  | dropping hc =>
    exact ⟨fun hw _ => h.unwatched hw hrefused, h.delivered, fun _ _ => .inr rfl, by rintro ⟨⟩, h.claims⟩
  | ended phase hphase =>
    refine h.frame hrefused hsettles { s.context with active := false } rfl s.calls s.left phase ?_
    rcases hphase with rfl | rfl <;> rintro ⟨⟩

theorem Released.thread {s : Dispatch α} (h : s.Released) (hs : s.Coherent) :
    s.thread.Released := by
  have hin := hs.phase
  unfold InPhase at hin
  unfold Dispatch.thread
  cases hp : s.phase with
  | refused | dropping | ending => exact h.settled _ nofun
  | raising e =>
    dsimp only
    split
    · exact h.settled _ nofun
    · exact h.frame (by simp [hp]) (by rw [hp]; rfl) s.context rfl s.calls s.left _ nofun
  | calling => exact h.frame (by simp [hp]) (by rw [hp]; rfl) s.context rfl _ s.left _ nofun
  | handling rest =>
    cases rest with
    | nil =>
      dsimp only
      cases hc : s.sink.claimed with
      | true =>
        rw [claim_of_claimed hc]
        exact h.frame (by simp [hp]) (by rw [hp]; rfl) s.context rfl s.calls _ .waiting fun _ => hc
      | false =>
        rw [claim_of_unclaimed hc]
        exact ⟨fun hw _ => h.unwatched hw (by simp [hp]), h.delivered, fun _ _ => .inr rfl, nofun,
          h.claims⟩
    | cons a rest => exact h.act hs hp (s.acts_act a rest)
  | abandoning =>
    simp only [hp] at hin
    exact h.settled _ fun _ => hin.2.2.1
  | waiting =>
    dsimp only
    cases ho : s.sink.outcome with
    | none => exact h
    | some o =>
      cases o <;> exact h.frame (by simp [hp]) (by rw [hp]; rfl) s.context rfl s.calls s.left _ nofun
  | finished ending => exact h

theorem Released.deliver {s : Dispatch α} (h : s.Released) (i : ℕ) (d : Delivery α) :
    (s.deliverStep i d).Released := by
  obtain ⟨send, stage⟩ := d
  cases stage with
  | queued =>
    refine ⟨h.unwatched, fun d' hd' ho => ?_, h.claimed, h.waiting, h.claims⟩
    rcases List.mem_or_eq_of_mem_set hd' with hd' | rfl
    · exact h.delivered d' hd' ho
    · cases ho
  | looked active =>
    have hsink : (s.deliverStep i ⟨send, .looked active⟩).sink = (s.sink.deliver active send).2 := by
      simp only [deliverStep]
      rcases s.sink.deliver active send with ⟨_ | _, k⟩ <;> rfl
    have hsame : (s.deliverStep i ⟨send, .looked active⟩).phase = s.phase ∧
        (s.deliverStep i ⟨send, .looked active⟩).claims = s.claims ∧
        (s.deliverStep i ⟨send, .looked active⟩).handler = s.handler ∧
        (s.deliverStep i ⟨send, .looked active⟩).request = s.request := by
      simp only [deliverStep]
      rcases s.sink.deliver active send with ⟨_ | _, k⟩ <;> exact ⟨rfl, rfl, rfl, rfl⟩
    refine .of_completed ?_ (fun hp => ?_) ?_
    · rw [hsink]
      exact completed_deliver _ _ _
    · rw [hsink, claimed_deliver]
      exact h.waiting (hsame.1 ▸ hp)
    · rw [hsame.2.1, hsame.2.2.1, hsame.2.2.2]
      exact h.claims
  | sent => exact h
  | failed e => exact h

/-- **The invariant is kept**, whoever takes the step. -/
theorem Released.step {s : Dispatch α} (h : s.Released) (hs : s.Coherent) (e : Event) :
    (s.step e).Released := by
  cases e with
  | thread => exact h.thread hs
  | deliver i =>
    simp only [Dispatch.step]
    cases s.deliveries[i]? with
    | none => exact h
    | some d => exact h.deliver i d
  | hangUp => exact ⟨h.unwatched, h.delivered, h.claimed, h.waiting, h.claims⟩
  | notify =>
    simp only [Dispatch.step]
    split
    · exact h.settled _ h.waiting
    · exact h

theorem Released.run {s : Dispatch α} (h : s.Released) (hs : s.Coherent) (es : List Event) :
    (s.run es).Released := by
  induction es generalizing s with
  | nil => exact h
  | cons e es ih => exact ih (h.step hs e) (hs.step e)

/-! ### Waiting threads -/

/-- A thread that waits on a completed sink goes on. -/
theorem exists_finished {s : Dispatch α} (hp : s.phase = .waiting) (h : s.sink.completed = true) :
    ∃ ending, (s.step .thread).phase = .finished ending := by
  obtain ⟨o, ho⟩ := Option.isSome_iff_exists.mp h
  rw [step, thread, hp]
  dsimp only
  rw [ho]
  cases o <;> exact ⟨_, rfl⟩

/-- **A call releases its thread.** After the wish to be told of the end of the call was made,
whatever the handler does and in whatever order the steps are taken:

* If the call had ended before, or somebody was told of its end, the sink is completed, and a thread
  that waits for that goes on with its next step.
* The run of a reply leaves the sink completed, whether or not the reply was sent.
* A thread that waits for a sink that is not completed was left by its handler with one claimed
  reply. No run of that reply is over, and nobody was told that the call ended.
* Where the call has ended and the news is still to come, it completes the sink. -/
theorem release_of_history (method : String) (active : Bool) (hook : Hook) (executor : Executor)
    (watchable : Bool) (note : Observer) (handler : Handler α) (request : α) (es : List Event) :
    let s := start (.new method active hook executor) watchable note handler request
    let t := s.run es
    t.phase ≠ .refused →
      (watchable = false ∨ s.Told es → t.sink.completed = true ∧
        (t.phase = .waiting → ∃ ending, (t.step .thread).phase = .finished ending)) ∧
      (∀ d ∈ t.deliveries, d.stage.isOver = true → t.sink.completed = true) ∧
      (t.phase = .waiting → t.sink.completed = false →
        t.left = some (.ok ()) ∧ watchable = true ∧ ¬s.Told es ∧
        ∃ a ∈ handler, t.claims = [a] ∧ a.reply? request ≠ none ∧
          ∀ d ∈ t.deliveries, a.reply? request = some d.send.outcome ∧ d.stage.isOver = false) ∧
      (watchable = true → t.active = false → (t.step .notify).sink.completed = true) := by
  intro s t hrefused
  have hcoherent : s.Coherent :=
    coherent_start method active hook executor watchable note handler request
  have ht : t.Coherent := hcoherent.run es
  have hreleased : t.Released :=
    (released_start _ rfl watchable note handler request).run hcoherent es
  have hsame : s.Same t := s.same_run es
  have hended : watchable = false ∨ s.Told es → t.sink.completed = true := by
    rintro (hw | htold)
    · exact hreleased.unwatched (hsame.watched.trans hw) hrefused
    · exact htold.completed
  refine ⟨fun h => ⟨hended h, fun hp => exists_finished hp (hended h)⟩, hreleased.delivered,
    fun hp hopen => ?_, fun hw ha => completed_of_tells ?_⟩
  · have hnot : ¬(watchable = false ∨ s.Told es) := fun h => by simp [hended h] at hopen
    rw [not_or, Bool.not_eq_false] at hnot
    have hleft : t.calls = [t.request] ∧ t.left = some (.ok ()) := by
      have hin := ht.phase
      rwa [InPhase, hp] at hin
    refine ⟨hleft.2, hnot.1, hnot.2, ?_⟩
    -- what claimed the sink was a reply, for a claim without one was settled before
    rcases hreleased.claims with hnil | ⟨a, ha, hclaims, hreply⟩
    · rcases hreleased.claimed (hreleased.waiting hp) hnil with hc | hsettles
      · simp [hc] at hopen
      · rw [hp] at hsettles
        cases hsettles
    · rw [hsame.handler] at ha
      rw [hsame.request] at hreply
      refine ⟨a, ha, hclaims, hreply, fun d hd => ⟨?_, ?_⟩⟩
      · obtain ⟨a', -, hclaims', hreply'⟩ := (ht.deliveries d hd).claim
        obtain rfl : a = a' := by simpa [hclaims] using hclaims'
        rwa [hsame.request] at hreply'
      · cases hover : d.stage.isOver with
        | false => rfl
        | true => simp [hreleased.delivered d hd hover] at hopen
  · rw [tells, hsame.watched, ha]
    exact (Bool.and_true _).trans hw

/-- A reply that looked at the call in time waits for its turn while the call ends. The thread waits
until the news comes, and is released. -/
theorem release_of_history_hangUp :
    let s := start (.new "echo" true .log .immediate) true ⟨"notes"⟩ [.reply 7] 0
    let es : List Event := [.thread, .thread, .thread, .deliver 0, .hangUp]
    (s.run es).phase = .waiting ∧ (s.run es).sink.completed = false ∧ (s.run es).active = false ∧
      (s.run es).claims = [.reply 7] ∧ ¬s.Told es ∧ s.Told (es ++ [.notify]) ∧
      (s.run (es ++ [.notify])).sink.completed = true ∧
      ∃ ending, (s.run (es ++ [.notify, .thread])).phase = .finished ending := by
  intro s es
  have hwaiting : (s.run es).phase = .waiting := rfl
  have hopen : (s.run es).sink.completed = false := rfl
  have h := release_of_history "echo" true .log .immediate true ⟨"notes"⟩ [.reply 7] 0 es
    (by rw [hwaiting]; exact nofun)
  have hnot := (h.2.2.1 hwaiting hopen).2.2.1
  have htold : s.Told (es ++ [.notify]) := ⟨es, .notify, [], rfl, rfl⟩
  have h' := release_of_history "echo" true .log .immediate true ⟨"notes"⟩ [.reply 7] 0
    (es ++ [.notify]) nofun
  exact ⟨hwaiting, hopen, rfl, rfl, hnot, htold, (h'.1 (.inr htold)).1,
    (h'.1 (.inr htold)).2 rfl⟩

end Dispatch

end Call

end ServiceStubs
