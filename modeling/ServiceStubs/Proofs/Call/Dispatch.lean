import Mathlib.Data.List.Basic
import ServiceStubs.Call.Service

/-!
# A served call beside the runs of its replies

`serve` follows one call on an executor that runs a spawned reply at once or never. In general the
executor may run it at any time: between two actions of the handler, between the two parts of one
action, while the handler's thread waits for the outcome, or never. A `Dispatch` is a call with the
place its thread has reached and the replies that were handed to the executor, and a history says
who takes the next step: the thread, the run of one of the replies, or the other side, which may end
the call. Claiming the sink, settling it and looking at whether the call is active are one step
each, as in a history of calls on the sink alone.

A dispatch remembers the requests that the handler was called with, the actions that claimed the
sink, and how the handler was left. Nothing in it depends on these records.

## Main definitions

* `Dispatch`, `Dispatch.start`: a served call
* `Dispatch.Event`, `Dispatch.run`: histories and where they lead
* `Dispatch.Acts`, `Dispatch.Delivers`: what one step can do

## Main statements

* `Dispatch.acts_act`, `Dispatch.delivers_deliverStep`: each step is one of these
* `Dispatch.same_run`: what a dispatch was started with stays
-/

namespace ServiceStubs

namespace Call

variable {α : Type}

/-- The reply that an action claims the sink for, when it is the first to do so. -/
def Action.reply? (request : α) : Action α → Option (Outcome α)
  | echo => some (.value request)
  | reply v | claim v | tryClaim v => some (.value v)
  | fail status => if status.code == .ok then none else some (.status status)
  | raise _ | stop _ | drop | deactivate | endCall => none

/-! ### Places -/

/-- How far the run of a reply is. -/
inductive DeliveryStage
  /-- The executor has not begun it. -/
  | queued
  /-- It has looked at whether the call is active. -/
  | looked (active : Bool)
  /-- It settled the sink with its reply. -/
  | sent
  | failed (error : CallError)
  deriving DecidableEq, Repr

/-- A reply that was handed to the executor. -/
structure Delivery (α : Type) where
  send : Sink.Send α
  stage : DeliveryStage
  deriving DecidableEq, Repr

/-- How far the thread is that serves a call. -/
inductive Phase (α : Type)
  /-- Nobody will tell it of the end of the call, so it is about to cancel the sink. -/
  | refused
  /-- It is about to call the handler. -/
  | calling
  /-- The handler has these actions left. -/
  | handling (rest : Handler α)
  /-- The handler drops the call and has claimed the sink for that. -/
  | dropping (rest : Handler α)
  /-- The handler ended the call, and its sink is to be cancelled. -/
  | ending (rest : Handler α)
  /-- The handler failed. -/
  | raising (error : CallError)
  /-- The handler returned without a reply, and the sink was claimed to say so. -/
  | abandoning
  | waiting
  | finished (ending : Ending α)

/-- A call that is served, beside the runs of its replies. -/
structure Dispatch (α : Type) extends Serving α where
  handler : Handler α
  request : α
  phase : Phase α
  deliveries : List (Delivery α)
  /-- The requests that the handler was called with. -/
  calls : List α
  /-- The actions that claimed the sink for a reply. -/
  claims : List (Action α)
  /-- How the handler was left, if it was. -/
  left : Option (Except CallError Unit)

/-- What can happen next. Deliveries are named by their numbers. -/
inductive Dispatch.Event
  /-- The thread takes its next step. -/
  | thread
  /-- The run of a delivery takes its next step. -/
  | deliver (delivery : ℕ)
  /-- The other side ends the call. -/
  | hangUp
  /-- Those who asked for it are told that the call has ended. -/
  | notify
  deriving DecidableEq, Repr

namespace Dispatch

/-- A call before it is served. `watchable` is the answer to the wish to be told of its end. -/
def start (context : Context α) (watchable : Bool) (note : Observer) (handler : Handler α)
    (request : α) : Dispatch α :=
  { context, watched := watchable, note, handler, request,
    phase := if watchable then .calling else .refused,
    deliveries := [], calls := [], claims := [], left := none }

/-- The sink of the call. -/
def sink (s : Dispatch α) : Sink α := s.context.sink

/-- Whether the call has not ended. -/
def active (s : Dispatch α) : Bool := s.context.active

/-- The dispatch with another sink. -/
def withSink (s : Dispatch α) (sink : Sink α) : Dispatch α :=
  { s with context := { s.context with sink } }

/-! ### Steps of the thread -/

/-- Goes on after an attempt of the action `a` to claim the sink. -/
def attempt (s : Dispatch α) (a : Action α) (rest : Handler α) (spawns : Bool)
    (r : Except CallError (Sink.Send α) × Context α) : Dispatch α :=
  match r.1 with
  | .ok send =>
    { s with
      context := r.2
      claims := s.claims ++ [a]
      deliveries := if spawns then s.deliveries ++ [⟨send, .queued⟩] else s.deliveries
      phase := .handling rest }
  | .error e => { s with context := r.2, left := some (.error e), phase := .raising e }

/-- Does an action of the handler, or the first part of it. -/
def act (s : Dispatch α) (a : Action α) (rest : Handler α) : Dispatch α :=
  match a with
  | .echo => s.attempt a rest true (s.context.success s.request)
  | .reply v => s.attempt a rest true (s.context.success v)
  | .fail status => s.attempt a rest true (s.context.failure status)
  | .claim v => s.attempt a rest false (s.context.success v)
  | .tryClaim v =>
    match s.context.success v with
    | (.ok _, c) => { s with context := c, claims := s.claims ++ [a], phase := .handling rest }
    | (.error e, c) =>
      { s with context := c.report (.observer s.note) e, phase := .handling rest }
  | .raise message =>
    { s with left := some (.error (.raised message)), phase := .raising (.raised message) }
  | .stop message =>
    { s with left := some (.error (.stopped message)), phase := .raising (.stopped message) }
  | .drop =>
    { s.withSink s.sink.claim.2 with
      phase := if s.sink.claim.1 then .dropping rest else .handling rest }
  | .deactivate =>
    { s with context := { s.context with active := false }, phase := .handling rest }
  | .endCall =>
    { s with
      context := { s.context with active := false }
      phase := if s.watched then .ending rest else .handling rest }

/-- One step of the thread. It waits until the sink has its outcome. -/
def thread (s : Dispatch α) : Dispatch α :=
  match s.phase with
  | .refused => { s.withSink s.sink.cancel.2 with phase := .calling }
  | .calling => { s with calls := s.calls ++ [s.request], phase := .handling s.handler }
  | .handling [] =>
    { s.withSink s.sink.claim.2 with
      left := some (.ok ())
      phase := if s.sink.claim.1 then .abandoning else .waiting }
  | .handling (a :: rest) => s.act a rest
  | .dropping rest =>
    { s.withSink (s.sink.settle (.status (Sink.droppedStatus s.sink.method))).2 with
      phase := .handling rest }
  | .ending rest => { s.withSink s.sink.cancel.2 with phase := .handling rest }
  | .raising e =>
    if e.isCaught then
      { s.withSink (s.sink.settle (.status (Sink.raisedStatus s.sink.method))).2 with
        phase := .finished (.raised e) }
    else { s with phase := .finished (.raised e) }
  | .abandoning =>
    { s.withSink (s.sink.settle (.status (Sink.droppedStatus s.sink.method))).2 with
      phase := .waiting }
  | .waiting =>
    match s.sink.outcome with
    | none => s
    | some (.value v) => { s with phase := .finished (.returned v) }
    | some (.status status) => { s with phase := .finished (.aborted status) }
  | .finished _ => s

/-! ### Steps of the deliveries -/

/-- One step of the run of a delivery: the look at the call, and then the delivery itself. A reply
that was not sent is reported. -/
def deliverStep (s : Dispatch α) (i : ℕ) (d : Delivery α) : Dispatch α :=
  match d.stage with
  | .queued => { s with deliveries := s.deliveries.set i ⟨d.send, .looked s.active⟩ }
  | .looked active =>
    match s.sink.deliver active d.send with
    | (.ok (), sink) =>
      { s.withSink sink with deliveries := s.deliveries.set i ⟨d.send, .sent⟩ }
    | (.error e, sink) =>
      { s with
        context := ({ s.context with sink } : Context α).report s.context.hook e
        deliveries := s.deliveries.set i ⟨d.send, .failed e⟩ }
  | .sent | .failed _ => s

/-! ### Histories -/

/-- One event. Deliveries that are over or were never spawned take no step. -/
def step (s : Dispatch α) : Event → Dispatch α
  | .thread => s.thread
  | .deliver i =>
    match s.deliveries[i]? with
    | some d => s.deliverStep i d
    | none => s
  | .hangUp => { s with context := { s.context with active := false } }
  | .notify => if s.watched && !s.active then s.withSink s.sink.cancel.2 else s

/-- The call after a history. -/
def run (s : Dispatch α) (es : List Event) : Dispatch α := es.foldl step s

@[simp] theorem run_nil (s : Dispatch α) : s.run [] = s := rfl

@[simp] theorem run_cons (s : Dispatch α) (e : Event) (es : List Event) :
    s.run (e :: es) = (s.step e).run es := rfl

theorem run_append (s : Dispatch α) (es fs : List Event) : s.run (es ++ fs) = (s.run es).run fs :=
  List.foldl_append

/-! ### What one step can do -/

theorem claim_of_unclaimed {k : Sink α} (h : k.claimed = false) :
    k.claim = (true, { k with claimed := true }) := by
  rw [Sink.claim, h]
  rfl

theorem claim_of_claimed {k : Sink α} (h : k.claimed = true) : k.claim = (false, k) := by
  obtain ⟨method, claimed, outcome⟩ := k
  obtain rfl : claimed = true := h
  rfl

theorem reply_of_unclaimed {k : Sink α} (h : k.claimed = false) (o : Outcome α) :
    k.reply o = (.ok ⟨o⟩, { k with claimed := true }) := by
  rw [Sink.reply, claim_of_unclaimed h]
  rfl

theorem reply_of_claimed {k : Sink α} (h : k.claimed = true) (o : Outcome α) :
    k.reply o = (.error (.alreadyReplied k.method), k) := by
  rw [Sink.reply, claim_of_claimed h]
  rfl

theorem settle_of_none {k : Sink α} (h : k.outcome = none) (o : Outcome α) :
    k.settle o = (true, { k with outcome := some o }) := by
  rw [Sink.settle, h]

theorem settle_of_some {k : Sink α} {o' : Outcome α} (h : k.outcome = some o') (o : Outcome α) :
    k.settle o = (false, k) := by
  rw [Sink.settle, h]

theorem outcome_settle (k : Sink α) (o : Outcome α) :
    (k.settle o).2.outcome = some (k.outcome.getD o) := by
  cases h : k.outcome with
  | none => rw [settle_of_none h]; rfl
  | some o' => rw [settle_of_some h, h]; rfl

theorem method_settle (k : Sink α) (o : Outcome α) : (k.settle o).2.method = k.method := by
  cases h : k.outcome with
  | none => rw [settle_of_none h]
  | some o' => rw [settle_of_some h]

theorem drop_of_claimed {k : Sink α} (h : k.claimed = true) : k.drop = (false, k) := by
  rw [Sink.drop, claim_of_claimed h]
  rfl

theorem drop_of_unclaimed {k : Sink α} (h : k.claimed = false) :
    k.drop = (true, (Sink.settle { k with claimed := true }
      (.status (Sink.droppedStatus k.method))).2) := by
  rw [Sink.drop, claim_of_unclaimed h]
  rfl

/-- What an action of the handler can do. -/
inductive Acts (s : Dispatch α) (a : Action α) (rest : Handler α) : Dispatch α → Prop
  /-- It claims the sink for its reply. -/
  | claimed {o : Outcome α} (ho : a.reply? s.request = some o) (h : s.sink.claimed = false)
    (ds : List (Delivery α)) (hds : ∀ d ∈ ds, d = ⟨⟨o⟩, .queued⟩) :
    Acts s a rest { s.withSink { s.sink with claimed := true } with
      claims := s.claims ++ [a], deliveries := s.deliveries ++ ds, phase := .handling rest }
  /-- It fails, and the handler with it. -/
  | failed (e : CallError) : Acts s a rest { s with left := some (.error e), phase := .raising e }
  /-- It changes nothing but the reports. -/
  | noted (reports : List Report) :
    Acts s a rest { s with context := { s.context with reports }, phase := .handling rest }
  /-- It claims the sink to drop the call. -/
  | dropping (h : s.sink.claimed = false) :
    Acts s a rest { s.withSink { s.sink with claimed := true } with phase := .dropping rest }
  /-- It ends the call, whether or not somebody is told. -/
  | ended (phase : Phase α) (h : phase = .handling rest ∨ phase = .ending rest) :
    Acts s a rest { s with context := { s.context with active := false }, phase }

theorem acts_attempt (s : Dispatch α) {a : Action α} (rest : Handler α) (spawns : Bool)
    {o : Outcome α} (ho : a.reply? s.request = some o) :
    Acts s a rest (s.attempt a rest spawns
      ((s.sink.reply o).1, { s.context with sink := (s.sink.reply o).2 })) := by
  cases h : s.sink.claimed with
  | true =>
    rw [reply_of_claimed h]
    exact .failed _
  | false =>
    rw [reply_of_unclaimed h]
    cases spawns with
    | true => exact .claimed ho h [⟨⟨o⟩, .queued⟩] (by simp)
    | false => simpa [attempt, withSink] using Acts.claimed ho h [] (by simp)

/-- **One action of the handler.** -/
theorem acts_act (s : Dispatch α) (a : Action α) (rest : Handler α) :
    Acts s a rest (s.act a rest) := by
  cases a with
  | echo => exact s.acts_attempt rest true rfl
  | reply v => exact s.acts_attempt rest true rfl
  | fail status =>
    by_cases hok : (status.code == .ok) = true
    · have : s.act (.fail status) rest =
          { s with left := some (.error .goodStatus), phase := .raising .goodStatus } := by
        simp [act, attempt, Context.failure, Sink.failure, hok]
      rw [this]
      exact .failed _
    · have ho : (Action.fail status : Action α).reply? s.request = some (.status status) := by
        simp [Action.reply?, hok]
      have : s.act (.fail status) rest = s.attempt (.fail status) rest true
          ((s.sink.reply (.status status)).1,
            { s.context with sink := (s.sink.reply (.status status)).2 }) := by
        simp [act, sink, Context.failure, Sink.failure, hok]
      rw [this]
      exact s.acts_attempt rest true ho
  | claim v => exact s.acts_attempt rest false rfl
  | raise message | stop message => exact .failed _
  | drop =>
    cases h : s.sink.claimed with
    | true =>
      have : s.act .drop rest = { s with phase := .handling rest } := by
        rw [act, claim_of_claimed h]
        rfl
      rw [this]
      exact .noted s.context.reports
    | false =>
      have : s.act .drop rest =
          { s.withSink { s.sink with claimed := true } with phase := .dropping rest } := by
        rw [act, claim_of_unclaimed h]
        rfl
      rw [this]
      exact .dropping h
  | deactivate => exact .ended _ (.inl rfl)
  | endCall =>
    refine .ended _ ?_
    cases s.watched
    · exact .inl rfl
    · exact .inr rfl
  | tryClaim v =>
    have hsuccess : s.context.success v = ((s.sink.reply (.value v)).1,
        { s.context with sink := (s.sink.reply (.value v)).2 }) := rfl
    cases h : s.sink.claimed with
    | true =>
      rw [act, hsuccess, reply_of_claimed h]
      exact .noted _
    | false =>
      rw [act, hsuccess, reply_of_unclaimed h]
      have hclaimed : Acts s (.tryClaim v) rest
          { s.withSink { s.sink with claimed := true } with
            claims := s.claims ++ [.tryClaim v], deliveries := s.deliveries ++ [],
            phase := .handling rest } := .claimed (o := .value v) rfl h [] (by simp)
      simpa [withSink] using hclaimed

/-- What a step of the run of a delivery can do. -/
inductive Delivers (s : Dispatch α) (i : ℕ) (d : Delivery α) : Dispatch α → Prop
  | looked (h : d.stage = .queued) :
    Delivers s i d { s with deliveries := s.deliveries.set i ⟨d.send, .looked s.active⟩ }
  /-- It settles the sink with its reply. -/
  | sent (h : d.stage = .looked true) (ho : s.sink.outcome = none) :
    Delivers s i d { s.withSink { s.sink with outcome := some d.send.outcome } with
      deliveries := s.deliveries.set i ⟨d.send, .sent⟩ }
  /-- It comes too late, and settles the sink with a status that says so unless it is settled. -/
  | late (h : d.stage = .looked false) (e : CallError) (reports : List Report) :
    Delivers s i d { s with
      context := { s.context with sink := (s.sink.settle (.status Sink.lateStatus)).2, reports }
      deliveries := s.deliveries.set i ⟨d.send, .failed e⟩ }
  /-- The sink is settled already. -/
  | completed (h : d.stage = .looked true) (e : CallError) (reports : List Report) :
    Delivers s i d { s with
      context := { s.context with reports }, deliveries := s.deliveries.set i ⟨d.send, .failed e⟩ }
  | idle : Delivers s i d s

/-- **One step of a delivery.** -/
theorem delivers_deliverStep (s : Dispatch α) (i : ℕ) (d : Delivery α) :
    Delivers s i d (s.deliverStep i d) := by
  obtain ⟨send, stage⟩ := d
  cases stage with
  | queued => exact .looked rfl
  | looked active =>
    cases active with
    | false => exact .late rfl _ _
    | true =>
      cases ho : s.sink.outcome with
      | none =>
        have hd : s.sink.deliver true send =
            (.ok (), { s.sink with outcome := some send.outcome }) := by
          simp [Sink.deliver, settle_of_none ho]
        simp only [deliverStep, hd]
        exact .sent rfl ho
      | some o =>
        have hd : s.sink.deliver true send = (.error (.alreadyCompleted s.sink.method), s.sink) := by
          simp [Sink.deliver, settle_of_some ho]
        simp only [deliverStep, hd]
        exact .completed rfl _ _
  | sent => exact .idle
  | failed e => exact .idle

/-! ### What no step changes -/

/-- What a dispatch was started with. -/
structure Same (s t : Dispatch α) : Prop where
  handler : t.handler = s.handler
  request : t.request = s.request
  watched : t.watched = s.watched
  method : t.sink.method = s.sink.method

theorem Same.trans {s t u : Dispatch α} (h : s.Same t) (h' : t.Same u) : s.Same u :=
  ⟨h'.handler.trans h.handler, h'.request.trans h.request, h'.watched.trans h.watched,
    h'.method.trans h.method⟩

theorem Acts.same {s t : Dispatch α} {a : Action α} {rest : Handler α} (h : s.Acts a rest t) :
    s.Same t := by
  cases h <;> exact ⟨rfl, rfl, rfl, rfl⟩

theorem Delivers.same {s t : Dispatch α} {i : ℕ} {d : Delivery α} (h : s.Delivers i d t) :
    s.Same t := by
  cases h with
  | late => exact ⟨rfl, rfl, rfl, method_settle _ _⟩
  | looked | sent | completed | idle => exact ⟨rfl, rfl, rfl, rfl⟩

theorem same_thread (s : Dispatch α) : s.Same s.thread := by
  unfold thread
  cases s.phase with
  | refused | dropping | ending | abandoning => exact ⟨rfl, rfl, rfl, method_settle _ _⟩
  | raising e =>
    dsimp only
    split
    · exact ⟨rfl, rfl, rfl, method_settle _ _⟩
    · exact ⟨rfl, rfl, rfl, rfl⟩
  | calling | finished => exact ⟨rfl, rfl, rfl, rfl⟩
  | handling rest =>
    cases rest with
    | nil => exact ⟨rfl, rfl, rfl, rfl⟩
    | cons a rest => exact (s.acts_act a rest).same
  | waiting =>
    cases s.sink.outcome with
    | none => exact ⟨rfl, rfl, rfl, rfl⟩
    | some o => cases o <;> exact ⟨rfl, rfl, rfl, rfl⟩

theorem same_step (s : Dispatch α) (e : Event) : s.Same (s.step e) := by
  cases e with
  | thread => exact s.same_thread
  | deliver i =>
    simp only [step]
    cases s.deliveries[i]? with
    | none => exact ⟨rfl, rfl, rfl, rfl⟩
    | some d => exact (s.delivers_deliverStep i d).same
  | hangUp => exact ⟨rfl, rfl, rfl, rfl⟩
  | notify =>
    simp only [step]
    split
    · exact ⟨rfl, rfl, rfl, method_settle _ _⟩
    · exact ⟨rfl, rfl, rfl, rfl⟩

theorem same_run (s : Dispatch α) (es : List Event) : s.Same (s.run es) := by
  induction es generalizing s with
  | nil => exact ⟨rfl, rfl, rfl, rfl⟩
  | cons e es ih => exact (s.same_step e).trans (ih _)

end Dispatch

end Call

end ServiceStubs
