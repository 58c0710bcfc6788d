import Mathlib.Data.List.Basic
import ServiceStubs.Call.Sink

/-!
# Calls on one sink that interleave

Several threads may work on one sink. Claiming it, settling it and looking at whether the call is
active are one step each, and between two steps of one thread any number of steps of others may
come. So an operation is taken apart into its steps (`Sink.Steps`), and a `Sink.System` is a sink
with all the calls of operations that were ever begun, each at some point of its steps.

A history is a list of events: an operation is begun, some call takes its next step, or the call
changes between active and inactive. Threads are not named. A thread that makes its calls one after
the other only restricts which histories there are, so what holds after all histories holds for
any number of threads.

A call remembers what its steps did: whether it claimed the sink, and with whose outcome it settled
it. Nothing in the system depends on these two records.

## Main definitions

* `Sink.Steps`, `Sink.Operation.steps`: the atomic steps of the operations
* `Sink.System`, `Sink.Event`, `Sink.System.run`: histories and where they lead

## Main statements

* `Sink.runAlone_success` and its neighbours: without interruption, the steps of an operation do
  what the operation does
-/

namespace ServiceStubs

namespace Call

namespace Sink

variable {α β : Type}

/-! ### Operations as steps -/

/-- Whose outcome a sink is settled with. -/
inductive Source
  /-- The outcome of the reply that is sent. -/
  | own
  /-- The status of a reply that is sent too late. -/
  | late
  /-- The status of a dropped call. -/
  | dropped
  /-- The status of a call that ended. -/
  | ended
  deriving DecidableEq, Repr

/-- Work on a sink, one step after the other, up to a result. -/
inductive Steps (α β : Type)
  | done (result : β)
  | claim (next : Bool → Steps α β)
  | look (next : Bool → Steps α β)
  | settle (source : Source) (o : Outcome α) (next : Bool → Steps α β)

/-- All steps at once, while the call is active or inactive throughout. -/
def Steps.runAlone (active : Bool) : Steps α β → Sink α → β × Sink α
  | done b, s => (b, s)
  | claim next, s => (next s.claim.1).runAlone active s.claim.2
  | look next, s => (next active).runAlone active s
  | settle _ o next, s => (next (s.settle o).1).runAlone active (s.settle o).2

/-- What a call on a sink comes to. -/
inductive Answer (α : Type)
  /-- A reply was claimed. -/
  | claimed (send : Send α)
  /-- Whether the call was ended. -/
  | flag (ended : Bool)
  /-- A reply was sent. -/
  | sent
  | raised (error : CallError)
  deriving DecidableEq, Repr

/-- The steps of a reply. -/
def replySteps (method : String) (o : Outcome α) : Steps α (Answer α) :=
  .claim fun first => .done (if first then .claimed ⟨o⟩ else .raised (.alreadyReplied method))

/-- The steps of a failed reply. -/
def failureSteps (method : String) (status : Status) : Steps α (Answer α) :=
  if status.code == .ok then .done (.raised .goodStatus) else replySteps method (.status status)

/-- The steps of dropping the call. -/
def dropSteps (method : String) : Steps α (Answer α) :=
  .claim fun first =>
    if first then .settle .dropped (.status (droppedStatus method)) fun _ => .done (.flag true)
    else .done (.flag false)

/-- The steps of cancelling the call. -/
def cancelSteps : Steps α (Answer α) :=
  .settle .ended (.status endedStatus) fun first => .done (.flag first)

/-- The steps of sending a claimed reply. -/
def deliverSteps (method : String) (send : Send α) : Steps α (Answer α) :=
  .look fun active =>
    if active then
      .settle .own send.outcome fun first =>
        .done (if first then .sent else .raised (.alreadyCompleted method))
    else .settle .late (.status lateStatus) fun _ => .done (.raised (.inactive method))

/-! ### Without interruption -/

/-- What a claim comes to. -/
def Answer.ofClaim : Except CallError (Send α) → Answer α
  | .ok send => .claimed send
  | .error e => .raised e

/-- What sending comes to. -/
def Answer.ofDelivery : Except CallError Unit → Answer α
  | .ok () => .sent
  | .error e => .raised e

theorem runAlone_replySteps (s : Sink α) (active : Bool) (o : Outcome α) :
    (replySteps s.method o).runAlone active s = (.ofClaim (s.reply o).1, (s.reply o).2) := by
  cases h : s.claimed <;>
    simp [replySteps, Steps.runAlone, reply, claim, Answer.ofClaim, h]

theorem runAlone_success (s : Sink α) (active : Bool) (v : α) :
    (replySteps s.method (.value v)).runAlone active s =
      (.ofClaim (s.success v).1, (s.success v).2) :=
  runAlone_replySteps s active (.value v)

theorem runAlone_failureSteps (s : Sink α) (active : Bool) (status : Status) :
    (failureSteps s.method status).runAlone active s =
      (.ofClaim (s.failure status).1, (s.failure status).2) := by
  unfold failureSteps failure
  split
  · rfl
  · exact runAlone_replySteps s active (.status status)

theorem runAlone_dropSteps (s : Sink α) (active : Bool) :
    (dropSteps s.method).runAlone active s = (.flag s.drop.1, s.drop.2) := by
  cases h : s.claimed <;> simp [dropSteps, Steps.runAlone, drop, claim, h]

theorem runAlone_cancelSteps (s : Sink α) (active : Bool) :
    cancelSteps.runAlone active s = (.flag s.cancel.1, s.cancel.2) := rfl

theorem runAlone_deliverSteps (s : Sink α) (active : Bool) (send : Send α) :
    (deliverSteps s.method send).runAlone active s =
      (.ofDelivery (s.deliver active send).1, (s.deliver active send).2) := by
  cases active
  · simp [deliverSteps, Steps.runAlone, deliver, Answer.ofDelivery]
  · cases h : s.outcome <;>
      simp [deliverSteps, Steps.runAlone, deliver, settle, Answer.ofDelivery, h]

/-! ### Histories -/

/-- An operation on a sink. -/
inductive Operation (α : Type)
  | success (v : α)
  | failure (status : Status)
  | drop
  | cancel
  | run (send : Send α)
  deriving DecidableEq, Repr

/-- The steps of an operation on the sink of a call of the named method. -/
def Operation.steps (method : String) : Operation α → Steps α (Answer α)
  | success v => replySteps method (.value v)
  | failure status => failureSteps method status
  | drop => dropSteps method
  | cancel => cancelSteps
  | run send => deliverSteps method send

/-- A call of an operation that was begun. -/
structure Invocation (α : Type) where
  operation : Operation α
  /-- The steps that it has still to take. -/
  rest : Steps α (Answer α)
  /-- Whether it claimed the sink. -/
  claimed : Bool
  /-- Whose outcome it settled the sink with, if it did. -/
  settled : Option Source

/-- The call of an operation before its first step. -/
def Invocation.begin_ (method : String) (op : Operation α) : Invocation α :=
  ⟨op, op.steps method, false, none⟩

/-- What a call came to, if it is over. -/
def Invocation.answer? (c : Invocation α) : Option (Answer α) :=
  match c.rest with
  | .done a => some a
  | _ => none

/-- The claimed reply that a call returned, if it did. -/
def Invocation.send? (c : Invocation α) : Option (Send α) :=
  match c.answer? with
  | some (.claimed send) => some send
  | _ => none

/-- A sink and the calls of operations on it, in the order in which they were begun. -/
structure System (α : Type) where
  sink : Sink α
  /-- Whether the call that the sink is for has not ended. -/
  active : Bool
  calls : List (Invocation α)

/-- What can happen next. Calls are named by their numbers. -/
inductive Event (α : Type)
  | success (v : α)
  | failure (status : Status)
  | drop
  | cancel
  /-- The reply that a call claimed is run, perhaps not for the first time. -/
  | run (claim : Nat)
  /-- A call takes its next step. -/
  | advance (call : Nat)
  | setActive (active : Bool)
  deriving DecidableEq, Repr

namespace System

/-- A new sink, with nothing begun. -/
def new (method : String) (active : Bool) : System α := ⟨.new method, active, []⟩

/-- The claimed reply that the call with a number returned. -/
def sendOf? (s : System α) (call : Nat) : Option (Send α) := s.calls[call]?.bind Invocation.send?

/-- Begins an operation. -/
def begin_ (s : System α) (op : Operation α) : System α :=
  { s with calls := s.calls ++ [.begin_ s.sink.method op] }

/-- The sink and a call of the system, after the call took its next step. -/
def advance (s : System α) (c : Invocation α) : Sink α × Invocation α :=
  match c.rest with
  | .done _ => (s.sink, c)
  | .claim next =>
    let (first, sink) := s.sink.claim
    (sink, { c with rest := next first, claimed := c.claimed || first })
  | .look next => (s.sink, { c with rest := next s.active })
  | .settle source o next =>
    let (first, sink) := s.sink.settle o
    (sink, { c with rest := next first, settled := if first then some source else c.settled })

/-- One event. Calls that are over or were never begun take no step, and only a claimed reply can
be run. -/
def step (s : System α) : Event α → System α
  | .success v => s.begin_ (.success v)
  | .failure status => s.begin_ (.failure status)
  | .drop => s.begin_ .drop
  | .cancel => s.begin_ .cancel
  | .run claim =>
    match s.sendOf? claim with
    | some send => s.begin_ (.run send)
    | none => s
  | .advance i =>
    match s.calls[i]? with
    | some c => { s with sink := (s.advance c).1, calls := s.calls.set i (s.advance c).2 }
    | none => s
  | .setActive active => { s with active := active }

/-- The system after a history. -/
def run (s : System α) (es : List (Event α)) : System α := es.foldl step s

@[simp] theorem run_nil (s : System α) : s.run [] = s := rfl

@[simp] theorem run_cons (s : System α) (e : Event α) (es : List (Event α)) :
    s.run (e :: es) = (s.step e).run es := rfl

theorem run_append (s : System α) (es fs : List (Event α)) :
    s.run (es ++ fs) = (s.run es).run fs := List.foldl_append

end System

end Sink

end Call

end ServiceStubs
