import ServiceStubs.Call.Status

/-!
# The reply to a call

A sink takes the one reply to a call. To reply is to claim the sink, which works once, and later to
settle it with the claimed outcome, which also works once. Between the two the call may end, and
then the sink is settled with another outcome.

`claim` and `settle` are the only changes of a sink. Everything else is made of them and of looks
at whether the call is active, and each of these is one step that no other interrupts.

## Main definitions

* `Sink`, `Sink.claim`, `Sink.settle`
* `Sink.success`, `Sink.failure`: claiming replies
* `Sink.deliver`: sending a claimed reply
* `Sink.drop`, `Sink.cancel`: ending a call without a reply
-/

namespace ServiceStubs

namespace Call

/-- The place for the reply to a call of a method. -/
structure Sink (α : Type) where
  method : String
  claimed : Bool
  outcome : Option (Outcome α)
  deriving DecidableEq, Repr

namespace Sink

variable {α : Type}

/-- The sink of a new call. -/
def new (method : String) : Sink α := ⟨method, false, none⟩

/-- Whether the call has its outcome. -/
def completed (s : Sink α) : Bool := s.outcome.isSome

/-- Claims the sink, and tells whether that was the first claim. -/
def claim (s : Sink α) : Bool × Sink α := (!s.claimed, { s with claimed := true })

/-- Gives the call its outcome, and tells whether it had none. -/
def settle (s : Sink α) (o : Outcome α) : Bool × Sink α :=
  match s.outcome with
  | none => (true, { s with outcome := some o })
  | some _ => (false, s)

/-- A claimed reply that was not sent yet. -/
structure Send (α : Type) where
  outcome : Outcome α
  deriving DecidableEq, Repr

/-- Claims the sink for a reply. -/
def reply (s : Sink α) (o : Outcome α) : Except CallError (Send α) × Sink α :=
  let (first, s') := s.claim
  if first then (.ok ⟨o⟩, s') else (.error (.alreadyReplied s.method), s')

/-- Claims the sink for a value. -/
def success (s : Sink α) (v : α) : Except CallError (Send α) × Sink α := s.reply (.value v)

/-- Claims the sink for a status, which must not be the good one. -/
def failure (s : Sink α) (status : Status) : Except CallError (Send α) × Sink α :=
  if status.code == .ok then (.error .goodStatus, s) else s.reply (.status status)

/-- The status of a call whose reply comes after its end. -/
def lateStatus : Status := ⟨.cancelled, "call is no longer active"⟩

/-- The status of a call that ended before its reply. -/
def endedStatus : Status := ⟨.cancelled, "call ended before a reply was sent"⟩

/-- The status of a call that nobody replied to. -/
def droppedStatus (method : String) : Status := ⟨.unknown, s!"{method} did not reply"⟩

/-- The status of a call whose handler failed. -/
def raisedStatus (method : String) : Status := ⟨.unknown, s!"{method} raised"⟩

/-- Sends a claimed reply, where `active` tells whether the call still is. -/
def deliver (s : Sink α) (active : Bool) (send : Send α) : Except CallError Unit × Sink α :=
  if !active then
    let (_, s') := s.settle (.status lateStatus)
    (.error (.inactive s.method), s')
  else
    let (first, s') := s.settle send.outcome
    (if first then .ok () else .error (.alreadyCompleted s.method), s')

/-- Ends the call unless a reply was claimed, and tells whether it did. -/
def drop (s : Sink α) : Bool × Sink α :=
  let (first, s') := s.claim
  if first then (true, (s'.settle (.status (droppedStatus s.method))).2) else (false, s')

/-- Ends the call unless it is completed, and tells whether it did. -/
def cancel (s : Sink α) : Bool × Sink α := s.settle (.status endedStatus)

end Sink

end Call

end ServiceStubs
