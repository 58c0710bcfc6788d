/-!
# How calls end

A call ends with a value or with a status. A status other than the good one says by its code why
there is no value.

## Main definitions

* `StatusCode`, `Status`, `Outcome`
* `CallError`: what can go wrong around a reply
-/

namespace ServiceStubs

namespace Call

/-- The codes of statuses. -/
inductive StatusCode
  | ok | cancelled | unknown | invalidArgument | deadlineExceeded | notFound | alreadyExists
  | permissionDenied | resourceExhausted | failedPrecondition | aborted | outOfRange
  | unimplemented | internal | unavailable | dataLoss | unauthenticated
  deriving DecidableEq, Repr, Inhabited

namespace StatusCode

/-- All codes. -/
def all : List StatusCode :=
  [ok, cancelled, unknown, invalidArgument, deadlineExceeded, notFound, alreadyExists,
    permissionDenied, resourceExhausted, failedPrecondition, aborted, outOfRange, unimplemented,
    internal, unavailable, dataLoss, unauthenticated]

/-- The name of a code. -/
def name : StatusCode → String
  | ok => "OK"
  | cancelled => "CANCELLED"
  | unknown => "UNKNOWN"
  | invalidArgument => "INVALID_ARGUMENT"
  | deadlineExceeded => "DEADLINE_EXCEEDED"
  | notFound => "NOT_FOUND"
  | alreadyExists => "ALREADY_EXISTS"
  | permissionDenied => "PERMISSION_DENIED"
  | resourceExhausted => "RESOURCE_EXHAUSTED"
  | failedPrecondition => "FAILED_PRECONDITION"
  | aborted => "ABORTED"
  | outOfRange => "OUT_OF_RANGE"
  | unimplemented => "UNIMPLEMENTED"
  | internal => "INTERNAL"
  | unavailable => "UNAVAILABLE"
  | dataLoss => "DATA_LOSS"
  | unauthenticated => "UNAUTHENTICATED"

/-- The code with a name. -/
def ofName? (s : String) : Option StatusCode := all.find? fun c => c.name == s

end StatusCode

/-- A status that a call can end with. -/
structure Status where
  code : StatusCode
  details : String
  deriving DecidableEq, Repr, Inhabited

/-- How a call ends. -/
inductive Outcome (α : Type)
  | value (v : α)
  | status (s : Status)
  deriving DecidableEq, Repr

/-- What can go wrong around the reply to a call of a method. -/
inductive CallError
  /-- A failed reply was given the status of a good one. -/
  | goodStatus
  /-- A reply was claimed before. -/
  | alreadyReplied (method : String)
  /-- The call ended before the reply was sent. -/
  | inactive (method : String)
  /-- The call was completed before the reply was sent. -/
  | alreadyCompleted (method : String)
  /-- A reply could not be sent for another reason. -/
  | unsent (reason : String)
  /-- The code that handles calls failed by itself. -/
  | raised (message : String)
  /-- The code that handles calls was left because the program is to stop. -/
  | stopped (message : String)
  deriving DecidableEq, Repr

/-- What is said about an error. -/
def CallError.text : CallError → String
  | goodStatus => "a failed reply needs a non-OK status code"
  | alreadyReplied method => s!"a reply to {method} was already sent"
  | inactive method => s!"call of {method} is no longer active"
  | alreadyCompleted method => s!"call of {method} was already completed"
  | unsent reason => reason
  | raised message | stopped message => message

/-- Whether the error is caught around a handler. That the program is to stop is not an error in
that sense. -/
def CallError.isCaught : CallError → Bool
  | stopped _ => false
  | _ => true

end Call

end ServiceStubs
