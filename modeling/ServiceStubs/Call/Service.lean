import ServiceStubs.Call.Context

/-!
# Services

A service maps paths to handlers. A builder collects handlers, one for each path, and may go on
collecting after it built a service.

A handler is called once for a request. What it does is a list of actions, which end early if one
fails. When it returns, the call is dropped unless a reply was claimed, and ends with the outcome of
its sink. When it fails, the error is passed on once the sink is settled, but for the news that the
program is to stop, which passes by the sink.

## Main definitions

* `Method`, `ServiceBuilder`, `Service`
* `Action`, `Handler`: what a handler does
* `serve`: one call of a handler
-/

namespace ServiceStubs

namespace Call

/-- How many replies a method gives. -/
inductive MethodKind
  | unary
  | serverStreaming
  deriving DecidableEq, Repr

/-- A method that can be called. -/
structure Method where
  kind : MethodKind
  name : String
  deriving DecidableEq, Repr

/-- The path that a method is called under. -/
def Method.path (m : Method) : String := "/" ++ m.name

/-- Why a handler was not added. -/
inductive HandlerError
  | notUnary (name : String)
  | alreadyRegistered (name : String)
  deriving DecidableEq, Repr

/-- What is said about a handler that was not added. -/
def HandlerError.text : HandlerError → String
  | notUnary name => s!"{name} is not a unary method"
  | alreadyRegistered name => s!"a handler for {name} is already registered"

/-- A handler under its path. -/
structure Route (η : Type) where
  method : Method
  handler : η

/-- Paths and their handlers, in the order in which they were added. -/
structure Service (η : Type) where
  routes : List (Route η)

namespace Service

variable {η : Type}

/-- The handler for a path. -/
def find? (s : Service η) (path : String) : Option (Route η) :=
  s.routes.find? fun r => r.method.path == path

/-- The paths of a service. -/
def paths (s : Service η) : List String := s.routes.map fun r => r.method.path

/-- How many handlers a service has. -/
def size (s : Service η) : Nat := s.routes.length

end Service

/-- Collects handlers. -/
structure ServiceBuilder (η : Type) where
  routes : List (Route η)

namespace ServiceBuilder

variable {η : Type}

/-- The builder without handlers. -/
def empty : ServiceBuilder η := ⟨[]⟩

/-- Adds a handler for a unary method that has none. -/
def add (b : ServiceBuilder η) (m : Method) (h : η) : Except HandlerError (ServiceBuilder η) :=
  if m.kind != .unary then .error (.notUnary m.name)
  else if b.routes.any fun r => r.method.path == m.path then .error (.alreadyRegistered m.name)
  else .ok ⟨b.routes ++ [⟨m, h⟩]⟩

/-- The service with the handlers collected so far. -/
def build (b : ServiceBuilder η) : Service η := ⟨b.routes⟩

end ServiceBuilder

/-! ## Handlers -/

/-- What a handler can do with a call. -/
inductive Action (α : Type)
  /-- Replies with the request. -/
  | echo
  | reply (v : α)
  | fail (s : Status)
  /-- Claims the reply and never sends it. -/
  | claim (v : α)
  | raise (message : String)
  /-- The program is to stop, which leaves the handler like an error. -/
  | stop (message : String)
  | drop
  /-- The call ends, and nobody is told. -/
  | deactivate
  /-- The call ends, and everybody who waits for that is told. -/
  | endCall
  /-- Claims the reply and never sends it; that it was claimed before is reported. -/
  | tryClaim (v : α)
  deriving Repr

/-- A handler, by what it does. -/
abbrev Handler (α : Type) := List (Action α)

/-- The state of a call while its handler runs. -/
structure Serving (α : Type) where
  context : Context α
  /-- Whether the end of the call cancels its sink. -/
  watched : Bool
  /-- Who notes the errors that the handler caught. -/
  note : Observer

namespace Serving

variable {α : Type}

/-- Spawns the sending of a claimed reply, if it was claimed. -/
def spawnReply (s : Serving α) (r : Except CallError (Sink.Send α) × Context α) :
    Except CallError Unit × Serving α :=
  match r with
  | (.ok send, c) => (.ok (), { s with context := c.spawn ⟨.send send, none⟩ })
  | (.error e, c) => (.error e, { s with context := c })

/-- One action on a request. -/
def act (request : α) (s : Serving α) : Action α → Except CallError Unit × Serving α
  | .echo => s.spawnReply (s.context.success request)
  | .reply v => s.spawnReply (s.context.success v)
  | .fail status => s.spawnReply (s.context.failure status)
  | .claim v =>
    let (r, c) := s.context.success v
    (r.map fun _ => (), { s with context := c })
  | .raise message => (.error (.raised message), s)
  | .stop message => (.error (.stopped message), s)
  | .drop => (.ok (), { s with context := s.context.drop.2 })
  | .deactivate => (.ok (), { s with context := { s.context with active := false } })
  | .endCall =>
    let c := { s.context with active := false }
    (.ok (), { s with context := if s.watched then c.cancel.2 else c })
  | .tryClaim v =>
    match s.context.success v with
    | (.ok _, c) => (.ok (), { s with context := c })
    | (.error e, c) => (.ok (), { s with context := c.report (.observer s.note) e })

/-- The actions of a handler, up to the first that fails. -/
def actAll (request : α) (s : Serving α) : Handler α → Except CallError Unit × Serving α
  | [] => (.ok (), s)
  | a :: as =>
    match s.act request a with
    | (.ok (), s) => s.actAll request as
    | (.error e, s) => (.error e, s)

end Serving

/-- How a call ends for the one who made it. -/
inductive Ending (α : Type)
  | returned (v : α)
  | aborted (s : Status)
  | raised (e : CallError)
  /-- A reply was claimed but not sent, and the call goes on. -/
  | waiting
  deriving Repr

/-- One call of a handler. If the call cannot be watched, its sink is cancelled at once. -/
def serve {α : Type} (context : Context α) (watchable : Bool) (note : Observer)
    (handler : Handler α) (request : α) : Ending α × Context α :=
  let context := if watchable then context else context.cancel.2
  match ({ context, watched := watchable, note } : Serving α).actAll request handler with
  | (.error e, s) =>
    if e.isCaught then
      let status := Sink.raisedStatus context.sink.method
      let (_, sink) := s.context.sink.settle (.status status)
      (.raised e, { s.context with sink })
    else (.raised e, s.context)
  | (.ok (), s) =>
    let (_, c) := s.context.drop
    match c.sink.outcome with
    | none => (.waiting, c)
    | some (.value v) => (.returned v, c)
    | some (.status status) => (.aborted status, c)

end Call

end ServiceStubs
