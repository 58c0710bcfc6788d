import ServiceStubs.Call.Sink

/-!
# The side of a call where it is served

The code that serves a call works on its sink and spawns tasks, mostly to send replies. When a
spawned task fails, somebody is told: an observer that came with the task, or else the hook for all
calls. What an observer does with a report, and whether it fails itself, changes nothing for the
call.

## Main definitions

* `Context`: the state of a call that is served
* `Task`, `Spawned`: what is run in the background
* `Executor`: where spawned tasks run
* `Context.spawn`, `Context.complete`
-/

namespace ServiceStubs

namespace Call

/-- Somebody who is told about tasks that failed. -/
structure Observer where
  name : String
  deriving DecidableEq, Repr

/-- Who is told about failures that have no observer of their own. -/
inductive Hook
  /-- The failure is logged. -/
  | log
  | observer (o : Observer)
  deriving DecidableEq, Repr

/-- A report of an error around the replies of a method. -/
structure Report where
  receiver : Hook
  method : String
  error : CallError
  deriving DecidableEq, Repr

/-- The line that is logged for a report. -/
def Report.logLine (r : Report) : String := s!"ERROR failed to reply {r.method}: {r.error.text}"

/-- A unit of work. -/
inductive Task (α : Type)
  | send (s : Sink.Send α)
  | fail (message : String)
  deriving DecidableEq, Repr

/-- A task and its own observer. -/
structure Spawned (α : Type) where
  task : Task α
  observer : Option Observer
  deriving DecidableEq, Repr

/-- Where spawned tasks run. -/
inductive Executor
  /-- A task runs as soon as it is spawned. -/
  | immediate
  /-- No task ever runs. -/
  | cancelling
  deriving DecidableEq, Repr

/-- The state of a call that is served. -/
structure Context (α : Type) where
  sink : Sink α
  /-- Whether the call has not ended. -/
  active : Bool
  /-- Who is told about failures. -/
  hook : Hook
  executor : Executor
  /-- What was reported, the last report first. -/
  reports : List Report
  deriving DecidableEq, Repr

namespace Context

variable {α : Type}

/-- The context of a new call. -/
def new (method : String) (active : Bool) (hook : Hook) (executor : Executor) : Context α :=
  ⟨.new method, active, hook, executor, []⟩

/-- Claims the sink for a value. -/
def success (c : Context α) (v : α) : Except CallError (Sink.Send α) × Context α :=
  let (r, sink) := c.sink.success v
  (r, { c with sink })

/-- Claims the sink for a status. -/
def failure (c : Context α) (s : Status) : Except CallError (Sink.Send α) × Context α :=
  let (r, sink) := c.sink.failure s
  (r, { c with sink })

/-- Ends the call unless a reply was claimed. -/
def drop (c : Context α) : Bool × Context α :=
  let (b, sink) := c.sink.drop
  (b, { c with sink })

/-- Ends the call unless it is completed. -/
def cancel (c : Context α) : Bool × Context α :=
  let (b, sink) := c.sink.cancel
  (b, { c with sink })

/-- Runs a task. -/
def run (c : Context α) : Task α → Except CallError Unit × Context α
  | .send s =>
    let (r, sink) := c.sink.deliver c.active s
    (r, { c with sink })
  | .fail message => (.error (.raised message), c)

/-- Reports an error to whoever is told. -/
def report (c : Context α) (receiver : Hook) (e : CallError) : Context α :=
  { c with reports := ⟨receiver, c.sink.method, e⟩ :: c.reports }

/-- Runs a spawned task, and reports its failure. -/
def complete (c : Context α) (s : Spawned α) : Context α :=
  match c.run s.task with
  | (.ok (), c) => c
  | (.error e, c) => c.report ((s.observer.map Hook.observer).getD c.hook) e

/-- Spawns a task. -/
def spawn (c : Context α) (s : Spawned α) : Context α :=
  match c.executor with
  | .immediate => c.complete s
  | .cancelling => c

end Context

end Call

end ServiceStubs
