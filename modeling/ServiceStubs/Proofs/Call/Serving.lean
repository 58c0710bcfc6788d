import ServiceStubs.Proofs.Call.Dispatch

/-!
# Executors that run a reply at once or never

`serve` runs a spawned reply to its end before the handler goes on, or never runs it. Either is a
history of the dispatch, in which the two steps of a delivery follow the claim at once or do not
come. So what holds of all histories holds of `serve`.

## Main definitions

* `Dispatch.Leads`: the state of a call that some history leads to

## Main statements

* `Dispatch.exists_run_serve`: what `serve` does is what one of the histories does
-/

namespace ServiceStubs

namespace Call

variable {α : Type}

namespace Dispatch

/-- The phase at which the thread is when a call has come to an ending, or to none. -/
def phaseOf : Ending α → Phase α
  | .waiting => .waiting
  | ending => .finished ending

/-- The phase after some actions of the handler, with the rest to come unless one failed. -/
def phaseAfter (rest : Handler α) : Except CallError Unit → Phase α
  | .ok () => .handling rest
  | .error e => .raising e

/-- Some history leads to this state of the call, with the thread at a phase. -/
def Leads (s : Dispatch α) (serving : Serving α) (phase : Phase α) : Prop :=
  ∃ es, (s.run es).toServing = serving ∧ (s.run es).phase = phase

theorem Leads.nothing (s : Dispatch α) : s.Leads s.toServing s.phase := ⟨[], rfl, rfl⟩

theorem Leads.first {s : Dispatch α} {serving : Serving α} {phase : Phase α} (e : Event)
    (h : (s.step e).Leads serving phase) : s.Leads serving phase := by
  obtain ⟨es, hes⟩ := h
  exact ⟨e :: es, hes⟩

theorem Leads.trans {s : Dispatch α} {serving serving' : Serving α} {phase phase' : Phase α}
    (h : s.Leads serving phase)
    (h' : ∀ t : Dispatch α, t.toServing = serving → t.phase = phase → s.Same t →
      t.Leads serving' phase') : s.Leads serving' phase' := by
  obtain ⟨es, hserving, hphase⟩ := h
  obtain ⟨fs, hfs⟩ := h' _ hserving hphase (s.same_run es)
  exact ⟨es ++ fs, by rwa [run_append]⟩

/-- Both steps of a delivery, one right after the other. -/
theorem leads_delivery (s : Dispatch α) {i : ℕ} {send : Sink.Send α}
    (hi : s.deliveries[i]? = some ⟨send, .queued⟩) :
    s.Leads { s.toServing with context := s.context.complete ⟨.send send, none⟩ } s.phase := by
  have hlt : i < s.deliveries.length := (List.getElem?_eq_some_iff.mp hi).1
  refine ⟨[.deliver i, .deliver i], ?_⟩
  simp only [run_cons, run_nil, step, hi, deliverStep, List.getElem?_set_self hlt, Context.complete,
    Context.run]
  cases hr : s.context.sink.deliver s.context.active send with
  | mk r k => cases r <;> simp [hr, sink, active, withSink]

/-- A reply that is claimed is sent at once, or never. -/
theorem leads_attempt (s : Dispatch α) {a : Action α} {rest : Handler α}
    (r : Except CallError (Sink.Send α) × Context α) :
    (s.attempt a rest true r).Leads (s.toServing.spawnReply r).2
      (phaseAfter rest (s.toServing.spawnReply r).1) := by
  obtain ⟨r, c⟩ := r
  cases r with
  | error e => exact .nothing _
  | ok send =>
    -- the reply is the last one that was handed to the executor
    have hlast : (s.attempt a rest true (.ok send, c)).deliveries[s.deliveries.length]? =
        some ⟨send, .queued⟩ := by
      simp [attempt]
    cases hx : c.executor with
    | immediate =>
      have hspawn : c.spawn ⟨.send send, none⟩ = c.complete ⟨.send send, none⟩ := by
        rw [Context.spawn, hx]
      rw [Serving.spawnReply, hspawn]
      exact leads_delivery _ hlast
    | cancelling =>
      have hspawn : c.spawn ⟨.send send, none⟩ = c := by rw [Context.spawn, hx]
      rw [Serving.spawnReply, hspawn]
      exact .nothing _

theorem leads_act {s : Dispatch α} {a : Action α} {rest : Handler α}
    (hp : s.phase = .handling (a :: rest)) :
    s.Leads (s.toServing.act s.request a).2 (phaseAfter rest (s.toServing.act s.request a).1) := by
  refine .first .thread ?_
  have hthread : s.step .thread = s.act a rest := by rw [step, thread, hp]
  rw [hthread]
  cases a with
  | echo => exact s.leads_attempt _
  | reply v => exact s.leads_attempt _
  | fail status => exact s.leads_attempt _
  | claim v =>
    cases hr : s.context.success v with
    | mk r c =>
      rw [act, Serving.act, hr]
      cases r <;> exact .nothing _
  | raise message | stop message => exact .nothing _
  | drop =>
    cases hc : s.sink.claimed with
    | true =>
      rw [act, claim_of_claimed hc, Serving.act, Context.drop, ← sink, drop_of_claimed hc]
      exact .nothing _
    | false =>
      rw [act, claim_of_unclaimed hc, Serving.act, Context.drop, ← sink, drop_of_unclaimed hc]
      exact .first .thread (.nothing _)
  | deactivate => exact .nothing _
  | endCall =>
    rw [act, Serving.act]
    cases hw : s.watched with
    | true => exact .first .thread (.nothing _)
    | false => exact .nothing _
  | tryClaim v =>
    cases hr : s.context.success v with
    | mk r c =>
      rw [act, Serving.act, hr]
      cases r <;> exact .nothing _

theorem leads_actAll {s : Dispatch α} {rest : Handler α} (hp : s.phase = .handling rest) :
    s.Leads (s.toServing.actAll s.request rest).2
      (phaseAfter [] (s.toServing.actAll s.request rest).1) := by
  induction rest generalizing s with
  | nil => exact ⟨[], rfl, hp⟩
  | cons a rest ih =>
    have ha := leads_act hp
    rw [Serving.actAll]
    cases hr : s.toServing.act s.request a with
    | mk r serving =>
      rw [hr] at ha
      cases r with
      | error e => exact ha
      | ok u =>
        refine ha.trans fun t hserving hphase hsame => ?_
        have := ih hphase
        rwa [hserving, hsame.request] at this

/-- A handler that returned lets go of the call. -/
theorem leads_drop {s : Dispatch α} (hp : s.phase = .handling []) :
    s.Leads { s.toServing with context := s.context.drop.2 } .waiting := by
  refine .first .thread ?_
  rw [step, thread, hp]
  cases hc : s.sink.claimed with
  | true =>
    rw [claim_of_claimed hc, Context.drop, ← sink, drop_of_claimed hc]
    exact .nothing _
  | false =>
    rw [claim_of_unclaimed hc, Context.drop, ← sink, drop_of_unclaimed hc]
    exact .first .thread (.nothing _)

/-- The ending that a sink tells. -/
def endingOf (k : Sink α) : Ending α :=
  match k.outcome with
  | none => .waiting
  | some (.value v) => .returned v
  | some (.status status) => .aborted status

theorem leads_waiting {s : Dispatch α} (hp : s.phase = .waiting) :
    s.Leads s.toServing (phaseOf (endingOf s.sink)) := by
  refine .first .thread ?_
  rw [step, thread, hp, endingOf]
  cases ho : s.sink.outcome with
  | none => exact ⟨[], rfl, hp⟩
  | some o => cases o <;> exact .nothing _

/-- The context once the error of a handler is passed on. -/
def passedOn (context : Context α) (e : CallError) : Context α :=
  if e.isCaught then
    { context with
      sink := (context.sink.settle (.status (Sink.raisedStatus context.sink.method))).2 }
  else context

theorem leads_raising {s : Dispatch α} {e : CallError} (hp : s.phase = .raising e) :
    s.Leads { s.toServing with context := passedOn s.context e } (.finished (.raised e)) := by
  refine .first .thread ?_
  rw [step, thread, hp, passedOn]
  dsimp only
  split <;> exact .nothing _

/-- The handler begins, after the sink was cancelled if the call cannot be watched. -/
theorem leads_start (context : Context α) (watchable : Bool) (note : Observer) (handler : Handler α)
    (request : α) :
    (start context watchable note handler request).Leads
      { context := if watchable then context else context.cancel.2, watched := watchable, note }
      (.handling handler) := by
  cases watchable with
  | true => exact .first .thread (.nothing _)
  | false => exact .first .thread (.first .thread (.nothing _))

theorem serve_eq (context : Context α) (watchable : Bool) (note : Observer) (handler : Handler α)
    (request : α) (context' : Context α)
    (hcontext' : context' = if watchable then context else context.cancel.2) :
    serve context watchable note handler request =
      match Serving.actAll request { context := context', watched := watchable, note } handler with
      | (.error e, s) => (.raised e, if e.isCaught then { s.context with
          sink := (s.context.sink.settle (.status (Sink.raisedStatus context'.sink.method))).2 }
        else s.context)
      | (.ok (), s) => (endingOf s.context.drop.2.sink, s.context.drop.2) := by
  subst hcontext'
  rw [serve]
  cases Serving.actAll request _ handler with
  | mk r s =>
    cases r with
    | error e =>
      dsimp only
      split <;> rfl
    | ok u =>
      simp only [endingOf]
      cases s.context.drop.2.sink.outcome with
      | none => rfl
      | some o => cases o <;> rfl

/-- **What `serve` does is what one of the histories does.** -/
theorem exists_run_serve (context : Context α) (watchable : Bool) (note : Observer)
    (handler : Handler α) (request : α) :
    ∃ es, let t := (start context watchable note handler request).run es
      t.context = (serve context watchable note handler request).2 ∧
        t.phase = phaseOf (serve context watchable note handler request).1 := by
  suffices h : ∃ serving : Serving α,
      serving.context = (serve context watchable note handler request).2 ∧
      (start context watchable note handler request).Leads serving
        (phaseOf (serve context watchable note handler request).1) by
    obtain ⟨serving, hcontext, es, hserving, hphase⟩ := h
    exact ⟨es, by rw [hserving, hcontext], hphase⟩
  have hstart := leads_start context watchable note handler request
  generalize hc : (if watchable then context else context.cancel.2) = context' at hstart
  have hmethod : context'.sink.method = context.sink.method := by
    subst hc
    cases watchable with
    | true => rfl
    | false => exact method_settle _ _
  rw [serve_eq context watchable note handler request context' hc.symm, hmethod]
  cases hr : Serving.actAll request { context := context', watched := watchable, note } handler with
  | mk r serving =>
    have hacts : (start context watchable note handler request).Leads serving (phaseAfter [] r) := by
      refine hstart.trans fun t hserving hphase hsame => ?_
      have := leads_actAll hphase
      rwa [hserving, show t.request = request from hsame.request, hr] at this
    cases r with
    | error e =>
      refine ⟨{ serving with context := passedOn serving.context e }, ?_,
        hacts.trans fun t hserving hphase hsame => ?_⟩
      · obtain ⟨es, hserving, -⟩ := hacts
        have hsink : serving.context.sink.method = context.sink.method := by
          rw [← hserving]
          exact (same_run _ es).method
        rw [passedOn, hsink]
      · have := leads_raising hphase
        rwa [hserving] at this
    | ok u =>
      refine ⟨{ serving with context := serving.context.drop.2 }, rfl,
        hacts.trans fun t hserving hphase _ => ?_⟩
      have hdrop := leads_drop hphase
      rw [hserving] at hdrop
      refine hdrop.trans fun t' hserving' hphase' _ => ?_
      have := leads_waiting hphase'
      rwa [sink, hserving'] at this

end Dispatch

end Call

end ServiceStubs
