import Mathlib.Data.List.Induction
import ServiceStubs.Proofs.Call.Dispatch

/-!
# How a served call ends

A served call can end in many ways, since its replies run beside the handler, the call may be ended
by the other side, and all of them meet at the sink. The invariant (`Dispatch.Coherent`) says that
at most one action has claimed the sink, that every delivery carries the reply of that action, and
that the outcome of the sink has a cause (`Dispatch.Cause`): a delivery that found the call active,
a call that was dropped with nothing claimed, the end of the call, or a failed handler. Each step
keeps it, whoever takes the step.

## Main statements

* `Dispatch.Coherent.step`, `Dispatch.Coherent.run`: the invariant and its preservation
* `Dispatch.exists_look`: a reply that was sent found the call active when it looked
* `Dispatch.ending_of_history`: how every call ends that comes to an end
-/

namespace ServiceStubs

namespace Call

namespace Dispatch

variable {α : Type}

/-! ### The invariant -/

/-- Why a sink has its outcome. -/
inductive Cause (s : Dispatch α) : Outcome α → Prop
  | sent {d : Delivery α} (hd : d ∈ s.deliveries) (h : d.stage = .sent) : Cause s d.send.outcome
  | dropped (h : s.sink.claimed = true) (hclaims : s.claims = []) :
    Cause s (.status (Sink.droppedStatus s.sink.method))
  | late (h : s.active = false) : Cause s (.status Sink.lateStatus)
  | ended (h : s.active = false ∨ s.watched = false) : Cause s (.status Sink.endedStatus)
  | raised {e : CallError} (h : s.left = some (.error e)) :
    Cause s (.status (Sink.raisedStatus s.sink.method))

/-- A delivery carries the reply of the one action that claimed the sink, and has come as far as the
call and the sink allow. -/
structure Follows (s : Dispatch α) (d : Delivery α) : Prop where
  claim : ∃ a ∈ s.handler, s.claims = [a] ∧ a.reply? s.request = some d.send.outcome
  looked : d.stage = .looked false → s.active = false
  sent : d.stage = .sent → s.sink.outcome = some d.send.outcome

/-- What a call that is over tells. -/
def Ends (s : Dispatch α) : Ending α → Prop
  | .returned v => s.left = some (.ok ()) ∧ s.sink.outcome = some (.value v)
  | .aborted status => s.left = some (.ok ()) ∧ s.sink.outcome = some (.status status)
  | .raised e => s.left = some (.error e) ∧ (e.isCaught = true → s.sink.completed = true)
  | .waiting => False

/-- What is known at a phase. -/
def InPhase (s : Dispatch α) : Prop :=
  match s.phase with
  | .refused => s.calls = [] ∧ s.left = none ∧ s.watched = false
  | .calling => s.calls = [] ∧ s.left = none
  | .handling rest => s.calls = [s.request] ∧ s.left = none ∧ rest <:+ s.handler
  | .dropping rest =>
    s.calls = [s.request] ∧ s.left = none ∧ rest <:+ s.handler ∧ s.sink.claimed = true ∧
      s.claims = []
  | .ending rest =>
    s.calls = [s.request] ∧ s.left = none ∧ rest <:+ s.handler ∧ s.active = false
  | .raising e => s.calls = [s.request] ∧ s.left = some (.error e)
  | .abandoning =>
    s.calls = [s.request] ∧ s.left = some (.ok ()) ∧ s.sink.claimed = true ∧ s.claims = []
  | .waiting => s.calls = [s.request] ∧ s.left = some (.ok ())
  | .finished ending => s.calls = [s.request] ∧ s.Ends ending

/-- The invariant of a served call. -/
structure Coherent (s : Dispatch α) : Prop where
  claims : s.claims = [] ∨ s.sink.claimed = true
  deliveries : ∀ d ∈ s.deliveries, s.Follows d
  outcome : ∀ o, s.sink.outcome = some o → s.Cause o
  phase : s.InPhase

theorem coherent_start (method : String) (active : Bool) (hook : Hook) (executor : Executor)
    (watchable : Bool) (note : Observer) (handler : Handler α) (request : α) :
    (start (.new method active hook executor) watchable note handler request).Coherent := by
  refine ⟨.inl rfl, by simp [start], by simp [start, sink, Context.new, Sink.new], ?_⟩
  cases watchable with
  | false => exact ⟨rfl, rfl, rfl⟩
  | true => exact ⟨rfl, rfl⟩

/-! ### What later states keep -/

/-- What no step takes back. -/
structure Later (s t : Dispatch α) : Prop extends Same s t where
  outcome : ∀ o, s.sink.outcome = some o → t.sink.outcome = some o
  active : s.active = false → t.active = false
  claimed : s.sink.claimed = true → t.sink.claimed = true
  claims : s.sink.claimed = true → t.claims = s.claims
  left : ∀ r, s.left = some r → t.left = some r
  sent : ∀ d ∈ s.deliveries, d.stage = .sent → d ∈ t.deliveries

theorem Cause.later {s t : Dispatch α} (hl : s.Later t) {o : Outcome α} (h : s.Cause o) :
    t.Cause o := by
  cases h with
  | sent hd hsent => exact .sent (hl.sent _ hd hsent) hsent
  | dropped hc hclaims =>
    rw [← hl.method]
    exact .dropped (hl.claimed hc) ((hl.claims hc).trans hclaims)
  | late ha => exact .late (hl.active ha)
  | ended h => exact .ended (h.imp hl.active fun hw => hl.watched.trans hw)
  | raised he =>
    rw [← hl.method]
    exact .raised (hl.left _ he)

theorem Follows.later {s t : Dispatch α} (hl : s.Later t) (hc : s.sink.claimed = true)
    {d : Delivery α} (h : s.Follows d) : t.Follows d := by
  obtain ⟨a, ha, hclaims, hreply⟩ := h.claim
  refine ⟨⟨a, ?_, (hl.claims hc).trans hclaims, ?_⟩, fun hs => hl.active (h.looked hs),
    fun hs => hl.outcome _ (h.sent hs)⟩
  · rwa [hl.handler]
  · rwa [hl.request]

theorem completed_later {s t : Dispatch α} (hl : s.Later t) (h : s.sink.completed = true) :
    t.sink.completed = true := by
  obtain ⟨o, ho⟩ := Option.isSome_iff_exists.mp h
  exact Option.isSome_iff_exists.mpr ⟨o, hl.outcome o ho⟩

theorem Ends.later {s t : Dispatch α} (hl : s.Later t) {ending : Ending α} (h : s.Ends ending) :
    t.Ends ending := by
  cases ending with
  | returned v => exact ⟨hl.left _ h.1, hl.outcome _ h.2⟩
  | aborted status => exact ⟨hl.left _ h.1, hl.outcome _ h.2⟩
  | raised e => exact ⟨hl.left _ h.1, fun he => completed_later hl (h.2 he)⟩
  | waiting => exact h

/-- A thread that takes no step stays at its phase when others take steps. -/
theorem InPhase.later {s t : Dispatch α} (hl : s.Later t) (hphase : t.phase = s.phase)
    (hcalls : t.calls = s.calls) (hleft : t.left = s.left) (h : s.InPhase) : t.InPhase := by
  unfold InPhase at h ⊢
  rw [hphase, hcalls, hleft, hl.handler, hl.request, hl.watched]
  cases hp : s.phase with
  | refused | calling | handling | raising | waiting => simpa only [hp] using h
  | dropping rest =>
    simp only [hp] at h ⊢
    obtain ⟨hc, hn, hr, hclaimed, hclaims⟩ := h
    exact ⟨hc, hn, hr, hl.claimed hclaimed, (hl.claims hclaimed).trans hclaims⟩
  | ending rest =>
    simp only [hp] at h ⊢
    exact ⟨h.1, h.2.1, h.2.2.1, hl.active h.2.2.2⟩
  | abandoning =>
    simp only [hp] at h ⊢
    obtain ⟨hc, hn, hclaimed, hclaims⟩ := h
    exact ⟨hc, hn, hl.claimed hclaimed, (hl.claims hclaimed).trans hclaims⟩
  | finished ending =>
    simp only [hp] at h ⊢
    exact ⟨h.1, h.2.later hl⟩

theorem Coherent.claimed_of_mem {s : Dispatch α} (h : s.Coherent) {d : Delivery α}
    (hd : d ∈ s.deliveries) : s.sink.claimed = true := by
  obtain ⟨a, -, hclaims, -⟩ := (h.deliveries d hd).claim
  rcases h.claims with hnil | hc
  · simp [hclaims] at hnil
  · exact hc

/-- Nothing is in flight as long as nothing claimed the sink. -/
theorem Coherent.of_unclaimed {s : Dispatch α} (h : s.Coherent) (hc : s.sink.claimed = false) :
    s.claims = [] ∧ s.deliveries = [] := by
  refine ⟨h.claims.resolve_right (by simp [hc]), List.eq_nil_iff_forall_not_mem.mpr ?_⟩
  intro d hd
  simp [h.claimed_of_mem hd] at hc

/-- A step that claims nothing keeps the invariant if what it adds fits. -/
theorem Coherent.later {s t : Dispatch α} (h : s.Coherent) (hl : s.Later t)
    (hclaims : t.claims = s.claims)
    (hdeliveries : ∀ d ∈ t.deliveries, d ∈ s.deliveries ∨ t.Follows d)
    (houtcome : ∀ o, t.sink.outcome = some o → s.sink.outcome = some o ∨ t.Cause o)
    (hphase : t.InPhase) : t.Coherent := by
  refine ⟨?_, ?_, ?_, hphase⟩
  · rw [hclaims]
    exact h.claims.imp id hl.claimed
  · intro d hd
    rcases hdeliveries d hd with hd | hd
    · exact (h.deliveries d hd).later hl (h.claimed_of_mem hd)
    · exact hd
  · intro o ho
    rcases houtcome o ho with ho | ho
    · exact (h.outcome o ho).later hl
    · exact ho

/-- A step that leaves the sink and the deliveries alone. -/
theorem Coherent.frame {s : Dispatch α} (h : s.Coherent) (context : Context α)
    (hsink : context.sink = s.sink) (hactive : s.active = false → context.active = false)
    (calls : List α) (left : Option (Except CallError Unit))
    (hleft : ∀ r, s.left = some r → left = some r) (phase : Phase α)
    (hin : InPhase { s with context, calls, left, phase }) :
    Coherent { s with context, calls, left, phase } := by
  have hl : s.Later { s with context, calls, left, phase } := by
    refine ⟨⟨rfl, rfl, rfl, ?_⟩, ?_, hactive, ?_, fun _ => rfl, hleft, fun _ h _ => h⟩ <;>
      simp only [sink, hsink]
    · exact fun _ h => h
    · exact id
  refine h.later hl rfl (fun d hd => .inl hd) (fun o ho => .inl ?_) hin
  simpa only [sink, hsink] using ho

/-- A step that claims the sink for no reply. -/
theorem Coherent.claim {s : Dispatch α} (h : s.Coherent) (hc : s.sink.claimed = false)
    (left : Option (Except CallError Unit)) (hleft : ∀ r, s.left = some r → left = some r)
    (phase : Phase α)
    (hin : s.claims = [] →
      InPhase { s.withSink { s.sink with claimed := true } with left, phase }) :
    Coherent { s.withSink { s.sink with claimed := true } with left, phase } :=
  h.later ⟨⟨rfl, rfl, rfl, rfl⟩, fun _ h => h, id, fun _ => rfl, fun _ => rfl, hleft, fun _ h _ => h⟩
    rfl (fun _ hd => .inl hd) (fun _ ho => .inl ho) (hin (h.of_unclaimed hc).1)

/-! ### Settling -/

/-- The dispatch with its sink settled, if it was not, at some phase. -/
def settled (s : Dispatch α) (o : Outcome α) (phase : Phase α) : Dispatch α :=
  { s.withSink (s.sink.settle o).2 with phase }

/-- A sink that is settled has the outcome it had, or else the new one. -/
theorem outcome_or_eq {k : Sink α} {o o' : Outcome α} (h : (k.settle o).2.outcome = some o') :
    k.outcome = some o' ∨ o' = o := by
  rw [outcome_settle] at h
  cases hk : k.outcome with
  | none => exact .inr (by simpa [hk] using h.symm)
  | some o'' => exact .inl (by simpa [hk] using h)

theorem later_settled (s : Dispatch α) (o : Outcome α) (phase : Phase α) :
    s.Later (s.settled o phase) := by
  have hclaimed : (s.sink.settle o).2.claimed = s.sink.claimed := by
    cases ho : s.sink.outcome with
    | none => rw [settle_of_none ho]
    | some o' => rw [settle_of_some ho]
  refine ⟨⟨rfl, rfl, rfl, method_settle _ _⟩, fun o' ho' => ?_, id, fun hc => hclaimed.trans hc,
    fun _ => rfl, fun _ h => h, fun _ h _ => h⟩
  show (s.sink.settle o).2.outcome = some o'
  rw [outcome_settle, ho']
  rfl

theorem Coherent.settled {s : Dispatch α} (h : s.Coherent) {o : Outcome α} (ho : s.Cause o)
    {phase : Phase α} (hphase : (s.settled o phase).InPhase) : (s.settled o phase).Coherent := by
  refine h.later (s.later_settled o phase) rfl (fun d hd => .inl hd) (fun o' ho' => ?_) hphase
  rcases outcome_or_eq ho' with ho' | rfl
  · exact .inl ho'
  · exact .inr (ho.later (s.later_settled o' phase))

/-! ### Steps of the thread -/

/-- What the handler has left when it takes an action is a part of it. -/
theorem mem_of_suffix {a : Action α} {rest handler : Handler α} (h : a :: rest <:+ handler) :
    a ∈ handler ∧ rest <:+ handler :=
  ⟨h.subset List.mem_cons_self, (List.suffix_cons a rest).trans h⟩

theorem Coherent.act {s : Dispatch α} (h : s.Coherent) {a : Action α} {rest : Handler α}
    (hp : s.phase = .handling (a :: rest)) {t : Dispatch α} (ht : s.Acts a rest t) :
    t.Coherent := by
  obtain ⟨hcalls, hleft, hrest⟩ : s.calls = [s.request] ∧ s.left = none ∧
      a :: rest <:+ s.handler := by
    have := h.phase
    rwa [InPhase, hp] at this
  obtain ⟨ha, hrest⟩ := mem_of_suffix hrest
  cases ht with
  | claimed ho hc ds hds =>
    obtain ⟨hclaims, hdeliveries⟩ := h.of_unclaimed hc
    refine ⟨.inr rfl, fun d hd => ?_, fun o' ho' => (h.outcome o' ho').later ?_,
      ⟨hcalls, hleft, hrest⟩⟩
    · obtain rfl : d = ⟨⟨_⟩, .queued⟩ := hds d (by simpa [hdeliveries] using hd)
      exact ⟨⟨a, ha, by simp [hclaims], ho⟩, nofun, nofun⟩
    · exact ⟨⟨rfl, rfl, rfl, rfl⟩, fun _ h => h, id, fun _ => rfl, fun hc' => by simp [hc] at hc',
        fun _ h => h, fun _ hd _ => List.mem_append_left _ hd⟩
  | failed e =>
    exact h.frame s.context rfl id s.calls _ (by simp [hleft]) _ ⟨hcalls, rfl⟩
  | noted reports =>
    exact h.frame { s.context with reports } rfl id s.calls s.left (fun _ h => h) _
      ⟨hcalls, hleft, hrest⟩
  | dropping hc =>
    exact h.claim hc s.left (fun _ h => h) _ fun hclaims => ⟨hcalls, hleft, hrest, rfl, hclaims⟩
  | ended phase hphase =>
    refine h.frame { s.context with active := false } rfl (fun _ => rfl) s.calls s.left
      (fun _ h => h) phase ?_
    rcases hphase with rfl | rfl
    · exact ⟨hcalls, hleft, hrest⟩
    · exact ⟨hcalls, hleft, hrest, rfl⟩

theorem Coherent.thread {s : Dispatch α} (h : s.Coherent) : s.thread.Coherent := by
  have hin := h.phase
  unfold InPhase at hin
  unfold Dispatch.thread
  cases hp : s.phase with
  | refused =>
    simp only [hp] at hin ⊢
    exact h.settled (.ended (.inr hin.2.2)) ⟨hin.1, hin.2.1⟩
  | calling =>
    simp only [hp] at hin ⊢
    exact h.frame s.context rfl id _ s.left (fun _ h => h) _
      ⟨by simp [hin.1], hin.2, List.suffix_rfl⟩
  | handling rest =>
    cases rest with
    | nil =>
      simp only [hp] at hin ⊢
      cases hc : s.sink.claimed with
      | true =>
        rw [claim_of_claimed hc]
        exact h.frame s.context rfl id s.calls _ (by simp [hin.2.1]) .waiting ⟨hin.1, rfl⟩
      | false =>
        rw [claim_of_unclaimed hc]
        exact h.claim hc _ (by simp [hin.2.1]) .abandoning fun hclaims =>
          ⟨hin.1, rfl, rfl, hclaims⟩
    | cons a rest => exact h.act hp (s.acts_act a rest)
  | dropping rest =>
    simp only [hp] at hin ⊢
    exact h.settled (.dropped hin.2.2.2.1 hin.2.2.2.2) ⟨hin.1, hin.2.1, hin.2.2.1⟩
  | ending rest =>
    simp only [hp] at hin ⊢
    exact h.settled (.ended (.inl hin.2.2.2)) ⟨hin.1, hin.2.1, hin.2.2.1⟩
  | raising e =>
    simp only [hp] at hin ⊢
    split
    · refine h.settled (.raised hin.2) ⟨hin.1, hin.2, fun _ => ?_⟩
      exact Option.isSome_iff_exists.mpr ⟨_, outcome_settle _ _⟩
    next hcaught =>
      exact h.frame s.context rfl id s.calls s.left (fun _ h => h) _
        ⟨hin.1, hin.2, fun he => absurd he hcaught⟩
  | abandoning =>
    simp only [hp] at hin ⊢
    exact h.settled (.dropped hin.2.2.1 hin.2.2.2) ⟨hin.1, hin.2.1⟩
  | waiting =>
    simp only [hp] at hin ⊢
    cases ho : s.sink.outcome with
    | none => exact h
    | some o =>
      cases o with
      | value v =>
        exact h.frame s.context rfl id s.calls s.left (fun _ h => h) _ ⟨hin.1, hin.2, ho⟩
      | status st =>
        exact h.frame s.context rfl id s.calls s.left (fun _ h => h) _ ⟨hin.1, hin.2, ho⟩
  | finished ending => exact h

/-! ### Steps of the others -/

/-- A delivery that was not sent moves on, perhaps with a change of the sink. -/
theorem Coherent.moved {s : Dispatch α} (h : s.Coherent) {i : ℕ} {d : Delivery α}
    (hi : s.deliveries[i]? = some d) (hd : d.stage ≠ .sent) {t : Dispatch α} {stage : DeliveryStage}
    (hdeliveries : t.deliveries = s.deliveries.set i ⟨d.send, stage⟩)
    (hl : (∀ d' ∈ s.deliveries, d'.stage = .sent → d' ∈ t.deliveries) → s.Later t)
    (hclaims : t.claims = s.claims) (hlooked : stage = .looked false → t.active = false)
    (hsent : stage = .sent → t.sink.outcome = some d.send.outcome)
    (houtcome : ∀ o, t.sink.outcome = some o → s.sink.outcome = some o ∨ t.Cause o)
    (hthread : t.phase = s.phase ∧ t.calls = s.calls ∧ t.left = s.left) : t.Coherent := by
  have hmem : d ∈ s.deliveries := List.mem_of_getElem? hi
  -- a delivery that was sent is another one, and stays at its place
  have hl : s.Later t := by
    refine hl fun d' hd' hs => ?_
    obtain ⟨j, hj⟩ := List.mem_iff_getElem?.mp hd'
    have hij : i ≠ j := by
      rintro rfl
      obtain rfl : d = d' := Option.some.inj (hi.symm.trans hj)
      exact hd hs
    rw [hdeliveries]
    exact List.mem_of_getElem? (by rwa [List.getElem?_set_ne hij])
  refine h.later hl hclaims (fun d' hd' => ?_) houtcome
    (h.phase.later hl hthread.1 hthread.2.1 hthread.2.2)
  rw [hdeliveries] at hd'
  rcases List.mem_or_eq_of_mem_set hd' with hd' | rfl
  · exact .inl hd'
  · have hf := (h.deliveries d hmem).later hl (h.claimed_of_mem hmem)
    exact .inr ⟨hf.claim, hlooked, hsent⟩

theorem Coherent.deliver {s : Dispatch α} (h : s.Coherent) {i : ℕ} {d : Delivery α}
    (hi : s.deliveries[i]? = some d) {t : Dispatch α} (ht : s.Delivers i d t) : t.Coherent := by
  have hmem : d ∈ s.deliveries := List.mem_of_getElem? hi
  cases ht with
  | looked hq =>
    refine h.moved hi (by simp [hq]) rfl (fun hs => ?_) rfl (fun hf => ?_) nofun
      (fun _ ho => .inl ho) ⟨rfl, rfl, rfl⟩
    · exact ⟨⟨rfl, rfl, rfl, rfl⟩, fun _ h => h, id, id, fun _ => rfl, fun _ h => h, hs⟩
    · exact DeliveryStage.looked.inj hf
  | sent hq ho =>
    refine h.moved hi (by simp [hq]) rfl (fun hs => ?_) rfl nofun (fun _ => rfl) (fun o ho' => ?_)
      ⟨rfl, rfl, rfl⟩
    · exact ⟨⟨rfl, rfl, rfl, rfl⟩, fun _ h => by simp [ho] at h, id, id, fun _ => rfl, fun _ h => h,
        hs⟩
    · obtain rfl : d.send.outcome = o := Option.some.inj ho'
      have hlt : i < s.deliveries.length := (List.getElem?_eq_some_iff.mp hi).1
      exact .inr (.sent (d := ⟨d.send, .sent⟩) (List.mem_set hlt _) rfl)
  | late hq e reports =>
    have hl := s.later_settled (.status Sink.lateStatus) s.phase
    refine h.moved hi (by simp [hq]) rfl (fun hs => ?_) rfl nofun nofun (fun o ho => ?_)
      ⟨rfl, rfl, rfl⟩
    · exact ⟨⟨rfl, rfl, rfl, hl.method⟩, hl.outcome, hl.active, hl.claimed, fun _ => rfl,
        fun _ h => h, hs⟩
    · rcases outcome_or_eq ho with ho | rfl
      · exact .inl ho
      · exact .inr (.late ((h.deliveries d hmem).looked hq))
  | completed hq e reports =>
    refine h.moved hi (by simp [hq]) rfl (fun hs => ?_) rfl nofun nofun (fun _ ho => .inl ho)
      ⟨rfl, rfl, rfl⟩
    exact ⟨⟨rfl, rfl, rfl, rfl⟩, fun _ h => h, id, id, fun _ => rfl, fun _ h => h, hs⟩
  | idle => exact h

/-- **The invariant is kept**, whoever takes the step. -/
theorem Coherent.step {s : Dispatch α} (h : s.Coherent) (e : Event) : (s.step e).Coherent := by
  cases e with
  | thread => exact h.thread
  | deliver i =>
    simp only [Dispatch.step]
    cases hi : s.deliveries[i]? with
    | none => exact h
    | some d => exact h.deliver hi (s.delivers_deliverStep i d)
  | hangUp =>
    have hl : s.Later (s.step .hangUp) :=
      ⟨⟨rfl, rfl, rfl, rfl⟩, fun _ h => h, fun _ => rfl, id, fun _ => rfl, fun _ h => h,
        fun _ h _ => h⟩
    exact h.frame { s.context with active := false } rfl (fun _ => rfl) s.calls s.left
      (fun _ h => h) s.phase (h.phase.later hl rfl rfl rfl)
  | notify =>
    simp only [Dispatch.step]
    split
    next hended =>
      have ha : s.active = false := by simp_all
      exact h.settled (.ended (.inl ha))
        (h.phase.later (s.later_settled (.status Sink.endedStatus) s.phase) rfl rfl rfl)
    next => exact h

theorem Coherent.run {s : Dispatch α} (h : s.Coherent) (es : List Event) : (s.run es).Coherent := by
  induction es generalizing s with
  | nil => exact h
  | cons e es ih => exact ih (h.step e)

/-! ### What the runs of the replies saw -/

/-- The run of this reply found the call active. -/
def Saw (d : Delivery α) : Prop := d.stage = .looked true ∨ d.stage = .sent

/-- The thread hands replies to the executor, and touches none that it handed over before. -/
theorem deliveries_thread (s : Dispatch α) :
    ∃ ds, s.thread.deliveries = s.deliveries ++ ds ∧ ∀ d ∈ ds, ¬ Saw d := by
  have hnone : ∃ ds : List (Delivery α), s.deliveries = s.deliveries ++ ds ∧ ∀ d ∈ ds, ¬ Saw d :=
    ⟨[], by simp, by simp⟩
  unfold Dispatch.thread
  cases s.phase with
  | refused | calling | dropping | ending | abandoning | finished => exact hnone
  | raising e =>
    dsimp only
    split <;> exact hnone
  | handling rest =>
    cases rest with
    | nil => exact hnone
    | cons a rest =>
      show ∃ ds, (s.act a rest).deliveries = s.deliveries ++ ds ∧ ∀ d ∈ ds, ¬ Saw d
      have ha := s.acts_act a rest
      generalize s.act a rest = t at ha
      cases ha with
      | claimed ho h ds hds =>
        refine ⟨ds, rfl, fun d hd => ?_⟩
        simp [hds d hd, Saw]
      | failed | noted | dropping | ended => exact hnone
  | waiting =>
    cases s.sink.outcome with
    | none => exact hnone
    | some o => cases o <;> exact hnone

/-- A step of a run moves one delivery on, and no other. -/
theorem Delivers.deliveries {s t : Dispatch α} {i : ℕ} {d : Delivery α} (h : s.Delivers i d t)
    (hi : s.deliveries[i]? = some d) :
    ∃ stage, t.deliveries = s.deliveries.set i ⟨d.send, stage⟩ ∧
      (Saw ⟨d.send, stage⟩ → Saw d ∨ d.stage = .queued ∧ s.active = true) := by
  cases h with
  | looked hq => exact ⟨_, rfl, fun hsaw => .inr ⟨hq, by simpa [Saw] using hsaw⟩⟩
  | sent hq => exact ⟨_, rfl, fun _ => .inl (.inl hq)⟩
  | late | completed => exact ⟨_, rfl, fun hsaw => by simp [Saw] at hsaw⟩
  | idle =>
    obtain ⟨hlt, rfl⟩ := List.getElem?_eq_some_iff.mp hi
    exact ⟨_, (List.set_getElem_self hlt).symm, .inl⟩

/-- A reply that saw the call active saw it before, or is looking just now. -/
theorem saw_step {s : Dispatch α} {e : Event} {i : ℕ} {d : Delivery α}
    (hi : (s.step e).deliveries[i]? = some d) (hd : Saw d) :
    (∃ d', s.deliveries[i]? = some d' ∧ d'.send = d.send ∧ Saw d') ∨
      e = .deliver i ∧ s.active = true ∧ s.deliveries[i]? = some ⟨d.send, .queued⟩ := by
  have hsame : s.deliveries[i]? = some d →
      (∃ d', s.deliveries[i]? = some d' ∧ d'.send = d.send ∧ Saw d') ∨
        e = .deliver i ∧ s.active = true ∧ s.deliveries[i]? = some ⟨d.send, .queued⟩ :=
    fun h => .inl ⟨d, h, rfl, hd⟩
  cases e with
  | thread =>
    obtain ⟨ds, hds, hsaw⟩ := s.deliveries_thread
    rw [step, hds, List.getElem?_append] at hi
    split at hi
    · exact hsame hi
    · exact absurd hd (hsaw d (List.mem_of_getElem? hi))
  | deliver j =>
    simp only [step] at hi
    cases hj : s.deliveries[j]? with
    | none => exact hsame (by simpa [hj] using hi)
    | some d' =>
      simp only [hj] at hi
      obtain ⟨stage, hset, hsaw⟩ := (s.delivers_deliverStep j d').deliveries hj
      rw [hset] at hi
      by_cases hij : j = i
      · subst hij
        obtain rfl : ⟨d'.send, stage⟩ = d := by
          simpa [List.getElem?_set_self (List.getElem?_eq_some_iff.mp hj).1] using hi
        rcases hsaw hd with hd' | ⟨hq, ha⟩
        · exact .inl ⟨d', hj, rfl, hd'⟩
        · exact .inr ⟨rfl, ha, by rw [hj, ← hq]⟩
      · exact hsame (by rwa [List.getElem?_set_ne hij] at hi)
  | hangUp => exact hsame hi
  | notify =>
    simp only [step] at hi
    split at hi <;> exact hsame hi

/-- **A reply that was sent found the call active**: the run of the reply began at a moment of the
history when the call had not ended. -/
theorem exists_look {s : Dispatch α} (hs : s.deliveries = []) {es : List Event} {i : ℕ}
    {d : Delivery α} (hi : (s.run es).deliveries[i]? = some d) (hd : Saw d) :
    ∃ before after, es = before ++ .deliver i :: after ∧ (s.run before).active = true ∧
      (s.run before).deliveries[i]? = some ⟨d.send, .queued⟩ := by
  induction es using List.reverseRecOn generalizing d with
  | nil => simp [hs] at hi
  | append_singleton es e ih =>
    rw [run_append] at hi
    rcases saw_step hi hd with ⟨d', hi', hsend, hd'⟩ | ⟨rfl, ha, hq⟩
    · obtain ⟨before, after, rfl, ha, hq⟩ := ih hi' hd'
      exact ⟨before, after ++ [e], by simp, ha, hsend ▸ hq⟩
    · exact ⟨es, [], rfl, ha, hq⟩

/-! ### How a call ends -/

/-- The one reply that was claimed in a history, for this outcome, was sent by a run that found the
call active. -/
def Replied (s : Dispatch α) (es : List Event) (o : Outcome α) : Prop :=
  (∃ a ∈ s.handler, (s.run es).claims = [a] ∧ a.reply? s.request = some o) ∧
    ∃ i before after, es = before ++ .deliver i :: after ∧ (s.run before).active = true ∧
      (s.run before).deliveries[i]? = some ⟨⟨o⟩, .queued⟩

/-- A cancelled call has ended, or nobody could be told that it will. -/
def Cancelled (t : Dispatch α) (status : Status) : Prop :=
  (status = Sink.lateStatus ∨ status = Sink.endedStatus) ∧ (t.active = false ∨ t.watched = false)

/-- Why a history that began with no reply ends with an outcome, if the handler did not fail. -/
theorem Coherent.replied_or {s : Dispatch α} (h : s.Coherent) (hs : s.deliveries = [])
    {es : List Event} {o : Outcome α} (ho : (s.run es).sink.outcome = some o)
    (hleft : ∀ e, (s.run es).left ≠ some (.error e)) :
    s.Replied es o ∨
      o = .status (Sink.droppedStatus s.sink.method) ∧ (s.run es).claims = [] ∨
      ∃ status, o = .status status ∧ (s.run es).Cancelled status := by
  have hsame := s.same_run es
  cases (h.run es).outcome o ho with
  | sent hd hsent =>
    obtain ⟨i, hi⟩ := List.mem_iff_getElem?.mp hd
    obtain ⟨before, after, hes, hactive, hq⟩ := exists_look hs hi (.inr hsent)
    obtain ⟨a, ha, hclaims, hreply⟩ := ((h.run es).deliveries _ hd).claim
    rw [hsame.handler] at ha
    rw [hsame.request] at hreply
    exact .inl ⟨⟨a, ha, hclaims, hreply⟩, i, before, after, hes, hactive, hq⟩
  | dropped hc hclaims => exact .inr (.inl ⟨by rw [hsame.method], hclaims⟩)
  | late ha => exact .inr (.inr ⟨_, rfl, .inl rfl, .inl ha⟩)
  | ended he => exact .inr (.inr ⟨_, rfl, .inr rfl, he⟩)
  | raised he => exact absurd he (hleft _)

/-- **How every call ends that comes to an end**, whatever its handler does, whenever its replies
run and whenever the other side ends the call. Only where the program was to stop in the handler,
the sink may be left without an outcome. -/
theorem ending_of_history (method : String) (active : Bool) (hook : Hook) (executor : Executor)
    (watchable : Bool) (note : Observer) (handler : Handler α) (request : α) (es : List Event)
    (ending : Ending α) :
    let s := start (.new method active hook executor) watchable note handler request
    let t := s.run es
    t.phase = .finished ending →
      t.calls = [request] ∧
      (∀ e, t.left = some (.error e) →
        ending = .raised e ∧ (e.isCaught = true → t.sink.completed = true)) ∧
      ((∀ e, t.left ≠ some (.error e)) →
        ((∃ v, ending = .returned v) ∨ ∃ status, ending = .aborted status) ∧
        (∀ v, ending = .returned v ↔ t.sink.outcome = some (.value v)) ∧
        (∀ v, ending = .returned v → s.Replied es (.value v)) ∧
        (∀ status, ending = .aborted status ↔ t.sink.outcome = some (.status status)) ∧
        (∀ status, ending = .aborted status →
          s.Replied es (.status status) ∨
          status = Sink.droppedStatus method ∧ t.claims = [] ∨
          t.Cancelled status)) := by
  intro s t hphase
  have hs : s.Coherent := coherent_start method active hook executor watchable note handler request
  obtain ⟨hcalls, hends⟩ : t.calls = [t.request] ∧ t.Ends ending := by
    have := (hs.run es).phase
    rwa [InPhase, hphase] at this
  have hrequest : t.request = request := (s.same_run es).request
  have hcause : ∀ o, t.sink.outcome = some o → (∀ e, t.left ≠ some (.error e)) →
      s.Replied es o ∨ o = .status (Sink.droppedStatus method) ∧ t.claims = [] ∨
        ∃ status, o = .status status ∧ t.Cancelled status :=
    fun o ho hleft => hs.replied_or rfl ho hleft
  refine ⟨by rw [hcalls, hrequest], fun e he => ?_, fun hleft => ?_⟩
  · cases ending with
    | raised e' =>
      obtain rfl : e' = e := by simpa [hends.1] using he
      exact ⟨rfl, hends.2⟩
    | returned v => simp [hends.1] at he
    | aborted status => simp [hends.1] at he
    | waiting => exact hends.elim
  · cases ending with
    | raised e' => exact absurd hends.1 (hleft e')
    | returned v =>
      refine ⟨.inl ⟨v, rfl⟩, fun v' => ?_, fun v' hv => ?_, fun status => ?_, nofun⟩
      · rw [hends.2]
        simp
      · obtain rfl : v = v' := by simpa using hv
        simpa using hcause _ hends.2 hleft
      · rw [hends.2]
        simp
    | aborted status =>
      refine ⟨.inr ⟨status, rfl⟩, fun v => ?_, nofun, fun status' => ?_, fun status' hst => ?_⟩
      · rw [hends.2]
        simp
      · rw [hends.2]
        simp
      · obtain rfl : status = status' := by simpa using hst
        simpa using hcause _ hends.2 hleft
    | waiting => exact hends.elim

/-- The other side hangs up after the reply looked at the call, and the reply still is returned. -/
theorem ending_of_history_echo :
    let s := start (.new "echo" true .log .immediate) true ⟨"notes"⟩ [.echo, .drop] 7
    let es : List Event := [.thread, .thread, .deliver 0, .hangUp, .deliver 0, .notify, .thread,
      .thread, .thread]
    (s.run es).phase = .finished (.returned 7) ∧ s.Replied es (.value 7) := by
  intro s es
  have hphase : (s.run es).phase = .finished (.returned 7) := rfl
  have hleft : (s.run es).left = some (.ok ()) := rfl
  have h := (ending_of_history "echo" true .log .immediate true ⟨"notes"⟩ [.echo, .drop] 7 es
    (.returned 7) hphase).2.2 fun e => hleft ▸ nofun
  exact ⟨hphase, h.2.2.1 7 rfl⟩

/-- The program is to stop in the handler, and the sink is left as it was. -/
theorem ending_of_stop :
    let t := (start (.new "echo" true .log .immediate) true ⟨"notes"⟩ [.stop "exit"] 7).run
      [.thread, .thread, .thread]
    t.phase = .finished (.raised (.stopped "exit")) ∧ t.left = some (.error (.stopped "exit")) ∧
      t.sink.completed = false :=
  ⟨rfl, rfl, rfl⟩

end Dispatch

end Call

end ServiceStubs
