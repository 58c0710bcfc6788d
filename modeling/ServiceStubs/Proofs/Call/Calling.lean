import Mathlib.Data.List.Basic
import ServiceStubs.Call.Client
import ServiceStubs.Proofs.Wire.InStep
import ServiceStubs.Proofs.Wire.Message

/-!
# Calls that do not disturb each other

A client keeps the callables that it made, of each kind under their paths, and all later calls use
them. A callable writes and reads with the codecs that it was made with, not with those of the
method that is called, so two methods of one path could get in each other's way. Where all methods
use the codec of messages, they do not: what a client keeps for a kind and a path is determined by
the two (`Client.Knows`), whichever calls were made and whether they failed or not.

So what a call sends and what it comes to can be said without the calls before it
(`Exchange.sent`, `Exchange.result`). Only the first call of a kind and path makes a callable.

## Main definitions

* `Exchange`: a call with what comes over the channel
* `Exchange.sent`, `Exchange.result`: what a call sends and comes to
* `Client.perform`, `Client.after`, `Client.traffic`: calls on one client
* `Client.Knows`: the invariant

## Main statements

* `Client.Knows.perform`, `Client.Knows.after`: the invariant and its preservation
* `Client.calls_apart`: what holds of every call, after all sequences of calls
-/

namespace ServiceStubs

namespace Call

variable {ω : Type}

/-! ### Calls -/

/-- What a client is asked for when it makes a call. -/
structure Asking (ω : Type) where
  procedure : Procedure
  /-- The messages that are known, and the objects that there are. -/
  registry : Wire.Registry
  store : Wire.Store
  value : Wire.Ref
  options : ω

/-- A call, with what comes over the channel for a request that is sent. -/
inductive Exchange (ω : Type)
  | unary (q : Asking ω) (answer : SentRequest ω → Reply)
  | stream (q : Asking ω) (answers : SentRequest ω → List Reply)

/-- What a call comes to: a value, or the receiving end of its replies. -/
inductive Returned
  | value (r : Except ReplyError (Wire.Ref × Wire.Store))
  | receiver (r : Except ReplyError Receiver)

namespace Exchange

/-- The kind of callable that a call needs. -/
def kind : Exchange ω → CallableKind
  | unary _ _ => .unary
  | stream _ _ => .stream

/-- What is asked for. -/
def asking : Exchange ω → Asking ω
  | unary q _ => q
  | stream q _ => q

/-- The callable that a call needs, of its own kind and path. -/
def target (x : Exchange ω) : Callable := ⟨x.kind, x.asking.procedure.path⟩

/-- Whether the requests and replies of a call are messages. -/
def OfMessages (x : Exchange ω) : Prop :=
  x.asking.procedure.requests = .messages ∧ x.asking.procedure.replies = .messages

/-- The request that a call sends, if it can be written: the message of its value, on its own
callable and with its own options. -/
def sent (x : Exchange ω) : Except Wire.CodecError (SentRequest ω) :=
  (Wire.serialize x.asking.registry x.asking.store x.asking.value []).map fun message =>
    ⟨x.target, message, x.asking.options⟩

/-- What a unary call makes of what comes over the channel. -/
def received (q : Asking ω) : Reply → Except ReplyError (Wire.Ref × Wire.Store)
  | .error e => .error e
  | .ok bytes => (Wire.deserialize q.registry q.store bytes).mapError .codec

/-- What a call comes to. -/
def result (x : Exchange ω) : Returned :=
  match x with
  | unary q answer =>
    .value (x.sent.mapError .codec >>= fun request => received q (answer request))
  | stream _ answers =>
    .receiver ((x.sent.mapError .codec).map fun request => ⟨.messages, answers request⟩)

end Exchange

namespace Client

/-- One call of a client. -/
def perform (c : Client) : Exchange ω → Returned × Traffic ω × Client
  | .unary q answer =>
    let (r, traffic, c) := c.unaryCall q.registry q.store q.procedure q.value q.options answer
    (.value r, traffic, c)
  | .stream q answers =>
    let (r, traffic, c) :=
      c.serverStreaming q.registry q.store q.procedure q.value q.options answers
    (.receiver r, traffic, c)

/-- A client after calls, one after the other. -/
def after (c : Client) (xs : List (Exchange ω)) : Client :=
  xs.foldl (fun c x => (c.perform x).2.2) c

@[simp] theorem after_nil (c : Client) : c.after ([] : List (Exchange ω)) = c := rfl

@[simp] theorem after_cons (c : Client) (x : Exchange ω) (xs : List (Exchange ω)) :
    c.after (x :: xs) = (c.perform x).2.2.after xs := rfl

/-- What the calls of a client did on the channel. -/
def traffic (c : Client) : List (Exchange ω) → List (Traffic ω)
  | [] => []
  | x :: xs => (c.perform x).2.1 :: (c.perform x).2.2.traffic xs

/-! ### The callables that are kept -/

/-- A callable that writes and reads messages. -/
def messageStub (t : Callable) : Stub := ⟨t, .messages, .messages⟩

/-- A client keeps the callables that were used, all of them for messages. -/
def Knows (c : Client) (used : List Callable) : Prop :=
  ∀ kind path, (c.stubs kind).lookup path =
    if (⟨kind, path⟩ : Callable) ∈ used then some (messageStub ⟨kind, path⟩) else none

theorem knows_new : new.Knows [] := by
  intro kind path
  cases kind <;> rfl

theorem stubs_keep (c : Client) (kind kind' : CallableKind) (path : String) (stub : Stub) :
    (c.keep kind path stub).stubs kind' =
      if kind' = kind then c.stubs kind' ++ [(path, stub)] else c.stubs kind' := by
  cases kind <;> cases kind' <;> rfl

/-- A callable that is used once more is kept as it is. -/
theorem Knows.append_of_mem {c : Client} {used : List Callable} (h : c.Knows used) {t : Callable}
    (ht : t ∈ used) : c.Knows (used ++ [t]) := by
  intro kind path
  rw [h kind path]
  refine if_congr ?_ rfl rfl
  rw [List.mem_append, List.mem_singleton]
  exact ⟨.inl, fun h => h.elim id fun he => he ▸ ht⟩

/-- A callable that is used for the first time is kept from then on. -/
theorem Knows.keep {c : Client} {used : List Callable} (h : c.Knows used) {t : Callable}
    (ht : t ∉ used) : (c.keep t.kind t.path (messageStub t)).Knows (used ++ [t]) := by
  intro kind path
  rw [stubs_keep]
  by_cases hkind : kind = t.kind
  · subst hkind
    rw [if_pos rfl, List.lookup_append, h t.kind path]
    by_cases hpath : path = t.path
    · subst hpath
      simp [ht]
    · have hne : (⟨t.kind, path⟩ : Callable) ≠ t := fun he => hpath (congrArg Callable.path he)
      have hfar : (path == t.path) = false := by simpa using hpath
      simp [List.lookup, hfar, hne]
  · have hne : (⟨kind, path⟩ : Callable) ≠ t := fun he => hkind (congrArg Callable.kind he)
    simp [hkind, h kind path, hne]

/-- The callable for a method of messages: the one for its kind and path, made at the first use. -/
theorem Knows.stubFor {c : Client} {used : List Callable} (h : c.Knows used)
    (kind : CallableKind) {p : Procedure}
    (hp : p.requests = .messages ∧ p.replies = .messages) :
    ∃ c', c.stubFor kind p =
        (if (⟨kind, p.path⟩ : Callable) ∈ used then none else some ⟨kind, p.path⟩,
          messageStub ⟨kind, p.path⟩, c') ∧
      c'.Knows (used ++ [⟨kind, p.path⟩]) := by
  have hlookup := h kind p.path
  by_cases ht : (⟨kind, p.path⟩ : Callable) ∈ used
  · rw [if_pos ht] at hlookup
    exact ⟨c, by simp [Client.stubFor, hlookup, ht], h.append_of_mem ht⟩
  · rw [if_neg ht] at hlookup
    refine ⟨_, ?_, h.keep ht⟩
    simp [Client.stubFor, hlookup, ht, hp, messageStub]

/-! ### One call -/

theorem send_messageStub (x : Exchange ω) :
    (messageStub x.target).send x.asking.registry x.asking.store x.asking.value
      x.asking.options = x.sent := rfl

/-- A reply is read into a box, so that a message of nothing is a value like any other. -/
theorem read_messages (q : Asking ω) (r : Reply) :
    r.read .messages q.registry q.store = Exchange.received q r := by
  cases r with
  | error e => rfl
  | ok bytes =>
    simp only [Reply.read, Reply.receive, Marshaller.deserializeBoxed, Marshaller.messages,
      Exchange.received]
    cases Wire.deserialize q.registry q.store bytes <;> rfl

/-- **One call**, on a client that made calls before: it comes to what it comes to by itself, sends
what it sends by itself, and makes its callable if that was not used before. -/
theorem Knows.perform {c : Client} {used : List Callable} (h : c.Knows used) {x : Exchange ω}
    (hx : x.OfMessages) :
    ∃ c', c.perform x =
        (x.result, ⟨if x.target ∈ used then none else some x.target, x.sent.toOption⟩, c') ∧
      c'.Knows (used ++ [x.target]) := by
  obtain ⟨c', hstub, hc'⟩ := h.stubFor x.kind hx
  refine ⟨c', ?_, hc'⟩
  have hsend := send_messageStub x
  cases x with
  | unary q answer =>
    simp only [Exchange.kind, Exchange.asking] at hstub hsend
    simp only [Client.perform, unaryCall, hstub, Exchange.result]
    simp only [Exchange.target, Exchange.kind, Exchange.asking] at hsend ⊢
    rw [hsend]
    cases (Exchange.unary q answer).sent with
    | error e => rfl
    | ok request => simp only [messageStub, read_messages]; rfl
  | stream q answers =>
    simp only [Exchange.kind, Exchange.asking] at hstub hsend
    simp only [Client.perform, serverStreaming, hstub, Exchange.result]
    simp only [Exchange.target, Exchange.kind, Exchange.asking] at hsend ⊢
    rw [hsend]
    cases (Exchange.stream q answers).sent with
    | error e => rfl
    | ok request => rfl

/-! ### All calls -/

theorem Knows.after {c : Client} {used : List Callable} (h : c.Knows used)
    {xs : List (Exchange ω)} (hxs : ∀ x ∈ xs, x.OfMessages) :
    (c.after xs).Knows (used ++ xs.map (·.target)) := by
  induction xs generalizing c used with
  | nil => simpa using h
  | cons x xs ih =>
    obtain ⟨c', hx, hc'⟩ := h.perform (hxs x (by simp))
    simpa [hx] using ih hc' fun y hy => hxs y (by simp [hy])

/-- The callables that calls make. -/
def created (c : Client) (xs : List (Exchange ω)) : List Callable :=
  (c.traffic xs).filterMap (·.created)

/-- Callables that were used before are not made again, and the others are made once. -/
theorem Knows.created {c : Client} {used : List Callable} (h : c.Knows used)
    {xs : List (Exchange ω)} (hxs : ∀ x ∈ xs, x.OfMessages) :
    (c.created xs).Nodup ∧
      ∀ t, t ∈ c.created xs ↔ t ∈ xs.map (·.target) ∧ t ∉ used := by
  induction xs generalizing c used with
  | nil => simp [Client.created, traffic]
  | cons x xs ih =>
    obtain ⟨c', hx, hc'⟩ := h.perform (hxs x (by simp))
    obtain ⟨hnodup, hmem⟩ := ih hc' fun y hy => hxs y (by simp [hy])
    by_cases hused : x.target ∈ used
    · have hcreated : c.created (x :: xs) = c'.created xs := by
        simp [Client.created, traffic, hx, hused]
      rw [hcreated]
      refine ⟨hnodup, fun t => ?_⟩
      rw [hmem t]
      grind
    · have hcreated : c.created (x :: xs) = x.target :: c'.created xs := by
        simp [Client.created, traffic, hx, hused]
      rw [hcreated, List.nodup_cons]
      refine ⟨⟨fun h => ((hmem _).mp h).2 (by simp), hnodup⟩, fun t => ?_⟩
      rw [List.mem_cons, hmem t]
      grind

/-- **Calls do not disturb each other.** Whichever calls of methods of messages a client made
before, of whatever kinds and paths, and whether they failed or not:

* a call comes to what it comes to by itself: it fails if its request cannot be written, a unary
  call returns the value of the message that comes over the channel, nothing among them, and a
  streaming one the receiving end of its replies;
* it sends its request exactly if that can be written: the message of its own value, on the callable
  of its own kind and path, with its own options;
* it makes that callable if no call before it used it. So all calls together make a callable for
  each kind and path that is used, and no second one. -/
theorem calls_apart {before : List (Exchange ω)} {x : Exchange ω}
    (hmessages : ∀ y ∈ before ++ [x], y.OfMessages) :
    let c := new.after before
    (c.perform x).1 = x.result ∧
      (c.perform x).2.1.sent = x.sent.toOption ∧
      (c.perform x).2.1.created =
        (if x.target ∈ before.map (·.target) then none else some x.target) ∧
      (new.created (before ++ [x])).Nodup ∧
      ∀ t, t ∈ new.created (before ++ [x]) ↔ t ∈ (before ++ [x]).map (·.target) := by
  intro c
  have hc : c.Knows (before.map (·.target)) := by
    simpa using knows_new.after fun y hy => hmessages y (by simp [hy])
  obtain ⟨c', hperform, -⟩ := hc.perform (hmessages x (by simp))
  have hcreated := knows_new.created hmessages
  rw [hperform]
  exact ⟨rfl, rfl, rfl, hcreated.1, fun t => by simpa using hcreated.2 t⟩

/-- An empty tuple, which can be written, and an object that cannot. -/
def askingStore : Wire.Store := ⟨#[.tuple [], .locked]⟩

/-- A call for a method of messages that knows no classes. -/
def askingFor (name : String) (value : Wire.Ref) (options : ℕ) : Asking ℕ :=
  ⟨(Method.mk .unary name).procedure, .empty 100, askingStore, value, options⟩

theorem serialize_emptyTuple :
    Wire.serialize (.empty 100) askingStore 0 [] = .ok [0x80, 5, 0x29, 0x2e] := by
  have hwrites : (Wire.Writer.object (.empty 100) askingStore 100 0).run .empty =
      .ok ([.start, .instruction .emptyTuple], .empty) := by
    rw [Wire.Writer.object_succ 99 (o := .tuple []) rfl nofun]
    simp only [Wire.Writer.begin_, Wire.Writer.both, Wire.Writer.fetchOr, Wire.Writer.body,
      Wire.Writer.emit, Wire.Writer.empty, Wire.Object.identity]
    simp [StateT.run, StateT.bind, StateT.pure, bind, pure, get, getThe, MonadStateOf.get,
      StateT.get, Except.bind, Except.pure, Wire.Writer.one]
  have hmessage : Wire.messageOf [.start, .instruction .emptyTuple] =
      [0x80, 5, 0x29, 0x2e] := by
    simp only [Wire.messageOf, Wire.framed, Wire.framedFrom, Wire.Writer.one, List.cons_append,
      List.nil_append, Wire.Instruction.form]
    rfl
  exact (Wire.serialize_eq hwrites _).2
    ⟨⟨by decide, by rw [hmessage]; decide⟩, hmessage.symm⟩

/-- A call whose request cannot be written, a streaming call of the same path, and the call of a
method that returns nothing. -/
theorem calls_apart_ping :
    let failing : Exchange ℕ := .unary (askingFor "Ping" 1 10) fun _ => .error .noReply
    let streaming : Exchange ℕ := .stream (askingFor "Ping" 0 20) fun _ => []
    let x : Exchange ℕ := .unary (askingFor "Ping" 0 30) fun _ => .ok [0x80, 5, 0x4e, 0x2e]
    let c := new.after [failing, streaming]
    (∀ y ∈ [failing, streaming] ++ [x], y.OfMessages) ∧
      (c.perform x).1 = .value (.ok (2, ⟨#[.tuple [], .locked, .none]⟩)) ∧
      (c.perform x).2.1.sent = some ⟨⟨.unary, "/Ping"⟩, [0x80, 5, 0x29, 0x2e], 30⟩ ∧
      (c.perform x).2.1.created = none := by
  intro failing streaming x c
  have hmessages : ∀ y ∈ [failing, streaming] ++ [x], y.OfMessages := by
    intro y hy
    simp only [List.cons_append, List.nil_append, List.mem_cons, List.not_mem_nil, or_false] at hy
    rcases hy with rfl | rfl | rfl <;> exact ⟨rfl, rfl⟩
  have hsent : x.sent = .ok ⟨⟨.unary, "/Ping"⟩, [0x80, 5, 0x29, 0x2e], 30⟩ := by
    rw [Exchange.sent, show Wire.serialize x.asking.registry x.asking.store x.asking.value [] =
      .ok [0x80, 5, 0x29, 0x2e] from serialize_emptyTuple]
    rfl
  have hresult : x.result = .value (.ok (2, ⟨#[.tuple [], .locked, .none]⟩)) := by
    simp only [Exchange.result, x] at hsent ⊢
    rw [hsent]
    rfl
  obtain ⟨hreturned, hrequest, hcreated, -⟩ := calls_apart hmessages
  rw [hresult] at hreturned
  rw [hsent] at hrequest
  exact ⟨hmessages, hreturned, hrequest, hcreated⟩

end Client

end Call

end ServiceStubs
