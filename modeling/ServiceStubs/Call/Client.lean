import ServiceStubs.Call.Service
import ServiceStubs.Wire.Codec

/-!
# Calling methods

A client makes calls over a channel. For each path and kind of call it makes one callable on the
channel, at the first use, and keeps it. The callable writes requests and reads replies with the
codecs of the method that it was made for. A request is sent with the options of its call; each
reply is read when it is asked for.

What the channel does between the two is not part of a client. It is given to a call, as the
replies that come to the request that was sent.

## Main definitions

* `Marshaller`, `Procedure`: methods with their codecs
* `Client`, `Stub`: a client and the callables that it keeps
* `Client.unaryCall`, `Client.serverStreaming`: one call
* `Reply`, `Receiver`: the replies of a call
-/

namespace ServiceStubs

namespace Call

/-! ## Codecs -/

/-- How values are written behind what is in a buffer, and read. -/
structure Marshaller where
  write : Wire.Registry → Wire.Store → Wire.Ref → List UInt8 →
    Except Wire.CodecError (List UInt8)
  read : Wire.Registry → Wire.Store → List UInt8 →
    Except Wire.CodecError (Wire.Ref × Wire.Store)

/-- A value in a box. -/
structure Boxed where
  value : Wire.Ref
  deriving DecidableEq, Repr

namespace Marshaller

/-- The codec of messages. -/
def messages : Marshaller := ⟨Wire.serialize, Wire.deserialize⟩

/-- Writes a value to an empty buffer. -/
def serialize (m : Marshaller) (g : Wire.Registry) (s : Wire.Store) (r : Wire.Ref) :
    Except Wire.CodecError (List UInt8) :=
  m.write g s r []

/-- Reads a value into a box. A channel takes the absence of a value for a message that could not be
read, and the box of an absent value is not absent. -/
def deserializeBoxed (m : Marshaller) (g : Wire.Registry) (s : Wire.Store) (bytes : List UInt8) :
    Except Wire.CodecError (Option Boxed × Wire.Store) :=
  (m.read g s bytes).map fun (v, s) => (some ⟨v⟩, s)

end Marshaller

/-- A method with the codecs of its requests and replies. -/
structure Procedure extends Method where
  requests : Marshaller
  replies : Marshaller

/-- A method whose requests and replies are messages. -/
def Method.procedure (m : Method) : Procedure := ⟨m, .messages, .messages⟩

/-! ## Replies -/

/-- Why there is no reply. -/
inductive ReplyError
  /-- The other side failed. -/
  | remote (message : String)
  | codec (e : Wire.CodecError)
  /-- The channel found no value in a reply. -/
  | absent
  /-- The call ended without a reply. -/
  | noReply
  /-- There are no more replies. -/
  | exhausted
  deriving DecidableEq, Repr

/-- What is said about a missing reply. -/
def ReplyError.text : ReplyError → WideText
  | remote message => message
  | codec e => e.text
  | absent => "Exception deserializing response!"
  | noReply => "the call ended without a reply"
  | exhausted => ""

/-- What comes over the channel: a message or an error. -/
abbrev Reply := Except ReplyError (List UInt8)

/-- What a channel makes of a reply, with a deserializer. -/
def Reply.receive (r : Reply)
    (deserializer : List UInt8 → Except Wire.CodecError (Option Boxed × Wire.Store)) :
    Except ReplyError (Boxed × Wire.Store) :=
  match r with
  | .error e => .error e
  | .ok bytes =>
    match deserializer bytes with
    | .error e => .error (.codec e)
    | .ok (none, _) => .error .absent
    | .ok (some box, s) => .ok (box, s)

/-- The value of a reply. -/
def Reply.read (r : Reply) (m : Marshaller) (g : Wire.Registry) (s : Wire.Store) :
    Except ReplyError (Wire.Ref × Wire.Store) :=
  (r.receive (m.deserializeBoxed g s)).map fun (box, s) => (box.value, s)

/-- The receiving end of a call, by the replies that are still to come. -/
structure Receiver where
  codec : Marshaller
  replies : List Reply

namespace Receiver

/-- The next reply, which is used up even if it cannot be read. `missing` is the error if there is
none. -/
def nextOr (missing : ReplyError) (g : Wire.Registry) (s : Wire.Store) (r : Receiver) :
    Except ReplyError (Wire.Ref × Wire.Store) × Receiver :=
  match r.replies with
  | [] => (.error missing, r)
  | reply :: others => (reply.read r.codec g s, ⟨r.codec, others⟩)

/-- The next reply. -/
def next := nextOr .exhausted

/-- The first of the replies to come, which must be there. -/
def result := nextOr .noReply

/-- All replies to come, up to the first that cannot be read. -/
def allOf (m : Marshaller) (g : Wire.Registry) (s : Wire.Store) :
    List Reply → Except ReplyError (List Wire.Ref × Wire.Store) × Receiver
  | [] => (.ok ([], s), ⟨m, []⟩)
  | reply :: others =>
    match reply.read m g s with
    | .error e => (.error e, ⟨m, others⟩)
    | .ok (v, s) =>
      let (rest, r) := allOf m g s others
      (rest.map fun (vs, s) => (v :: vs, s), r)

/-- All replies to come. -/
def all (g : Wire.Registry) (s : Wire.Store) (r : Receiver) :
    Except ReplyError (List Wire.Ref × Wire.Store) × Receiver :=
  allOf r.codec g s r.replies

end Receiver

/-! ## Clients -/

/-- The kinds of callables. -/
inductive CallableKind
  | unary
  | stream
  deriving DecidableEq, Repr

/-- A callable of a channel. -/
structure Callable where
  kind : CallableKind
  path : String
  deriving DecidableEq, Repr

/-- A callable with the codecs that it was made with. -/
structure Stub where
  callable : Callable
  requests : Marshaller
  replies : Marshaller

/-- A request that was sent. -/
structure SentRequest (ω : Type) where
  callable : Callable
  message : List UInt8
  options : ω
  deriving DecidableEq, Repr

/-- What is sent for a request. -/
def Stub.send {ω : Type} (stub : Stub) (g : Wire.Registry) (s : Wire.Store) (value : Wire.Ref)
    (options : ω) : Except Wire.CodecError (SentRequest ω) :=
  (stub.requests.serialize g s value).map fun message => ⟨stub.callable, message, options⟩

/-- What a call did on the channel: the callable that it made and the request that it sent. -/
structure Traffic (ω : Type) where
  created : Option Callable
  sent : Option (SentRequest ω)
  deriving DecidableEq, Repr

/-- A client, by the callables that it made of each kind, under their paths. -/
structure Client where
  unary : List (String × Stub)
  stream : List (String × Stub)

namespace Client

/-- A client that made no call. -/
def new : Client := ⟨[], []⟩

/-- The callables of a kind. -/
def stubs (c : Client) : CallableKind → List (String × Stub)
  | .unary => c.unary
  | .stream => c.stream

/-- Keeps a callable of a kind under a path. -/
def keep (c : Client) (kind : CallableKind) (path : String) (stub : Stub) : Client :=
  match kind with
  | .unary => { c with unary := c.unary ++ [(path, stub)] }
  | .stream => { c with stream := c.stream ++ [(path, stub)] }

/-- The callable of a kind for a method, which is made unless there is one for its path. -/
def stubFor (c : Client) (kind : CallableKind) (p : Procedure) :
    Option Callable × Stub × Client :=
  match (c.stubs kind).lookup p.path with
  | some stub => (none, stub, c)
  | none =>
    let stub : Stub := ⟨⟨kind, p.path⟩, p.requests, p.replies⟩
    (some stub.callable, stub, c.keep kind p.path stub)

/-- Calls a method and waits for the reply. The callable is made even if the request cannot be
written. `answer` is what comes over the channel when a request was sent. -/
def unaryCall {ω : Type} (c : Client) (g : Wire.Registry) (s : Wire.Store) (p : Procedure)
    (value : Wire.Ref) (options : ω) (answer : SentRequest ω → Reply) :
    Except ReplyError (Wire.Ref × Wire.Store) × Traffic ω × Client :=
  let (created, stub, c) := c.stubFor .unary p
  match stub.send g s value options with
  | .error e => (.error (.codec e), ⟨created, none⟩, c)
  | .ok request => ((answer request).read stub.replies g s, ⟨created, some request⟩, c)

/-- Calls a method without waiting for its replies. -/
def serverStreaming {ω : Type} (c : Client) (g : Wire.Registry) (s : Wire.Store) (p : Procedure)
    (value : Wire.Ref) (options : ω) (answers : SentRequest ω → List Reply) :
    Except ReplyError Receiver × Traffic ω × Client :=
  let (created, stub, c) := c.stubFor .stream p
  match stub.send g s value options with
  | .error e => (.error (.codec e), ⟨created, none⟩, c)
  | .ok request => (.ok ⟨stub.replies, answers request⟩, ⟨created, some request⟩, c)

end Client

end Call

end ServiceStubs
