import ServiceStubs.Wire.Machine
import ServiceStubs.Wire.Writer

/-!
# Messages

A message is written into an empty buffer and read from bytes, of which those behind its end are
left alone. What cannot be written or read is an error of the codec. Only the error that says that
the writing went too deep is none of the codec's own: it is raised in its stead.

## Main definitions

* `serialize`: writes an object
* `deserialize`, `deserializeLogged`: reads an object, and tells what the machine did for it
* `CodecError.text`: what is said about a failure
-/

namespace ServiceStubs

namespace Wire

/-- Why a message was not written or read. -/
inductive CodecError
  | bufferInUse (length : Nat)
  | unwritable
  /-- The program calls itself too often. -/
  | tooDeep
  | unreadable (cause : ReadError)
  deriving DecidableEq, Repr

/-- What is said about a failure. -/
def CodecError.text : CodecError → WideText
  | bufferInUse length => s!"serialize buffer must be empty, it holds {length} byte(s)"
  | unwritable => "serialize message failed"
  | tooDeep => "maximum recursion depth exceeded while pickling an object"
  | unreadable .malformed => "deserializing message from buffer failed"
  | unreadable (.unregistered name) =>
    ⟨("deserializing message from buffer failed: `" : WideText).points ++ name.1.points ++
      ("." : WideText).points ++ name.2.points ++
        ("` is not a registered message type" : WideText).points⟩

/-- Writes an object into a buffer, which must be empty. The result is the new buffer. -/
def serialize (g : Registry) (s : Store) (r : Ref) (buffer : List UInt8) :
    Except CodecError (List UInt8) :=
  if !buffer.isEmpty then .error (.bufferInUse buffer.length)
  else match s.message g r with
    | .ok message => .ok message
    | .error .unwritable => .error .unwritable
    | .error .tooDeep => .error .tooDeep

/-- Reads an object from bytes, into a store that may hold others. The log comes with the
result. -/
def deserializeLogged (g : Registry) (s : Store) (bytes : List UInt8) :
    Except CodecError (Ref × Store) × Log :=
  let (result, log) := Machine.run g (bytes.length + 1) (.ofBytes bytes) (.start s) []
  (result.mapError .unreadable, log)

/-- Reads an object from bytes, into a store that may hold others. -/
def deserialize (g : Registry) (s : Store) (bytes : List UInt8) :
    Except CodecError (Ref × Store) :=
  (deserializeLogged g s bytes).1

end Wire

end ServiceStubs
