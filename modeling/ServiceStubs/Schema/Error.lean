import ServiceStubs.Tree.Printer

/-!
# Rejected declarations

Why a module is rejected, where, and in which words. A rejection is anchored at the construct that
causes it; for a source text that breaks the grammar that is the token that does not fit.

## Main definitions

* `Schema.Fault`: the causes
* `Schema.Fault.message`: their wording
* `Schema.diagnosticText`: a message with the place it points at
-/

namespace ServiceStubs

namespace Schema

/-- The place a diagnostic points at: a line and a column from zero. -/
structure Anchor where
  line : Int
  column : Int
  deriving DecidableEq, Repr

/-- The anchor at a place of the source. -/
def Anchor.ofPosition (p : Position) : Anchor := ⟨Int.ofNat p.line, Int.ofNat p.column⟩

/-- What claims a name: the construct in words, and where it stands. -/
structure Claim where
  owner : String
  anchor : Anchor
  deriving DecidableEq, Repr

/-- The markers of declarations. -/
inductive Marker
  | service | server
  deriving DecidableEq, Repr

/-- The name of a marker. -/
def Marker.word : Marker → String
  | service => "service"
  | server => "server"

/-- Why a module is rejected. -/
inductive Fault
  /-- The source text breaks the grammar. -/
  | ungrammatical
  | severalMarkers (className : String)
  | nestedMarker (className : String)
  | markerWithArguments (marker : Marker)
  | notAMethod (service : String)
  | methodWithBody (service method : String)
  | asyncMethod (method : String)
  | notOnInstance (method kind : String)
  | propertyMethod (method : String)
  | receiverNotFirst (method : String)
  | noReceiver (method : String)
  | restParameter (stars parameter method : String)
  | keywordOnly (parameter method : String)
  | reservedParameter (parameter method : String)
  | bodyOnHeaderLine (server : String)
  | clash (name owner : String) (previous : Claim) (scope : String)
  deriving DecidableEq, Repr

/-- The wording of a fault. -/
def Fault.message : Fault → String
  | ungrammatical => "invalid syntax: invalid syntax"
  | severalMarkers c => "class `" ++ c ++ "` carries more than one service/server marker"
  | nestedMarker c => "class `" ++ c ++ "` must be declared at module level to be expanded"
  | markerWithArguments m => "the `" ++ m.word ++ "` marker takes no arguments"
  | notAMethod s => "service `" ++ s ++ "` may only contain method signatures"
  | methodWithBody s m =>
    "method `" ++ s ++ "." ++ m ++ "` of a service declaration must not have a body"
  | asyncMethod m => "RPC method `" ++ m ++ "` must not be `async`"
  | notOnInstance m kind =>
    "RPC method `" ++ m ++ "` must take the instance receiver `self`, not be a " ++ kind
  | propertyMethod m => "RPC method `" ++ m ++ "` must not be a property"
  | receiverNotFirst m => "RPC method `" ++ m ++ "` must take `self` as its first parameter"
  | noReceiver m => "RPC method `" ++ m ++ "` is missing the `self` receiver"
  | restParameter stars p m =>
    "parameter `" ++ stars ++ p ++ "` of `" ++ m ++ "` does not bind a single value"
  | keywordOnly p m =>
    "keyword-only parameter `" ++ p ++ "` of `" ++ m ++
      "` cannot be carried in a positional request envelope"
  | reservedParameter p m =>
    "parameter name `" ++ p ++ "` of `" ++ m ++
      "` is reserved for the transport-facing method"
  | bodyOnHeaderLine s => "the body of server `" ++ s ++ "` must start on its own line"
  | clash name owner previous scope =>
    let place :=
      if previous.anchor.line == 0 then "" else " (line " ++ toString previous.anchor.line ++ ")"
    "`" ++ name ++ "` of " ++ owner ++ " clashes with " ++ previous.owner ++ place ++ " in the " ++
      scope ++ " namespace"

/-- A message with the place it points at. Columns are shown from one. -/
def diagnosticText (filename : String) (anchor : Anchor) (message : String) : String :=
  filename ++ ":" ++ toString anchor.line ++ ":" ++ toString (anchor.column + 1) ++ ": " ++ message

/-- A fault and the place it is found at. -/
structure SchemaError where
  fault : Fault
  anchor : Anchor
  deriving DecidableEq, Repr

/-- The text of an error in the named file. -/
def SchemaError.text (filename : String) (e : SchemaError) : String :=
  diagnosticText filename e.anchor e.fault.message

/-- Why a module cannot be expanded: it is rejected, or an expression it holds cannot be written. -/
inductive Failure
  | rejected (error : SchemaError)
  | unwritable (cause : Tree.Unwritable)
  deriving DecidableEq, Repr

/-- The text of a failure in the named file. -/
def Failure.text (filename : String) : Failure → String
  | rejected error => error.text filename
  | unwritable cause => cause.text

/-- Rejects a module for a fault at a place. -/
def reject {α : Type} (fault : Fault) (p : Position) : Except Failure α :=
  throw (.rejected ⟨fault, .ofPosition p⟩)

/-- The written form of an expression, or the failure to write it. -/
def writtenForm (text : Except Tree.Unwritable String) : Except Failure String :=
  text.mapError .unwritable

end Schema

end ServiceStubs
