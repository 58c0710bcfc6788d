import ServiceStubs.Code
import ServiceStubs.Text.Words
import ServiceStubs.Tree.Expr

/-!
# Services and servers

A service declaration and a server implementation as the generator sees them, and the identifiers
that everything generated for them goes by. All derived identifiers are defined here, so that the
fragments that introduce a name and those that use it cannot disagree.

## Main definitions

* `Schema.Method`, `Schema.Service`, `Schema.Server`: the declarations
* `Schema.Method.constantName`: the constant that describes a method, which is also its wire name
* `Schema.Service.factoryName`, `clientName`, `typeVariable`: the other generated identifiers
-/

namespace ServiceStubs

namespace Schema

/-- Whether a service and everything generated for it is meant for other modules. -/
inductive Visibility
  | isPublic | isPrivate
  deriving DecidableEq, Repr

namespace Visibility

/-- Private names start with an underscore. -/
def ofName (name : String) : Visibility :=
  if name.toList.head? == some '_' then isPrivate else isPublic

/-- What generated names at module level start with. -/
def lead : Visibility → String
  | isPublic => ""
  | isPrivate => "_"

/-- The word for the visibility. -/
def word : Visibility → String
  | isPublic => "public"
  | isPrivate => "private"

end Visibility

/-- A parameter of a method. -/
structure Parameter where
  name : String
  type : String
  defaultValue : Option String
  deriving DecidableEq, Repr

/-- The parameter as it stands in a signature. -/
def Parameter.text (p : Parameter) : String :=
  let typed := p.name ++ ": " ++ p.type
  match p.defaultValue with
  | none => typed
  | some d => typed ++ " = " ++ d

/-- A method that can be called remotely. -/
structure Method where
  name : String
  /-- The parameters behind the receiver, in order of declaration. -/
  parameters : List Parameter := []
  /-- The annotation of the result, if there is one other than `None`. -/
  returnType : Option String := none
  /-- The decorators, without the sign in front. -/
  decorators : List String := []
  docstring : Option String := none
  position : Position := ⟨0, 0⟩
  /-- How many of the parameters bind by position only. -/
  positionalOnly : Nat := 0
  deriving DecidableEq, Repr

/-- The declaration of a service. -/
structure Service where
  name : String
  methods : List Method
  bases : List String := []
  /-- The decorators other than the marker. -/
  decorators : List String := []
  docstring : Option String := none
  /-- The first line of the declaration, decorators included. -/
  firstLine : Nat := 0
  /-- The last line of the declaration. -/
  lastLine : Nat := 0
  /-- The column of the class. -/
  column : Nat := 0
  deriving DecidableEq, Repr

/-- The implementation of a server. -/
structure Server where
  name : String
  /-- The methods that need a counterpart that talks to the transport. -/
  methods : List Method
  /-- The first and the last line of the marker. -/
  markerLines : Nat × Nat
  /-- The last line of the class. -/
  lastLine : Nat
  /-- The indentation of the class body. -/
  bodyIndent : String
  deriving DecidableEq, Repr

/-! ## Identifiers -/

namespace Method

/-- The name of the method that talks to the transport. -/
def transportName (m : Method) : String := m.name ++ "_grpc"

/-- The names of the four ways to call the method: plain, with options, without waiting, and
without waiting with options. -/
def clientNames (m : Method) : List String :=
  [m.name, m.name ++ "_opt", m.name ++ "_async", m.name ++ "_async_opt"]

/-- The names of the parameters. -/
def argumentNames (m : Method) : List String := m.parameters.map (·.name)

/-- The type of the request: a tuple of the parameter types. -/
def requestType (m : Method) : String := Code.tupleType (m.parameters.map (·.type))

/-- The type of the response. -/
def responseType (m : Method) : String := m.returnType.getD "None"

/-- The parameters of the method as declared, the receiver first. -/
def signature (m : Method) : List String :=
  let parameters := "self" :: m.parameters.map (·.text)
  if m.positionalOnly == 0 then parameters
  else parameters.take (m.positionalOnly + 1) ++ "/" :: parameters.drop (m.positionalOnly + 1)

/-- The constant that describes the method of a service, which is also its wire name. -/
def constantName (m : Method) (serviceName : String) : String :=
  (Visibility.ofName serviceName).lead ++ Text.shoutyCase serviceName ++ "_METHOD_" ++
    Text.shoutyCase m.name

end Method

namespace Service

/-- The visibility that the name of the service gives it. -/
def visibility (s : Service) : Visibility := Visibility.ofName s.name

/-- The function that builds the dispatch table of an implementation. -/
def factoryName (s : Service) : String := s.visibility.lead ++ "create_" ++ Text.snakeCase s.name

/-- The client type. -/
def clientName (s : Service) : String := s.name ++ "Client"

/-- The type variable that stands for an implementation. -/
def typeVariable (s : Service) : String :=
  "_" ++ String.ofList (s.name.toList.dropWhile (· == '_')) ++ "T"

/-- The constant of a method of the service. -/
def constantName (s : Service) (m : Method) : String := m.constantName s.name

end Service

example : (Method.mk "say_hello" [] none [] none ⟨0, 0⟩ 0).constantName "Greeter" =
    "GREETER_METHOD_SAY_HELLO" := by decide +kernel

end Schema

end ServiceStubs
