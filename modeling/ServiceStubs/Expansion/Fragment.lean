import ServiceStubs.Expansion.Import
import ServiceStubs.Schema.Model
import ServiceStubs.Schema.Signature
import ServiceStubs.Text.Docstring

/-!
# Fragments of generated code

A service declaration is replaced by five artifacts: one constant per method that describes it, the
interface with a second method per method that talks to the transport, the type variable and the
factory that builds the dispatch table of an implementation, and the client type with four ways to
call every method. A server implementation gets one method per method that talks to the transport.

A fragment is its lines together with the imports they need.

## Main definitions

* `Expansion.Fragment`: lines and the imports they need
* `Expansion.constants`, `interface`, `factory`, `client`: the artifacts of a service
* `Expansion.service`: all of them
* `Expansion.serverMethod`, `serverMethods`: what is added to a server
-/

namespace ServiceStubs

namespace Expansion

open Schema

/-- Lines of generated code and the imports they need. -/
structure Fragment where
  lines : List String
  imports : List Import
  deriving DecidableEq, Repr

namespace Fragment

/-- One fragment after the other, without lines between them. -/
def append (a b : Fragment) : Fragment := ⟨a.lines ++ b.lines, a.imports ++ b.imports⟩

/-- All fragments, one after the other. -/
def concat (fs : List Fragment) : Fragment :=
  ⟨fs.flatMap (·.lines), fs.flatMap (·.imports)⟩

/-- The fragments that are not empty, with two empty lines between them. -/
def spaced (fs : List Fragment) : Fragment :=
  let blocks := (fs.map (·.lines)).filter (!·.isEmpty)
  ⟨List.intercalate ["", ""] blocks, fs.flatMap (·.imports)⟩

end Fragment

/-- The alias of the module that connects generated code to the transport. -/
def runtime : String := Import.runtime.shortName

/-- The alias of the module that encodes messages. -/
def codec : String := Import.codec.shortName

/-- The imports that the annotations of a method need. -/
def typeImports (m : Method) : List Import :=
  if m.parameters.any fun p => Text.occursIn anyType.toList p.type.toList then [.typing] else []

/-! ## Constants -/

/-- The constant that describes a method. -/
def constant (s : Service) (m : Method) : Fragment :=
  let ident := s.constantName m
  let marshaller := runtime ++ ".Marshaller(ser=" ++ codec ++ ".ser, de=" ++ codec ++ ".de)"
  { lines := [
      ident ++ ": " ++ runtime ++ ".Method[" ++ m.requestType ++ ", " ++ m.responseType ++ "] = " ++
        runtime ++ ".Method(",
      "    ty=" ++ runtime ++ ".MethodType.UNARY,",
      "    name=\"" ++ ident ++ "\",",
      "    req_mar=" ++ marshaller ++ ",",
      "    resp_mar=" ++ marshaller ++ ",",
      ")"]
    imports := typeImports m }

/-- The constants of all methods of a service. -/
def constants (s : Service) : Fragment :=
  .append ⟨[], [.runtime, .codec]⟩ (.concat (s.methods.map (constant s)))

/-! ## The interface -/

/-- The parameters of a method that talks to the transport. -/
def transportParameters (m : Method) : List String :=
  ["self", "ctx: " ++ runtime ++ ".RpcContext", "req: " ++ m.requestType,
    "sink: " ++ runtime ++ ".UnarySink[" ++ m.responseType ++ "]"]

/-- The decorators of a method of the interface: its own ones and the one that makes it
abstract. -/
def abstractDecorators (m : Method) : List String :=
  m.decorators.map (Code.decorator · []) ++ [Code.decorator "_abc.abstractmethod" []]

/-- A method of the interface as it was declared. -/
def declaredMethod (m : Method) : List String :=
  abstractDecorators m ++ Code.function m.name m.signature m.returnType
    ((m.docstring.map Text.docstringLines).getD [])

/-- The counterpart of a method that talks to the transport. -/
def transportMethod (m : Method) : List String :=
  abstractDecorators m ++ Code.function m.transportName (transportParameters m) none []

/-- The blocks of the body of an interface, with an empty line in front of each but a first one. -/
def interfaceBody (s : Service) : List String :=
  let documentation := (s.docstring.map Text.docstringLines).getD []
  let declared := s.methods.map declaredMethod
  let transport := s.methods.map transportMethod
  List.intercalate [""]
    ((if documentation.isEmpty then [] else [documentation]) ++ declared ++ transport)

/-- The interface of a service. -/
def interface (s : Service) : Fragment :=
  let bases := if s.bases.isEmpty then ["_abc.ABC"] else s.bases
  let body := interfaceBody s
  { lines := s.decorators.map (Code.decorator · []) ++ Code.classHeader s.name bases ::
      Code.indent (if body.isEmpty then ["pass"] else body)
    imports := [.abc, .runtime] }

/-! ## The factory -/

/-- The lines that add the handler of a method to a dispatch table. -/
def registration (s : Service) (m : Method) : List String :=
  ["instance = _copy.copy(s)",
    "builder = builder.add_unary_handler(" ++ s.constantName m ++ ", instance." ++
      m.transportName ++ ")"]

/-- The type variable of a service and the function that builds the dispatch table of an
implementation. Every handler works on a copy of the implementation. -/
def factory (s : Service) : Fragment :=
  let body := Text.docstringLines
      ("Build the dispatch table of a `" ++ s.name ++ "` implementation.") ++
    ["builder = " ++ runtime ++ ".ServiceBuilder()"] ++ s.methods.flatMap (registration s) ++
    ["return builder.build()"]
  { lines := [s.typeVariable ++ " = _typing.TypeVar(\"" ++ s.typeVariable ++ "\", bound=" ++
        s.name ++ ")", "", ""] ++
      Code.function s.factoryName ["s: " ++ s.typeVariable] (some (runtime ++ ".Service")) body
    imports := [.typing, .copy, .runtime] }

/-! ## The client -/

/-- The four ways to call a method. -/
def clientMethods (s : Service) (m : Method) : Fragment :=
  let constant := s.constantName m
  let request := "req: " ++ m.requestType
  let option := "opt: " ++ runtime ++ ".CallOption"
  let receiver := runtime ++ ".ClientSStreamReceiver[" ++ m.responseType ++ "]"
  let variant (name : String) (parameters : List String) (returns body : String) : List String :=
    "" :: Code.function name parameters (some returns) [body]
  { lines :=
      variant m.name ["self", request] m.responseType
        ("return self." ++ m.name ++ "_opt(req, " ++ runtime ++ ".CallOption())") ++
      variant (m.name ++ "_opt") ["self", request, option] m.responseType
        ("return self.client.unary_call(" ++ constant ++ ", req, opt)") ++
      variant (m.name ++ "_async") ["self", request] receiver
        ("return self." ++ m.name ++ "_async_opt(req, " ++ runtime ++ ".CallOption())") ++
      variant (m.name ++ "_async_opt") ["self", request, option] receiver
        ("return self.client.server_streaming(" ++ constant ++ ", req, opt)")
    imports := [] }

/-- The client type of a service. -/
def client (s : Service) : Fragment :=
  let constructor := Code.function "__init__" ["self", "channel: _grpc.Channel"] none
    ["self.client = " ++ runtime ++ ".Client(channel)"]
  let body := Text.docstringLines ("Client of the `" ++ s.name ++ "` service.") ++
    "" :: constructor ++ s.methods.flatMap fun m => (clientMethods s m).lines
  { lines := Code.classHeader s.clientName [] :: Code.indent body
    imports := [.grpc, .runtime] }

/-! ## Services and servers -/

/-- All artifacts of a service, in the order in which they depend on each other. -/
def service (s : Service) : Fragment :=
  .spaced [constants s, interface s, factory s, client s]

/-- The method of a server that takes the request apart, calls the method as authored and sends its
result. -/
def serverMethod (m : Method) : Fragment :=
  let unpacking :=
    if m.parameters.isEmpty then [] else [Code.tupleTarget m.argumentNames ++ " = req"]
  { lines := Code.function m.transportName (transportParameters m) none
      (unpacking ++
        ["resp = self." ++ m.name ++ "(" ++ Code.commaSeparated m.argumentNames ++ ")",
          "ctx.spawn(sink.success(resp))"])
    imports := typeImports m }

/-- The methods that are added to a server, each with an empty line in front. -/
def serverMethods (s : Server) : Fragment :=
  let methods := s.methods.map serverMethod
  { lines := methods.flatMap fun f => "" :: f.lines
    imports := .runtime :: methods.flatMap (·.imports) }

end Expansion

end ServiceStubs
