import ServiceStubs.Schema.Binding
import ServiceStubs.Schema.Marker
import ServiceStubs.Schema.Names
import ServiceStubs.Schema.Signature
import ServiceStubs.Grammar.Stmt

/-!
# The declarations of a module

A module declares services and servers by marking classes at its top level. Reading it checks the
shape of every declaration and claims, in a fixed order, every name that the expansion will bind at
module level: first the aliases of generated imports, then the names the module binds itself, then
for each service its own name, its client, its factory, its type variable and its constants. The
first fault rejects the whole module.

## Main definitions

* `Schema.Module`: what a source text declares
* `Schema.Module.ofSource`: reading a source text
-/

namespace ServiceStubs

namespace Schema

open Tree

/-- The names that generated imports bind. -/
def importAliases : List String :=
  ["_abc", "_copy", "_typing", "_grpc", "_grpc_codec", "_grpc_runtime"]

/-- The declarations of a module. -/
structure Module where
  services : List Service := []
  servers : List Server := []
  /-- The line behind which generated imports go. -/
  importLine : Nat := 0
  /-- The names at module level, generated ones included, if anything is declared. -/
  names : Option Scope := none

/-- Whether a module declares nothing. -/
def Module.isEmpty (m : Module) : Bool := m.services.isEmpty && m.servers.isEmpty

/-! ## Where imports go -/

/-- The last line of the imports from the future at the start of the statements. -/
def futureLine (line : Nat) : List Stmt → Nat
  | [] => line
  | s :: rest =>
    match s.node with
    | .importFrom (some "__future__") _ _ => futureLine s.endLine rest
    | _ => line

/-- The line behind the docstring of a module and its imports from the future. -/
def importLineOf (body : List Stmt) : Nat :=
  match body with
  | [] => 0
  | s :: rest =>
    match textOf? s with
    | some _ => futureLine s.endLine rest
    | none => futureLine 0 body

/-! ## Claims -/

/-- Makes a claim while a module is read. -/
def claimName (scope : Scope) (name owner : String) (anchor : Anchor) : Except Failure Scope :=
  (scope.claim name owner anchor).mapError .rejected

/-- Claims several names for one owner. -/
def claimAll (scope : Scope) (names : List String) (owner : String) (anchor : Anchor) :
    Except Failure Scope :=
  names.foldlM (fun s name => claimName s name owner anchor) scope

/-! ## Services -/

/-- A marked class. -/
structure MarkedClass where
  name : String
  bases : List Expr
  keywords : List Keyword
  decorators : List Decorator
  body : List Stmt
  span : Span
  found : MarkerNames.Found

/-- What is known while the body of a service is read. -/
structure ServiceBody where
  methods : List Method
  /-- The names that the interface binds. -/
  interface : Scope
  /-- The names that the client binds. -/
  client : Scope

/-- Reads one statement of a service. -/
def readServiceStatement (service : String) (acc : ServiceBody) (s : Stmt) :
    Except Failure ServiceBody := do
  if isFiller s then pure acc
  else match definition? s with
  | none => reject (.notAMethod service) s.start
  | some d => do
    let method ← readMethod service d
    if !isStub d.body then reject (.methodWithBody service method.name) s.start
    let owner := "method `" ++ method.name ++ "`"
    let anchor := Anchor.ofPosition method.position
    let interface ← claimAll acc.interface [method.name, method.transportName] owner anchor
    let client ← claimAll acc.client method.clientNames owner anchor
    pure ⟨acc.methods ++ [method], interface, client⟩

/-- The decorators of a marked class other than the marker. -/
def MarkedClass.otherDecorators (c : MarkedClass) : List Decorator :=
  c.decorators.eraseIdx c.found.index

/-- The first line of a marked class, its decorators included. -/
def MarkedClass.firstLine (c : MarkedClass) : Nat :=
  c.decorators.foldl (fun line d => min line d.span.start.line) c.span.start.line

/-- The service that a marked class declares. -/
def readService (c : MarkedClass) : Except Failure Service := do
  let client ← claimName (.empty ("`" ++ c.name ++ "` client")) "client"
    "the client's channel attribute" (.ofPosition c.span.start)
  let start : ServiceBody := ⟨[], .empty ("`" ++ c.name ++ "` interface"), client⟩
  let read ← c.body.foldlM (readServiceStatement c.name) start
  let bases ← c.bases.mapM fun e => writtenForm e.text
  let keywords ← c.keywords.mapM fun w => writtenForm w.text
  let decorators ← c.otherDecorators.mapM fun d => writtenForm d.expr.text
  pure {
    name := c.name
    methods := read.methods
    bases := bases ++ keywords
    decorators := decorators
    docstring := docstringOf c.body
    firstLine := c.firstLine
    lastLine := c.span.endLine
    column := c.span.start.column }

/-- Claims the names that the expansion of a service binds at module level. -/
def claimService (scope : Scope) (s : Service) (start : Position) : Except Failure Scope := do
  let scope ← claimAll scope [s.clientName, s.factoryName, s.typeVariable]
    ("service `" ++ s.name ++ "`") (.ofPosition start)
  s.methods.foldlM (fun scope m =>
    claimName scope (s.constantName m) ("method `" ++ s.name ++ "." ++ m.name ++ "`")
      (.ofPosition m.position)) scope

/-! ## Servers -/

/-- The names that a class body binds by definitions and by assignments to names. -/
def authoredNames (body : List Stmt) : List String :=
  body.flatMap fun s =>
    match s.node with
    | .function _ name _ _ _ _ => [name]
    | .classDef name _ _ _ _ => [name]
    | .assign targets _ => targets.filterMap fun
      | .name id => some id
      | _ => none
    | .annotated (.name id) _ _ _ => [id]
    | _ => []

/-- The services among the bases of a class. -/
def implementedServices (services : List Service) (bases : List Expr) : List Service :=
  bases.filterMap fun
    | .name id => services.find? (·.name == id)
    | _ => none

/-- Whether a name is that of a method that talks to the transport. -/
def isTransportName (name : String) : Bool :=
  "_grpc".toList.isSuffixOf name.toList

/-- Whether a definition in a server is a remote method that lacks its counterpart. `remote` are
the names of the methods of the implemented services, if there are such services. -/
def needsCounterpart (remote : Option (List String)) (authored : List String)
    (d : Definition) : Bool :=
  d.name.toList.head? != some '_' && !isTransportName d.name &&
    (match remote with
      | some names => names.contains d.name
      | none => true) &&
    !authored.contains (d.name ++ "_grpc") &&
    !d.decorators.any fun dec =>
      (offInstanceNames ++ propertyNames).contains (decoratorName dec.expr)

/-- The server that a marked class implements. `sourceLines` are the lines of the text. -/
def readServer (sourceLines : List String) (services : List Service) (c : MarkedClass) :
    Except Failure Server := do
  let implemented := implementedServices services c.bases
  let remote := if implemented.isEmpty then none
    else some (implemented.flatMap fun s => s.methods.map (·.name))
  let authored := authoredNames c.body
  let definitions := (c.body.filterMap definition?).filter (needsCounterpart remote authored)
  let methods ← definitions.mapM (readMethod c.name)
  let first := (c.body.head?.map (·.start)).getD c.span.start
  if first.line == c.span.start.line then reject (.bodyOnHeaderLine c.name) first
  let firstLine := sourceLines[first.line - 1]?.getD ""
  let blanks := String.ofList (Text.indentOf firstLine.toList)
  let marker := c.found.decorator.span
  pure {
    name := c.name
    methods := methods
    markerLines := (marker.start.line, marker.endLine)
    lastLine := c.span.endLine
    bodyIndent := if blanks.isEmpty then Code.indentation else blanks }

/-! ## Modules -/

/-- Rejects marked classes below the top level. -/
def checkNested (markers : MarkerNames) (body : List Stmt) : Except Failure Unit :=
  (nestedClasses body).forM fun c => do
    if (← markers.find c.name c.decorators).isSome then reject (.nestedMarker c.name) c.start

/-- The class that a statement at the top level marks. -/
def markedClass? (markers : MarkerNames) (s : Stmt) : Except Failure (Option MarkedClass) :=
  match s.node with
  | .classDef name bases keywords decorators body => do
    match ← markers.find name decorators with
    | none => pure none
    | some found =>
      match found.decorator.expr with
      | .call _ _ _ => reject (.markerWithArguments found.marker) found.decorator.span.start
      | _ => pure (some ⟨name, bases, keywords, decorators, body, s.span, found⟩)
  | _ => pure none

/-- The marked classes at the top level of a module, in order. -/
def markedClasses (markers : MarkerNames) (body : List Stmt) :
    Except Failure (List MarkedClass) := do
  return (← body.mapM (markedClass? markers)).filterMap id

/-- Claims the names that the expansion and the module itself bind, except those of services. -/
def claimModuleNames (declared : List String) (body : List Stmt) : Except Failure Scope := do
  let scope ← claimAll (.empty "module") importAliases "a generated import" ⟨0, 0⟩
  let own := (boundNames body).filter fun entry => !declared.contains entry.1
  own.foldlM (fun scope (name, line) =>
    claimName scope name ("the module-level definition of `" ++ name ++ "`")
      ⟨Int.ofNat line, 0⟩) scope

/-- Reads a service and claims its names. -/
def addService (acc : List Service × Scope) (c : MarkedClass) :
    Except Failure (List Service × Scope) := do
  let scope ← claimName acc.2 c.name ("service `" ++ c.name ++ "`") (.ofPosition c.span.start)
  let service ← readService c
  let scope ← claimService scope service c.span.start
  pure (acc.1 ++ [service], scope)

/-- The declarations of a module with the given statements and lines. -/
def Module.ofBody (sourceLines : List String) (body : List Stmt) : Except Failure Module := do
  let importLine := importLineOf body
  let markers := MarkerNames.ofModule body
  if markers.isEmpty then pure { importLine := importLine }
  else do
    checkNested markers body
    let marked ← markedClasses markers body
    if marked.isEmpty then pure { importLine := importLine }
    else do
      let serviceClasses := marked.filter (·.found.marker == .service)
      let serverClasses := marked.filter (·.found.marker == .server)
      let scope ← claimModuleNames (serviceClasses.map (·.name)) body
      let (services, scope) ← serviceClasses.foldlM addService ([], scope)
      let servers ← serverClasses.mapM (readServer sourceLines services)
      pure { services := services, servers := servers, importLine := importLine,
             names := some scope }

/-- The declarations of a source text. -/
def Module.ofSource (source : String) : Except Failure Module :=
  match Grammar.readModule source.toList with
  | .error place => reject .ungrammatical place
  | .ok body => Module.ofBody (Text.splitLines source) body

end Schema

end ServiceStubs
