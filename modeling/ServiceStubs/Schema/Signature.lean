import ServiceStubs.Schema.Model
import ServiceStubs.Schema.Error
import ServiceStubs.Tree.Stmt
import ServiceStubs.Text.Docstring

/-!
# The shape of a remote method

A method can be called remotely if it is called on an instance and every other parameter binds
exactly one value by position. Its definition is brought into the form that the generator works
with, or rejected with the first fault it has.

## Main definitions

* `Schema.readMethod`: the method that a function definition declares
* `Schema.docstringOf`: the docstring of a body
* `Schema.isStub`: whether a body says nothing
-/

namespace ServiceStubs

namespace Schema

open Tree

/-- The names of the parameters that methods talking to the transport have, and of the variable
that holds their response. -/
def reservedNames : List String := ["ctx", "req", "sink", "resp"]

/-- The type of a parameter without annotation. -/
def anyType : String := "_typing.Any"

/-! ## Bodies -/

/-- The text of a statement that is nothing but a text. -/
def textOf? (s : Stmt) : Option String :=
  match s.node with
  | .expression (.constant (.text value _)) => some value
  | _ => none

/-- The docstring of a body, cleaned. -/
def docstringOf (body : List Stmt) : Option String :=
  (body.head?.bind textOf?).map Text.cleanDocstring

/-- Whether a statement only fills a place: a text, an ellipsis or `pass`. -/
def isFiller (s : Stmt) : Bool :=
  match s.node with
  | .pass => true
  | .expression (.constant (.text _ _)) => true
  | .expression (.constant .ellipsis) => true
  | _ => false

/-- Whether a body says nothing. -/
def isStub (body : List Stmt) : Bool := body.all isFiller

/-! ## Decorators -/

/-- The last part of the name of a decorator, arguments left out. -/
def decoratorName (e : Expr) : String :=
  let target := match e with
    | .call function _ _ => function
    | e => e
  match target with
  | .name id => id
  | .attribute _ name => name
  | _ => ""

/-- The decorators that make a method be called without an instance. -/
def offInstanceNames : List String := ["staticmethod", "classmethod"]

/-- The decorators that make a method a property. -/
def propertyNames : List String := ["property", "setter", "getter", "deleter"]

/-- The written form of a decorator of a method. -/
def readDecorator (method : String) (d : Decorator) : Except Failure String := do
  let name := decoratorName d.expr
  if offInstanceNames.contains name then reject (.notOnInstance method name) d.span.start
  if propertyNames.contains name then reject (.propertyMethod method) d.span.start
  writtenForm d.expr.text

/-! ## Parameters -/

/-- The parameters that positions bind. -/
def positionalOf (params : List Param) : List Param :=
  params.filter fun p => p.kind == .positional || p.kind == .plain

/-- The parameters behind the receiver. -/
def behindReceiver (method : String) (start : Position) (params : List Param) :
    Except Failure (List Param) :=
  match positionalOf params with
  | [] => reject (.noReceiver method) start
  | first :: others =>
    if first.name == "self" then pure others
    else match others.find? (·.name == "self") with
      | some p => reject (.receiverNotFirst method) p.position
      | none => reject (.noReceiver method) start

/-- Rejects parameters that do not bind one value by position. -/
def checkKinds (method : String) (params : List Param) : Except Failure Unit := do
  if let some p := params.find? (·.kind == .rest) then
    reject (.restParameter "*" p.name method) p.position
  if let some p := params.find? (·.kind == .keywordRest) then
    reject (.restParameter "**" p.name method) p.position
  if let some p := params.find? (·.kind == .keyword) then
    reject (.keywordOnly p.name method) p.position

/-- A parameter in the form that the generator works with. -/
def readParameter (method : String) (p : Param) : Except Failure Parameter := do
  if reservedNames.contains p.name then reject (.reservedParameter p.name method) p.position
  let type ← match p.type with
    | some e => writtenForm e.text
    | none => pure anyType
  let defaultValue ← match p.defaultValue with
    | some e => some <$> writtenForm e.text
    | none => pure none
  pure ⟨p.name, type, defaultValue⟩

/-! ## Methods -/

/-- The function definition in a statement. -/
structure Definition where
  isAsync : Bool
  name : String
  params : List Param
  returns : Option Expr
  decorators : List Decorator
  body : List Stmt
  start : Position

/-- The function definition that a statement is. -/
def definition? (s : Stmt) : Option Definition :=
  match s.node with
  | .function isAsync name params returns decorators body =>
    some ⟨isAsync, name, params, returns, decorators, body, s.start⟩
  | _ => none

/-- The annotation of the result, if it is there and is not `None`. -/
def readReturns : Option Expr → Except Failure (Option String)
  | none => pure none
  | some (.constant .none) => pure none
  | some e => some <$> writtenForm e.text

/-- The method that a function definition in the named class declares. -/
def readMethod (owner : String) (d : Definition) : Except Failure Method := do
  let method := owner ++ "." ++ d.name
  if d.isAsync then reject (.asyncMethod method) d.start
  let decorators ← d.decorators.mapM (readDecorator method)
  let params ← behindReceiver method d.start d.params
  checkKinds method d.params
  let parameters ← params.mapM (readParameter method)
  let returnType ← readReturns d.returns
  pure {
    name := d.name
    parameters := parameters
    returnType := returnType
    decorators := decorators
    docstring := docstringOf d.body
    position := d.start
    positionalOnly := (d.params.filter (·.kind == .positional)).length - 1 }

end Schema

end ServiceStubs
