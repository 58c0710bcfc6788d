import ServiceStubs.Schema.Error
import ServiceStubs.Tree.Stmt

/-!
# Markers

A declaration is marked by decorating it. A decorator is a marker only if it names one that the
module imports at its top level, directly or through the package, so other decorators of the same
name are left alone.

## Main definitions

* `Schema.MarkerNames`: the names by which a module can refer to the markers
* `Schema.MarkerNames.find`: the marker of a class, if it has one
* `Schema.nestedClasses`: the classes of a module that are not at its top level
-/

namespace ServiceStubs

namespace Schema

open Tree

/-- The package that the markers are imported from. -/
def markerPackage : String := "grpc_stub_generator"

/-- The marker with the given name. -/
def Marker.ofWord? (word : String) : Option Marker :=
  if word == Marker.service.word then some .service
  else if word == Marker.server.word then some .server
  else none

/-- The names by which a module can refer to the markers. -/
structure MarkerNames where
  /-- Names bound to a marker, the latest binding first. -/
  direct : List (String × Marker)
  /-- Names bound to the package. -/
  packages : List String
  deriving Repr

namespace MarkerNames

/-- No names at all. -/
def none : MarkerNames := ⟨[], []⟩

/-- Adds the names that a statement binds. -/
def add (names : MarkerNames) (s : Stmt) : MarkerNames :=
  match s.node with
  | .importFrom (some module) aliases 0 =>
    if module == markerPackage then
      let bound := aliases.filterMap fun a =>
        (Marker.ofWord? a.name).map fun m => (a.asName.getD a.name, m)
      { names with direct := bound.reverse ++ names.direct }
    else names
  | .importModules aliases =>
    let bound := (aliases.filter (·.name == markerPackage)).map fun a => a.asName.getD a.name
    { names with packages := names.packages ++ bound }
  | _ => names

/-- The names that the statements of a module bind at its top level. -/
def ofModule (body : List Stmt) : MarkerNames := body.foldl add none

/-- Whether there is no name at all. -/
def isEmpty (names : MarkerNames) : Bool := names.direct.isEmpty && names.packages.isEmpty

/-- The marker that an expression names, with or without arguments behind it. -/
def resolve (names : MarkerNames) (decorator : Expr) : Option Marker :=
  let target := match decorator with
    | .call function _ _ => function
    | e => e
  match target with
  | .name id => names.direct.lookup id
  | .attribute (.name id) word =>
    if names.packages.contains id then Marker.ofWord? word else Option.none
  | _ => Option.none

/-- A marker on a class: which one, and how many decorators stand in front of it. -/
structure Found where
  marker : Marker
  decorator : Decorator
  index : Nat

/-- The decorators of a class that are markers. -/
def markersOf (names : MarkerNames) (decorators : List Decorator) : List Found :=
  decorators.zipIdx.filterMap fun (d, i) => (names.resolve d.expr).map fun m => ⟨m, d, i⟩

/-- The marker of a class. A class with a second one is rejected. -/
def find (names : MarkerNames) (className : String) (decorators : List Decorator) :
    Except Failure (Option Found) :=
  match names.markersOf decorators with
  | [] => pure Option.none
  | [found] => pure (some found)
  | _ :: second :: _ => reject (.severalMarkers className) second.decorator.span.start

end MarkerNames

/-! ## Classes below the top level -/

/-- A class inside another statement: how deep it stands, its name, its decorators and its
place. -/
structure NestedClass where
  depth : Nat
  name : String
  decorators : List Decorator
  start : Position

mutual

/-- The classes in a statement at the given depth, that statement included. -/
def classesIn (depth : Nat) : Stmt → List NestedClass
  | .stmt span node =>
    match node with
    | .classDef name _ _ decorators body =>
      ⟨depth, name, decorators, span.start⟩ :: classesInAll (depth + 1) body
    | .function _ _ _ _ _ body => classesInAll (depth + 1) body
    | .forLoop _ _ _ body orElse => classesInAll (depth + 1) body ++ classesInAll (depth + 1) orElse
    | .whileLoop _ body orElse => classesInAll (depth + 1) body ++ classesInAll (depth + 1) orElse
    | .branch _ body orElse => classesInAll (depth + 1) body ++ classesInAll (depth + 1) orElse
    | .withBlock _ _ body => classesInAll (depth + 1) body
    | .matchOn _ cases => classesInCases (depth + 1) cases
    | .tryBlock _ body handlers orElse always =>
      classesInAll (depth + 1) body ++ classesInHandlers (depth + 1) handlers ++
        classesInAll (depth + 1) orElse ++ classesInAll (depth + 1) always
    | _ => []

/-- The classes in statements at the given depth. -/
def classesInAll (depth : Nat) : List Stmt → List NestedClass
  | [] => []
  | s :: rest => classesIn depth s ++ classesInAll depth rest

/-- The classes in cases at the given depth. -/
def classesInCases (depth : Nat) : List Case → List NestedClass
  | [] => []
  | .case _ _ body :: rest => classesInAll (depth + 1) body ++ classesInCases depth rest

/-- The classes in handlers at the given depth. -/
def classesInHandlers (depth : Nat) : List Handler → List NestedClass
  | [] => []
  | .handler _ _ body :: rest => classesInAll (depth + 1) body ++ classesInHandlers depth rest

end

/-- The classes of a module below its top level, those at a smaller depth first. -/
def nestedClasses (body : List Stmt) : List NestedClass :=
  ((classesInAll 0 body).filter (0 < ·.depth)).mergeSort fun a b => a.depth ≤ b.depth

end Schema

end ServiceStubs
