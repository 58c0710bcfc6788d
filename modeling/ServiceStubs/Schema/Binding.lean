import ServiceStubs.Tree.Stmt

/-!
# Names bound at module level

The names that the statements of a module bind, as far as they are looked at: definitions,
assignments to names and to tuples and lists of them, and imports, also inside `if` and `try`
blocks. Loops, `with` blocks and grouped handlers are not looked into.

## Main definitions

* `Schema.boundNames`: the names with the line of the statement that binds each first
-/

namespace ServiceStubs

namespace Schema

open Tree

mutual

/-- The names that an assignment to the target binds. -/
def targetNames : Expr → List String
  | .name id => [id]
  | .tuple items | .list items => targetNamesOfAll items
  | _ => []

/-- The names that assignments to the targets bind. -/
def targetNamesOfAll : List Expr → List String
  | [] => []
  | e :: rest => targetNames e ++ targetNamesOfAll rest

end

/-- The part of a dotted path in front of its first point. -/
def firstComponent (path : String) : String :=
  String.ofList (path.toList.takeWhile (· != '.'))

/-- The names that an import binds. -/
def importedNames (aliases : List Alias) : List String :=
  (aliases.filter (·.name != "*")).map fun a => a.asName.getD (firstComponent a.name)

mutual

/-- The names that a statement binds, each with the line it is bound on. -/
def bindings : Stmt → List (String × Nat)
  | .stmt span node =>
    let here (names : List String) := names.map fun n => (n, span.start.line)
    match node with
    | .function _ name _ _ _ _ => here [name]
    | .classDef name _ _ _ _ => here [name]
    | .assign targets _ => here (targetNamesOfAll targets)
    | .annotated target _ _ _ => here (targetNames target)
    | .augmented target _ _ => here (targetNames target)
    | .importModules aliases => here (importedNames aliases)
    | .importFrom _ aliases _ => here (importedNames aliases)
    | .branch _ body orElse => bindingsOfAll body ++ bindingsOfAll orElse
    | .tryBlock false body handlers orElse always =>
      bindingsOfAll body ++ bindingsOfAll orElse ++ bindingsOfAll always ++
        bindingsOfHandlers handlers
    | _ => []

/-- The names that statements bind. -/
def bindingsOfAll : List Stmt → List (String × Nat)
  | [] => []
  | s :: rest => bindings s ++ bindingsOfAll rest

/-- The names that the statements of handlers bind. -/
def bindingsOfHandlers : List Handler → List (String × Nat)
  | [] => []
  | .handler _ _ body :: rest => bindingsOfAll body ++ bindingsOfHandlers rest

end

/-- The entries whose name no entry before them has. -/
def firstOfEach : List (String × Nat) → List (String × Nat) :=
  List.foldl (fun kept entry => if kept.any (·.1 == entry.1) then kept else kept ++ [entry]) []

/-- The names bound at the top level of a module, in order, each with the line that binds it
first. -/
def boundNames (body : List Stmt) : List (String × Nat) :=
  firstOfEach (bindingsOfAll body)

end Schema

end ServiceStubs
