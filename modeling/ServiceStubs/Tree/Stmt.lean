import ServiceStubs.Tree.Expr

/-!
# Statements

The statements of a module, each with its span. The span of a definition starts at its keyword;
its decorators carry spans of their own.
-/

namespace ServiceStubs

namespace Tree

/-- A decorator and where it stands. -/
structure Decorator where
  expr : Expr
  span : Span

/-- An imported name and the name it is bound to, if another one is given. -/
structure Alias where
  name : String
  asName : Option String
  deriving DecidableEq, Repr

/-- A pattern of a `match` statement. -/
inductive Pattern
  | value (value : Expr)
  | constant (value : Constant)
  | sequence (patterns : List Pattern)
  | mapping (keys : List Expr) (patterns : List Pattern) (rest : Option String)
  | type (type : Expr) (patterns : List Pattern) (names : List String)
      (named : List Pattern)
  | star (name : Option String)
  | capture (pattern : Option Pattern) (name : String)
  | wildcard
  | or (patterns : List Pattern)

/-- An item of a `with` statement. -/
structure WithItem where
  context : Expr
  target : Option Expr

mutual

/-- A statement and its span. -/
inductive Stmt
  | stmt (span : Span) (node : StmtNode)

/-- What a statement says. -/
inductive StmtNode
  | function (isAsync : Bool) (name : String) (params : List Param) (returns : Option Expr)
      (decorators : List Decorator) (body : List Stmt)
  | classDef (name : String) (bases : List Expr) (keywords : List Keyword)
      (decorators : List Decorator) (body : List Stmt)
  | returnValue (value : Option Expr)
  | delete (targets : List Expr)
  | assign (targets : List Expr) (value : Expr)
  | augmented (target : Expr) (op : BinaryOp) (value : Expr)
  | annotated (target type : Expr) (value : Option Expr) (simple : Bool)
  | forLoop (isAsync : Bool) (target source : Expr) (body orElse : List Stmt)
  | whileLoop (condition : Expr) (body orElse : List Stmt)
  | branch (condition : Expr) (body orElse : List Stmt)
  | withBlock (isAsync : Bool) (items : List WithItem) (body : List Stmt)
  | matchOn (subject : Expr) (cases : List Case)
  | raiseError (error cause : Option Expr)
  | tryBlock (grouped : Bool) (body : List Stmt) (handlers : List Handler)
      (orElse always : List Stmt)
  | assert (condition : Expr) (message : Option Expr)
  | importModules (names : List Alias)
  | importFrom (module : Option String) (names : List Alias) (level : Nat)
  | globalNames (names : List String)
  | nonlocalNames (names : List String)
  | expression (value : Expr)
  | pass
  | breakLoop
  | continueLoop

/-- One case of a `match` statement. -/
inductive Case
  | case (pattern : Pattern) (guard : Option Expr) (body : List Stmt)

/-- One handler of a `try` statement. -/
inductive Handler
  | handler (type : Option Expr) (name : Option String) (body : List Stmt)

end

namespace Stmt

/-- The span of the statement. -/
def span : Stmt → Span
  | stmt s _ => s

/-- What the statement says. -/
def node : Stmt → StmtNode
  | stmt _ n => n

/-- Where the statement starts. -/
def start (s : Stmt) : Position := s.span.start

/-- The line the statement ends on. -/
def endLine (s : Stmt) : Nat := s.span.endLine

end Stmt

namespace Handler

/-- The statements of the handler. -/
def body : Handler → List Stmt
  | handler _ _ b => b

end Handler

end Tree

end ServiceStubs
