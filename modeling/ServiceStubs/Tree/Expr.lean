import ServiceStubs.Number.Binary64

/-!
# Expressions

The expressions of a module: annotations, defaults, decorators, bases and everything the other
statements hold. Expressions carry no positions. Where a diagnostic points at one, the position is
kept beside it (`Param.position`, `Decorator.span`).

## Implementation notes

The parameters of a function are one list; the kind of each says how it binds, and its default
stands beside its name, so a default cannot be attached to the wrong parameter.
-/

namespace ServiceStubs

/-- A place in a source text: the line, from one, and the column in bytes, from zero. -/
structure Position where
  line : Nat
  column : Nat
  deriving DecidableEq, Repr, Inhabited

/-- Whether one place stands before another. -/
def Position.isBefore (p q : Position) : Bool :=
  p.line < q.line || (p.line == q.line && p.column < q.column)

/-- The stretch of a construct: where it starts and the line it ends on. -/
structure Span where
  start : Position
  endLine : Nat
  deriving DecidableEq, Repr, Inhabited

namespace Tree

/-- The operators with one operand. -/
inductive UnaryOp
  | invert | not | plus | minus
  deriving DecidableEq, Repr

/-- The arithmetic and bit operators with two operands. -/
inductive BinaryOp
  | add | sub | mul | matMul | div | mod | floorDiv | pow
  | shiftLeft | shiftRight | bitOr | bitXor | bitAnd
  deriving DecidableEq, Repr

/-- The operators that join conditions. -/
inductive BoolOp
  | and | or
  deriving DecidableEq, Repr

/-- The comparisons. -/
inductive CompareOp
  | eq | notEq | lt | le | gt | ge | same | notSame | member | notMember
  deriving DecidableEq, Repr

/-- The values written as literals. A text remembers whether it was marked with `u`. -/
inductive Constant
  | none
  | bool (value : Bool)
  | ellipsis
  | int (value : Nat)
  | float (value : Binary64)
  | imaginary (value : Binary64)
  | text (value : String) (marked : Bool)
  | bytes (value : List UInt8)
  deriving DecidableEq, Repr

/-- How a parameter binds: by position only, by position or keyword, as the sequence of the other
positional arguments, by keyword only, or as the mapping of the other keyword arguments. -/
inductive ParamKind
  | positional | plain | rest | keyword | keywordRest
  deriving DecidableEq, Repr

/-- How a formatted value is turned into text before its format applies. -/
inductive Conversion
  | str | repr | ascii
  deriving DecidableEq, Repr

mutual

/-- An expression. -/
inductive Expr
  | name (id : String)
  | constant (value : Constant)
  | formatted (parts : List TextPart)
  | tuple (items : List Expr)
  | list (items : List Expr)
  | set (items : List Expr)
  | dict (entries : List DictEntry)
  | unary (op : UnaryOp) (operand : Expr)
  | binary (left : Expr) (op : BinaryOp) (right : Expr)
  | boolean (op : BoolOp) (operands : List Expr)
  | compare (left : Expr) (links : List Comparison)
  | call (function : Expr) (arguments : List Expr) (keywords : List Keyword)
  | attribute (value : Expr) (name : String)
  | subscript (value index : Expr)
  | slice (lower upper step : Option Expr)
  | starred (value : Expr)
  | conditional (condition thenValue elseValue : Expr)
  | lambda (params : List Param) (body : Expr)
  | named (target : String) (value : Expr)
  | await (value : Expr)
  | yield (value : Option Expr)
  | yieldFrom (value : Expr)
  | listComp (item : Expr) (clauses : List Clause)
  | setComp (item : Expr) (clauses : List Clause)
  | dictComp (key value : Expr) (clauses : List Clause)
  | generator (item : Expr) (clauses : List Clause)

/-- A piece of a formatted text: characters, or a value with its conversion and format. -/
inductive TextPart
  | chars (text : String)
  | value (value : Expr) (conversion : Option Conversion) (format : Option (List TextPart))

/-- An entry of a dictionary display: a pair, or a mapping unpacked in place. -/
inductive DictEntry
  | pair (key value : Expr)
  | unpack (value : Expr)

/-- One link of a chain of comparisons. -/
inductive Comparison
  | link (op : CompareOp) (right : Expr)

/-- A keyword argument, or a mapping of keyword arguments when it has no name. -/
inductive Keyword
  | keyword (name : Option String) (value : Expr)

/-- One `for` clause of a comprehension with its conditions. -/
inductive Clause
  | clause (isAsync : Bool) (target source : Expr) (conditions : List Expr)

/-- A parameter of a function. -/
inductive Param
  | param (kind : ParamKind) (name : String) (type defaultValue : Option Expr)
      (position : Position)

end

instance : Inhabited Expr := ⟨.constant .none⟩

namespace Param

/-- How the parameter binds. -/
def kind : Param → ParamKind
  | param k _ _ _ _ => k

/-- The name the parameter binds. -/
def name : Param → String
  | param _ n _ _ _ => n

/-- The annotation of the parameter. -/
def type : Param → Option Expr
  | param _ _ a _ _ => a

/-- The default of the parameter. -/
def defaultValue : Param → Option Expr
  | param _ _ _ d _ => d

/-- Where the name of the parameter stands. -/
def position : Param → Position
  | param _ _ _ _ p => p

end Param

end Tree

end ServiceStubs
