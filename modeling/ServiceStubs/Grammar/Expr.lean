import ServiceStubs.Grammar.Reader
import ServiceStubs.Grammar.Formatted

/-!
# Reading expressions

The grammar of expressions, one reader for each level of binding. A reader that meets an expression
inside brackets, behind a sign or in another place where it could go on for ever asks the readers of
the next smaller depth (`Nested`); every such step takes a token or a brace first, so a depth of the
length of the source text is never used up.

## Main definitions

* `Grammar.Nested`: the readers for the expressions inside an expression
* `Grammar.Nested.ofDepth`: those readers for a given depth
* `Grammar.starExpressions`, `Grammar.namedExpression`: the two entries that statements use
-/

namespace ServiceStubs

namespace Grammar

open Tree Reader

/-- The readers for the expressions inside an expression. -/
structure Nested where
  /-- More than the number of tokens. -/
  bound : Nat
  expression : Reader Expr
  disjunction : Reader Expr
  inversion : Reader Expr
  bitOr : Reader Expr
  factor : Reader Expr
  primary : Reader Expr

namespace Nested

/-- Readers that read nothing. -/
def none (bound : Nat) : Nested :=
  ⟨bound, failure, failure, failure, failure, failure, failure⟩

end Nested

/-! ## Lists of expressions -/

/-- An expression, or one that binds a name on the way. -/
def namedExpression (k : Nested) : Reader Expr := do
  match ← peek, ← peekSecond with
  | .name id, .sign ":=" => do
    discard next
    discard next
    return .named id.text (← k.expression)
  | _, _ => k.expression

/-- An item of a display: an expression, or a sequence unpacked in place. -/
def starNamed (k : Nested) : Reader Expr := do
  if ← sign? "*" then return .starred (← k.bitOr) else namedExpression k

/-- An item of a list without brackets. -/
def starExpression (k : Nested) : Reader Expr := do
  if ← sign? "*" then return .starred (← k.bitOr) else k.expression

/-- The expression a list stands for: a tuple if there is a comma. -/
def ofList (items : List Expr) (comma : Bool) : Expr :=
  match items with
  | [item] => if comma then .tuple items else item
  | _ => .tuple items

/-- Expressions without brackets around them. -/
def starExpressions (k : Nested) : Reader Expr := do
  let (items, comma) ← commaList k.bound (starExpression k)
  return ofList items comma

/-- A `yield` with what follows it. The word has not been read. -/
def yieldExpression (k : Nested) : Reader Expr := do
  keyword "yield"
  if ← keyword? "from" then return .yieldFrom (← k.expression)
  else return .yield (← optional (starExpressions k))

/-! ## Targets -/

mutual

/-- Whether a value can be assigned to the expression. -/
def isTarget : Expr → Bool
  | .name _ | .attribute _ _ | .subscript _ _ => true
  | .tuple items | .list items => areTargets items
  | .starred value => isTarget value
  | _ => false

/-- Whether values can be assigned to all of the expressions. -/
def areTargets : List Expr → Bool
  | [] => true
  | e :: rest => isTarget e && areTargets rest

end

/-- Whether one value can be assigned to the expression. -/
def isSingleTarget : Expr → Bool
  | .name _ | .attribute _ _ | .subscript _ _ => true
  | _ => false

mutual

/-- Whether the expression can be deleted. -/
def isDeletable : Expr → Bool
  | .name _ | .attribute _ _ | .subscript _ _ => true
  | .tuple items | .list items => areDeletable items
  | _ => false

/-- Whether all of the expressions can be deleted. -/
def areDeletable : List Expr → Bool
  | [] => true
  | e :: rest => isDeletable e && areDeletable rest

end

/-- A target of an assignment that is not followed by one. -/
def starTarget (k : Nested) : Reader Expr := do
  let target ← (do if ← sign? "*" then return Expr.starred (← k.primary) else k.primary)
  if isTarget target then return target else failure

/-- Targets without brackets around them. -/
def starTargets (k : Nested) : Reader Expr := do
  let (items, comma) ← commaList k.bound (starTarget k)
  return ofList items comma

/-! ## Comprehensions -/

/-- Whether a comprehension goes on here. -/
def atClause : Reader Bool := do
  match ← peek with
  | .keyword "for" => return true
  | .keyword "async" => return (← peekSecond) == .keyword "for"
  | _ => return false

/-- One clause of a comprehension. -/
def clause (k : Nested) : Reader Clause := do
  let isAsync ← keyword? "async"
  keyword "for"
  let target ← starTargets k
  keyword "in"
  let source ← k.disjunction
  let conditions ← repeated k.bound do
    if ← keyword? "if" then some <$> k.disjunction else pure none
  return .clause isAsync target source conditions

/-- The clauses of a comprehension. -/
def clauses (k : Nested) : Reader (List Clause) :=
  repeated k.bound do
    if ← atClause then some <$> clause k else pure none

/-! ## Arguments and indices -/

/-- An argument of a call. -/
inductive Argument
  | positional (value : Expr)
  | comprehension (value : Expr)
  | unpacked (value : Expr)
  | keyword (word : Keyword)
  | unpackedMapping (word : Keyword)

/-- One argument of a call. -/
def argument (k : Nested) : Reader Argument := do
  if ← sign? "*" then return .unpacked (.starred (← k.expression))
  else if ← sign? "**" then return .unpackedMapping (.keyword none (← k.expression))
  else
    match ← peek, ← peekSecond with
    | .name id, .sign "=" => do
      discard next
      discard next
      return .keyword (.keyword (some id.text) (← k.expression))
    | _, _ => do
      let value ← namedExpression k
      let cs ← clauses k
      if cs.isEmpty then return .positional value else return .comprehension (.generator value cs)

/-- The order of arguments: positional ones and unpacked sequences, then keywords and unpacked
sequences, then keywords and unpacked mappings. `stage` counts the groups that are over. -/
def inOrder (stage : Nat) : List Argument → Bool
  | [] => true
  | .positional _ :: rest => stage == 0 && inOrder 0 rest
  | .unpacked _ :: rest => stage ≤ 1 && inOrder stage rest
  | .keyword _ :: rest => inOrder (max stage 1) rest
  | .unpackedMapping _ :: rest => inOrder 2 rest
  | .comprehension _ :: _ => false

/-- The arguments that are not keywords. -/
def plainArguments (arguments : List Argument) : List Expr :=
  arguments.filterMap fun
    | .positional e | .unpacked e => some e
    | _ => none

/-- The arguments that are keywords. -/
def keywordArguments (arguments : List Argument) : List Keyword :=
  arguments.filterMap fun
    | .keyword w | .unpackedMapping w => some w
    | _ => none

/-- The arguments of a call or of a class, up to the closing parenthesis. The opening one has been
read. A call may have one comprehension without its own parentheses as its only argument. -/
def arguments (k : Nested) (ofCall : Bool) : Reader (List Expr × List Keyword) := do
  if ← sign? ")" then return ([], [])
  let (items, comma) ← commaList k.bound (argument k)
  sign ")"
  match items, comma with
  | [.comprehension e], false => if ofCall then return ([e], []) else failure
  | _, _ =>
    if inOrder 0 items then return (plainArguments items, keywordArguments items) else failure

/-- One index of a subscript: an expression or a slice. -/
def index (k : Nested) : Reader Expr := do
  let bound : Reader (Option Expr) := do
    match ← peek with
    | .sign ":" | .sign "," | .sign "]" => return none
    | _ => some <$> k.expression
  let slice (lower : Option Expr) : Reader Expr := do
    sign ":"
    let upper ← bound
    let step ← (do if ← sign? ":" then bound else pure none)
    return .slice lower upper step
  match ← peek, ← peekSecond with
  | .sign ":", _ => slice none
  | .sign "*", _ => do
    discard next
    return .starred (← k.expression)
  | .name _, .sign ":=" => namedExpression k
  | _, _ => do
    let value ← k.expression
    if ← atSign ":" then slice (some value) else return value

/-- The indices of a subscript, up to the closing bracket. The opening one has been read. -/
def indices (k : Nested) : Reader Expr := do
  let (items, comma) ← commaList k.bound (index k)
  sign "]"
  match items, comma with
  | [.starred _], _ => return .tuple items
  | _, _ => return ofList items comma

/-! ## Parameters -/

/-- What stands in a list of parameters. -/
inductive ParamItem
  | param (param : Param)
  | slash
  | star

/-- One item of a list of parameters, which have annotations if `annotated`. -/
def paramItem (k : Nested) (annotated : Bool) : Reader ParamItem := do
  let type (value : Reader Expr) : Reader (Option Expr) := do
    if annotated then
      if ← sign? ":" then some <$> value else pure none
    else pure none
  if ← sign? "/" then return .slash
  else if ← sign? "**" then
    let position ← place
    let id ← name
    return .param (.param .keywordRest id (← type k.expression) none position)
  else if ← sign? "*" then
    match ← peek with
    | .name id => do
      let position ← place
      discard next
      return .param (.param .rest id.text (← type (starExpression k)) none position)
    | _ => return .star
  else
    let position ← place
    let id ← name
    let type ← type k.expression
    let default ← (do if ← sign? "=" then some <$> k.expression else pure none)
    return .param (.param .plain id type default position)

/-- Gives a parameter another kind. -/
def withKind (kind : ParamKind) : Param → Param
  | .param _ name type default position => .param kind name type default position

/-- The parameters behind the star: keywords, then perhaps the other keywords. -/
def keywordParams : List ParamItem → Option (List Param)
  | [] => some []
  | .param p :: rest =>
    match p.kind with
    | .plain => (keywordParams rest).map (withKind .keyword p :: ·)
    | .keywordRest => if rest.isEmpty then some [p] else none
    | _ => none
  | _ :: _ => none

/-- The parameters that positions can bind, then those behind the star. Once one has a default, so
have all behind it. `mayMark` says that a slash may still come. -/
def positionalParams (mayMark defaults : Bool) : List ParamItem → Option (List Param)
  | [] => some []
  | .slash :: rest => if mayMark then positionalParams false defaults rest else none
  | .star :: rest =>
    match rest with
    | .param p :: _ => if p.kind == .plain then keywordParams rest else none
    | _ => none
  | .param p :: rest =>
    match p.kind with
    | .plain =>
      if defaults && p.defaultValue.isNone then none
      else (positionalParams mayMark (defaults || p.defaultValue.isSome) rest).map (p :: ·)
    | .rest => (keywordParams rest).map (p :: ·)
    | .keywordRest => if rest.isEmpty then some [p] else none
    | _ => none

/-- The parameters that a list of items declares. -/
def arrange (items : List ParamItem) : Option (List Param) := do
  let isSlash : ParamItem → Bool := fun
    | .slash => true
    | _ => false
  let checked ← positionalParams true false items
  let before := items.takeWhile (!isSlash ·)
  if before.length == items.length then some checked
  else if before.isEmpty then none
  else some (checked.take before.length |>.map (withKind .positional) |>.append
    (checked.drop before.length))

/-- The parameters of a function, up to the sign that closes them, which is not read. -/
def parameters (k : Nested) (annotated : Bool) (closer : String) : Reader (List Param) := do
  if ← atSign closer then return []
  let (items, comma) ← commaList k.bound (paramItem k annotated)
  -- a bare star needs a parameter behind it, so a comma at the end cannot follow it
  match items.getLast?, comma with
  | some .star, _ => failure
  | _, _ =>
    match arrange items with
    | some params => return params
    | none => failure

/-! ## Displays -/

/-- What stands between parentheses. The opening one has been read. -/
def parenthesized (k : Nested) : Reader Expr := do
  if ← sign? ")" then return .tuple []
  if ← atKeyword "yield" then
    let e ← yieldExpression k
    sign ")"
    return e
  let first ← starNamed k
  let isStarred := match first with
    | .starred _ => true
    | _ => false
  if !isStarred && (← atClause) then
    let cs ← clauses k
    sign ")"
    return .generator first cs
  if isStarred && !(← atSign ",") then failure
  let (others, comma) ← commaTail k.bound (starNamed k)
  sign ")"
  if others.isEmpty && !comma then return first else return .tuple (first :: others)

/-- What stands between square brackets. The opening one has been read. -/
def bracketed (k : Nested) : Reader Expr := do
  if ← sign? "]" then return .list []
  let first ← starNamed k
  let isStarred := match first with
    | .starred _ => true
    | _ => false
  if !isStarred && (← atClause) then
    let cs ← clauses k
    sign "]"
    return .listComp first cs
  let (others, _) ← commaTail k.bound (starNamed k)
  sign "]"
  return .list (first :: others)

/-- One entry of a dictionary display. -/
def dictEntry (k : Nested) : Reader DictEntry := do
  if ← sign? "**" then return .unpack (← k.bitOr)
  let key ← k.expression
  sign ":"
  return .pair key (← k.expression)

/-- What stands between braces. The opening one has been read. -/
def braced (k : Nested) : Reader Expr := do
  if ← sign? "\x7d" then return .dict []
  if ← atSign "**" then
    let (entries, _) ← commaList k.bound (dictEntry k)
    sign "\x7d"
    return .dict entries
  let mayBeKey ← (do
    match ← peek, ← peekSecond with
    | .sign "*", _ => return false
    | .name _, .sign ":=" => return false
    | _, _ => return true : Reader Bool)
  let first ← starNamed k
  if mayBeKey && (← sign? ":") then
    let value ← k.expression
    if ← atClause then
      let cs ← clauses k
      sign "\x7d"
      return .dictComp first value cs
    let (others, _) ← commaTail k.bound (dictEntry k)
    sign "\x7d"
    return .dict (.pair first value :: others)
  let isStarred := match first with
    | .starred _ => true
    | _ => false
  if !isStarred && (← atClause) then
    let cs ← clauses k
    sign "\x7d"
    return .setComp first cs
  let (others, _) ← commaTail k.bound (starNamed k)
  sign "\x7d"
  return .set (first :: others)

/-! ## The levels -/

/-- The expression that a piece of source text is, in parentheses of its own. -/
def expressionOf (k : Nested) (text : List Char) : Option Expr := do
  let tokens ← Token.scan ('(' :: text ++ [')'])
  let (e, _) ← ((starExpressions k).run ⟨tokens, 0⟩).toOption
  some e

/-- Literals that stand one after the other. -/
def literals (k : Nested) : Reader Expr := do
  let ls ← repeated k.bound do
    match ← peek with
    | .string l => do
      discard next
      return some l
    | _ => return none
  match literalValue (expressionOf k) ls with
  | some e => return e
  | none => failure

/-- A name, a literal or something in brackets. -/
def atom (k : Nested) : Reader Expr := do
  match ← peek with
  | .name id => do
    discard next
    return .name id.text
  | .number value => do
    discard next
    return .constant value
  | .string _ => literals k
  | .keyword "None" => do
    discard next
    return .constant .none
  | .keyword "True" => do
    discard next
    return .constant (.bool true)
  | .keyword "False" => do
    discard next
    return .constant (.bool false)
  | .sign "..." => do
    discard next
    return .constant .ellipsis
  | .sign "(" => do
    discard next
    parenthesized k
  | .sign "[" => do
    discard next
    bracketed k
  | .sign "\x7b" => do
    discard next
    braced k
  | _ => failure

/-- What follows an atom: an attribute, a call or a subscript. -/
inductive Trailer
  | member (name : String)
  | call (arguments : List Expr) (keywords : List Keyword)
  | subscript (index : Expr)

/-- The expression with what follows it. -/
def Trailer.apply (e : Expr) : Trailer → Expr
  | member name => .attribute e name
  | call arguments keywords => .call e arguments keywords
  | subscript index => .subscript e index

/-- What follows an atom, if anything does. -/
def trailer (k : Nested) : Reader (Option Trailer) := do
  if ← sign? "." then return some (.member (← name))
  else if ← sign? "(" then
    let (arguments, keywords) ← arguments k true
    return some (.call arguments keywords)
  else if ← sign? "[" then return some (.subscript (← indices k))
  else return none

/-- An atom with everything that follows it. -/
def primary (k : Nested) : Reader Expr := do
  let e ← atom k
  let trailers ← repeated k.bound (trailer k)
  return trailers.foldl Trailer.apply e

/-- A primary expression, perhaps awaited, perhaps raised to a power. -/
def power (k : Nested) : Reader Expr := do
  let base ← (do if ← keyword? "await" then return Expr.await (← primary k) else primary k)
  if ← sign? "**" then return .binary base .pow (← k.factor) else return base

/-- An expression with a sign in front of it. -/
def factor (k : Nested) : Reader Expr := do
  if ← sign? "+" then return .unary .plus (← k.factor)
  else if ← sign? "-" then return .unary .minus (← k.factor)
  else if ← sign? "~" then return .unary .invert (← k.factor)
  else power k

/-- Operands with operators of one level between them, grouped to the left. -/
def leftGrouped (k : Nested) (operators : List (String × BinaryOp)) (operand : Reader Expr) :
    Reader Expr := do
  let first ← operand
  let others ← repeated k.bound do
    match ← peek with
    | .sign s =>
      match operators.lookup s with
      | some op => do
        discard next
        return some (op, ← operand)
      | none => return none
    | _ => return none
  return others.foldl (fun left (op, right) => .binary left op right) first

/-- Products. -/
def term (k : Nested) : Reader Expr :=
  leftGrouped k [("*", .mul), ("/", .div), ("//", .floorDiv), ("%", .mod), ("@", .matMul)] (factor k)

/-- Sums. -/
def sum (k : Nested) : Reader Expr := leftGrouped k [("+", .add), ("-", .sub)] (term k)

/-- Shifts. -/
def shift (k : Nested) : Reader Expr :=
  leftGrouped k [("<<", .shiftLeft), (">>", .shiftRight)] (sum k)

/-- Operators on values, from the loosest one down. -/
def bitOr (k : Nested) : Reader Expr :=
  leftGrouped k [("|", .bitOr)]
    (leftGrouped k [("^", .bitXor)] (leftGrouped k [("&", .bitAnd)] (shift k)))

/-- A comparison sign, if one stands here. -/
def compareOp : Reader (Option CompareOp) := do
  match ← peek, ← peekSecond with
  | .sign "==", _ => discard next *> pure (some .eq)
  | .sign "!=", _ => discard next *> pure (some .notEq)
  | .sign "<", _ => discard next *> pure (some .lt)
  | .sign "<=", _ => discard next *> pure (some .le)
  | .sign ">", _ => discard next *> pure (some .gt)
  | .sign ">=", _ => discard next *> pure (some .ge)
  | .keyword "in", _ => discard next *> pure (some .member)
  | .keyword "not", .keyword "in" => discard next *> discard next *> pure (some .notMember)
  | .keyword "is", .keyword "not" => discard next *> discard next *> pure (some .notSame)
  | .keyword "is", _ => discard next *> pure (some .same)
  | _, _ => pure none

/-- A chain of comparisons. -/
def comparison (k : Nested) : Reader Expr := do
  let left ← bitOr k
  let links ← repeated k.bound do
    match ← compareOp with
    | some op => return some (Comparison.link op (← bitOr k))
    | none => return none
  if links.isEmpty then return left else return .compare left links

/-- A condition, perhaps negated. -/
def inversion (k : Nested) : Reader Expr := do
  if ← keyword? "not" then return .unary .not (← k.inversion) else comparison k

/-- Operands joined by one word. -/
def joined (k : Nested) (word : String) (op : BoolOp) (operand : Reader Expr) : Reader Expr := do
  let first ← operand
  let others ← repeated k.bound do
    if ← keyword? word then some <$> operand else pure none
  if others.isEmpty then return first else return .boolean op (first :: others)

/-- Conditions joined by `and` and `or`. -/
def disjunction (k : Nested) : Reader Expr :=
  joined k "or" .or (joined k "and" .and (inversion k))

/-- A function literal. The word has been read. -/
def lambda (k : Nested) : Reader Expr := do
  let params ← parameters k false ":"
  sign ":"
  return .lambda params (← k.expression)

/-- An expression that is no tuple without parentheses. -/
def expression (k : Nested) : Reader Expr := do
  if ← keyword? "lambda" then lambda k
  else
    let value ← disjunction k
    if ← keyword? "if" then
      let condition ← disjunction k
      keyword "else"
      return .conditional condition value (← k.expression)
    else return value

namespace Nested

/-- The readers of the next greater depth. -/
def deeper (k : Nested) : Nested where
  bound := k.bound
  expression := Grammar.expression k
  disjunction := Grammar.disjunction k
  inversion := Grammar.inversion k
  bitOr := Grammar.bitOr k
  factor := Grammar.factor k
  primary := Grammar.primary k

/-- The readers of a given depth, for at most `bound` tokens. -/
def ofDepth (bound : Nat) : Nat → Nested
  | 0 => none bound
  | depth + 1 => deeper (ofDepth bound depth)

end Nested

end Grammar

end ServiceStubs
