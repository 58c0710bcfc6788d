import ServiceStubs.Grammar.Pattern

/-!
# Reading statements

The grammar of statements and modules. A block inside a block is read at the next smaller depth;
the scanner lets no more than `Token.maxBlocks` blocks be open at once.

## Main definitions

* `Grammar.statements`: the statements of a block
* `Grammar.readModule`: the statements of a source text, or the place where it stops being one
-/

namespace ServiceStubs

-- Sums start from the core library's zero, whatever else is imported.
attribute [local instance (10000)] Zero.ofOfNat0

namespace Grammar

open Tree Reader

/-! ## Simple statements -/

/-- What stands to the right of an assignment. -/
def assigned (k : Nested) : Reader Expr := do
  if ← atKeyword "yield" then yieldExpression k else starExpressions k

/-- The signs that change a value in place. -/
def augmentedSigns : List (String × BinaryOp) :=
  [("+=", .add), ("-=", .sub), ("*=", .mul), ("@=", .matMul), ("/=", .div), ("%=", .mod),
    ("&=", .bitAnd), ("|=", .bitOr), ("^=", .bitXor), ("<<=", .shiftLeft), (">>=", .shiftRight),
    ("**=", .pow), ("//=", .floorDiv)]

/-- A statement that starts with an expression: an assignment of some kind, or the expression
alone. -/
def expressionStatement (k : Nested) : Reader StmtNode := do
  let startsWithName ← (do
    match ← peek with
    | .name _ => return true
    | _ => return false : Reader Bool)
  let first ← starExpressions k
  match ← peek with
  | .sign ":" => do
    if !isSingleTarget first then failure
    discard next
    let type ← k.expression
    let value ← (do if ← sign? "=" then some <$> assigned k else pure none : Reader (Option Expr))
    let isName := match first with
      | .name _ => true
      | _ => false
    return .annotated first type value (startsWithName && isName)
  | .sign "=" => do
    let others ← repeated k.bound do
      if ← sign? "=" then some <$> assigned k else pure none
    let all := first :: others
    if areTargets all.dropLast then
      match all.getLast? with
      | some value => return .assign all.dropLast value
      | none => failure
    else failure
  | .sign s =>
    match augmentedSigns.lookup s with
    | some op => do
      if !isSingleTarget first then failure
      discard next
      return .augmented first op (← assigned k)
    | none => return .expression first
  | _ => return .expression first

/-- A module name with dots in it. -/
def dottedPath (k : Nested) : Reader String := do
  let parts ← separated k.bound "." name
  return String.intercalate "." parts

/-- An imported name, perhaps with another one to bind it to. -/
def aliased (imported : Reader String) : Reader Alias := do
  let id ← imported
  let asName ← (do if ← keyword? "as" then some <$> name else pure none : Reader (Option String))
  return ⟨id, asName⟩

/-- The dots in front of a module name. -/
def leadingDots (k : Nested) : Reader Nat := do
  let dots ← repeated k.bound do
    if ← sign? "." then pure (some 1)
    else if ← sign? "..." then pure (some 3)
    else pure none
  return dots.sum

/-- An import of names from a module. The first word has been read. -/
def importFrom (k : Nested) : Reader StmtNode := do
  let level ← leadingDots k
  let module ← (do
    if level > 0 && (← atKeyword "import") then pure none
    else some <$> dottedPath k : Reader (Option String))
  keyword "import"
  if ← sign? "*" then return .importFrom module [⟨"*", none⟩] level
  else if ← sign? "(" then
    let (names, _) ← commaList k.bound (aliased name)
    sign ")"
    return .importFrom module names level
  else
    let names ← separated k.bound "," (aliased name)
    return .importFrom module names level

/-- A statement on one line. -/
def simpleNode (k : Nested) : Reader StmtNode := do
  match ← peek with
  | .keyword "return" => do
    discard next
    return .returnValue (← optional (starExpressions k))
  | .keyword "import" => do
    discard next
    return .importModules (← separated k.bound "," (aliased (dottedPath k)))
  | .keyword "from" => do
    discard next
    importFrom k
  | .keyword "raise" => do
    discard next
    match ← optional k.expression with
    | none => return .raiseError none none
    | some error =>
      if ← keyword? "from" then return .raiseError (some error) (some (← k.expression))
      else return .raiseError (some error) none
  | .keyword "pass" => discard next *> pure .pass
  | .keyword "break" => discard next *> pure .breakLoop
  | .keyword "continue" => discard next *> pure .continueLoop
  | .keyword "del" => do
    discard next
    let (targets, _) ← commaList k.bound k.primary
    if areDeletable targets then return .delete targets else failure
  | .keyword "yield" => return .expression (← yieldExpression k)
  | .keyword "assert" => do
    discard next
    let condition ← k.expression
    let message ← (do
      if ← sign? "," then some <$> k.expression else pure none : Reader (Option Expr))
    return .assert condition message
  | .keyword "global" => do
    discard next
    return .globalNames (← separated k.bound "," name)
  | .keyword "nonlocal" => do
    discard next
    return .nonlocalNames (← separated k.bound "," name)
  | _ => expressionStatement k

/-- A construct with its span as a statement. -/
def asStatement (node : Reader StmtNode) : Reader Stmt := do
  let (n, span) ← located node
  return .stmt span n

/-- The statements of one line. -/
def simpleStatements (k : Nested) : Reader (List Stmt) := do
  let first ← asStatement (simpleNode k)
  let others ← repeated k.bound do
    if ← atSign ";" then optional (sign ";" *> asStatement (simpleNode k)) else pure none
  discard (sign? ";")
  kind .newline
  return first :: others

/-! ## Blocks -/

/-- The statements of a block: those behind the colon, or indented lines. -/
def block (k : Nested) (indented : Reader (List Stmt)) : Reader (List Stmt) := do
  if ← kind? .newline then
    kind .indent
    let body ← indented
    kind .dedent
    return body
  else simpleStatements k

/-- A colon and the block behind it. -/
def suite (body : Reader (List Stmt)) : Reader (List Stmt) := sign ":" *> body

/-- The block behind a word, if it stands here. -/
def optionalSuite (word : String) (body : Reader (List Stmt)) : Reader (List Stmt) := do
  if ← keyword? word then suite body else return []

/-- The branches behind the first one. -/
def elseBranches (k : Nested) (body : Reader (List Stmt)) : Nat → Reader (List Stmt)
  | 0 => failure
  | bound + 1 => do
    if ← atKeyword "elif" then
      let branch ← asStatement do
        discard next
        let condition ← namedExpression k
        let thenBody ← suite body
        return .branch condition thenBody (← elseBranches k body bound)
      return [branch]
    else optionalSuite "else" body

/-- A loop over the items of a sequence. The word has been read. -/
def forLoop (k : Nested) (isAsync : Bool) (body : Reader (List Stmt)) : Reader StmtNode := do
  let target ← starTargets k
  keyword "in"
  let source ← starExpressions k
  let loop ← suite body
  return .forLoop isAsync target source loop (← optionalSuite "else" body)

/-- An item of a `with` statement. -/
def withItem (k : Nested) : Reader WithItem := do
  let context ← k.expression
  let target ← (do if ← keyword? "as" then some <$> starTarget k else pure none
    : Reader (Option Expr))
  return ⟨context, target⟩

/-- A `with` statement. The word has been read. Parentheses around all items belong to the
statement, if a colon follows them. -/
def withBlock (k : Nested) (isAsync : Bool) (body : Reader (List Stmt)) : Reader StmtNode := do
  let enclosed : Reader (List WithItem) := do
    sign "("
    let (items, _) ← commaList k.bound (withItem k)
    sign ")"
    if ← atSign ":" then return items else failure
  let items ← enclosed <|> separated k.bound "," (withItem k)
  return .withBlock isAsync items (← suite body)

/-- A handler of a `try` statement, and whether it handles groups of errors. -/
def handler (k : Nested) (body : Reader (List Stmt)) : Reader (Bool × Handler) := do
  keyword "except"
  let grouped ← sign? "*"
  if !grouped && (← atSign ":") then return (false, .handler none none (← suite body))
  let type ← k.expression
  let id ← (do if ← keyword? "as" then some <$> name else pure none : Reader (Option String))
  return (grouped, .handler (some type) id (← suite body))

/-- A `try` statement. The word has been read. -/
def tryBlock (k : Nested) (body : Reader (List Stmt)) : Reader StmtNode := do
  let tried ← suite body
  let handlers ← repeated k.bound do
    if ← atKeyword "except" then some <$> handler k body else pure none
  let orElse ← (if handlers.isEmpty then pure [] else optionalSuite "else" body)
  let always ← optionalSuite "finally" body
  if handlers.isEmpty && always.isEmpty then failure
  let grouped := handlers.any (·.1)
  if grouped && !handlers.all (·.1) then failure
  return .tryBlock grouped tried (handlers.map (·.2)) orElse always

/-- One case of a `match` statement. -/
def matchCase (k : Nested) (body : Reader (List Stmt)) : Reader Case := do
  word "case"
  let pattern ← casePattern k
  let guard ← (do if ← keyword? "if" then some <$> namedExpression k else pure none
    : Reader (Option Expr))
  return .case pattern guard (← suite body)

/-- A `match` statement. -/
def matchOn (k : Nested) (body : Reader (List Stmt)) : Reader StmtNode := do
  word "match"
  let (items, comma) ← commaList k.bound (starNamed k)
  match items, comma with
  | [.starred _], false => failure
  | _, _ => pure ()
  sign ":"
  kind .newline
  kind .indent
  let first ← matchCase k body
  let others ← repeated k.bound do
    if ← kind? .dedent then pure none else some <$> matchCase k body
  return .matchOn (ofList items comma) (first :: others)

/-! ## Definitions -/

/-- A decorator and its span. Parentheses around the whole of it are not part of the span. -/
def decoratorExpr (k : Nested) : Nat → Reader Decorator
  | 0 => failure
  | bound + 1 =>
    let plain : Reader Decorator := do
      let (e, span) ← located (namedExpression k)
      return ⟨e, span⟩
    let enclosed : Reader Decorator := do
      sign "("
      let d ← (do
        if ← atKeyword "yield" then
          let (e, span) ← located (yieldExpression k)
          return ⟨e, span⟩
        else decoratorExpr k bound : Reader Decorator)
      sign ")"
      match ← peek with
      | .sign ")" | .newline => return d
      | _ => failure
    enclosed <|> plain

/-- The decorators in front of a definition. -/
def decorators (k : Nested) : Reader (List Decorator) :=
  repeated k.bound do
    if ← sign? "@" then
      let d ← decoratorExpr k k.bound
      kind .newline
      return some d
    else return none

/-- A function. The word has been read. -/
def functionNode (k : Nested) (isAsync : Bool) (ds : List Decorator)
    (body : Reader (List Stmt)) : Reader StmtNode := do
  let id ← identifier
  sign "("
  let params ← parameters k true ")"
  sign ")"
  let returns ← (do if ← sign? "->" then some <$> k.expression else pure none
    : Reader (Option Expr))
  return .function isAsync id.text params returns ds (← suite body)

/-- A class. The word has been read. -/
def classNode (k : Nested) (ds : List Decorator) (body : Reader (List Stmt)) :
    Reader StmtNode := do
  let id ← identifier
  let (bases, keywords) ← (do
    if ← sign? "(" then arguments k false else pure ([], [])
    : Reader (List Expr × List Keyword))
  return .classDef id.text bases keywords ds (← suite body)

/-- A definition behind its decorators. -/
def definition (k : Nested) (ds : List Decorator) (body : Reader (List Stmt)) : Reader Stmt :=
  asStatement do
    if ← keyword? "class" then classNode k ds body
    else if ← keyword? "async" then
      keyword "def"
      functionNode k true ds body
    else
      keyword "def"
      functionNode k false ds body

/-! ## Statements -/

/-- A statement with blocks of its own, if one starts here. -/
def compound (k : Nested) (body : Reader (List Stmt)) : Reader (Option Stmt) := do
  let after (node : Reader StmtNode) : Reader (Option Stmt) :=
    some <$> asStatement (discard next *> node)
  match ← peek with
  | .sign "@" => do
    let ds ← decorators k
    return some (← definition k ds body)
  | .keyword "def" | .keyword "class" => some <$> definition k [] body
  | .keyword "if" => after do
    let condition ← namedExpression k
    let thenBody ← suite body
    return .branch condition thenBody (← elseBranches k body k.bound)
  | .keyword "while" => after do
    let condition ← namedExpression k
    let loop ← suite body
    return .whileLoop condition loop (← optionalSuite "else" body)
  | .keyword "for" => after (forLoop k false body)
  | .keyword "with" => after (withBlock k false body)
  | .keyword "try" => after (tryBlock k body)
  | .keyword "async" =>
    match ← peekSecond with
    | .keyword "for" => after (discard next *> forLoop k true body)
    | .keyword "with" => after (discard next *> withBlock k true body)
    | _ => some <$> definition k [] body
  | .name id => if id.written == "match" then optional (asStatement (matchOn k body)) else return none
  | _ => return none

/-- The statements of one line, or one statement with its blocks. -/
def statement (k : Nested) (body : Reader (List Stmt)) : Reader (List Stmt) := do
  match ← compound k body with
  | some s => return [s]
  | none => simpleStatements k

/-- The statements of a block with at most `depth` blocks inside each other, at least one, up to
the end of the block. -/
def statements (k : Nested) : Nat → Reader (List Stmt)
  | 0 => failure
  | depth + 1 => do
    let groups ← repeated k.bound do
      match ← peek with
      | .dedent | .endOfText => return none
      | _ => return some (← statement k (block k (statements k depth)))
    return groups.flatten

/-- The statements of a source text, or the place where it breaks the grammar. A text with a null
character is no source text at all.

Names are in normal form, whatever they look like in the source. Which texts are refused is the
language's matter; the place that is named for a text that is refused, and the words that go with
it, are ours: the language has many more of both. -/
def readModule (source : List Char) : Except Position (List Stmt) := do
  if source.contains '\x00' then throw ⟨0, 0⟩
  let scanned := Token.scanAll source
  let bound := (Text.withLineFeeds source).length + scanned.tokens.length + 2
  let k := Nested.ofDepth bound bound
  let (body, rest) ← (statements k (Token.maxBlocks + 1)).run ⟨scanned.tokens, 0⟩
  match rest.tokens with
  | [t] => if t.kind == .endOfText && scanned.isComplete then pure body else throw rest.place
  | _ => throw rest.place

end Grammar

end ServiceStubs
