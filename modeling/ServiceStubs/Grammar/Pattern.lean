import ServiceStubs.Grammar.Expr
import ServiceStubs.Tree.Stmt

/-!
# Reading patterns

The patterns of `match` statements. As for expressions, a pattern inside another one is read at the
next smaller depth.
-/

namespace ServiceStubs

namespace Grammar

open Tree Reader

/-- The name that a pattern binds. An underscore binds nothing, and a name that goes on is no
capture. -/
def captureName : Reader String := do
  let id ← identifier
  if id.written == "_" then failure
  match ← peek with
  | .sign "." | .sign "(" | .sign "=" => failure
  | _ => return id.text

/-- Whether a literal is an imaginary number. -/
def isImaginary : Constant → Bool
  | .imaginary _ => true
  | _ => false

/-- A number, perhaps with a sign, perhaps with an imaginary part added. -/
def numberPattern : Reader Expr := do
  let number : Reader Constant := do
    match ← next with
    | .number value => return value
    | _ => failure
  let isNegative ← sign? "-"
  let value ← number
  let real : Expr := if isNegative then .unary .minus (.constant value) else .constant value
  let part (op : BinaryOp) : Reader Expr := do
    discard next
    let imaginary ← number
    if isImaginary value || !isImaginary imaginary then failure
    return .binary real op (.constant imaginary)
  match ← peek with
  | .sign "+" => part .add
  | .sign "-" => part .sub
  | _ => return real

/-- A name with attributes behind it, and whether there are any. -/
def dottedName (k : Nested) : Reader (Expr × Bool) := do
  let id ← name
  let attributes ← repeated k.bound do
    if ← sign? "." then some <$> name else pure none
  return (attributes.foldl .attribute (.name id), !attributes.isEmpty)

/-- A key of a mapping pattern. -/
def mappingKey (k : Nested) : Reader Expr := do
  match ← peek with
  | .number _ | .sign "-" => numberPattern
  | .string _ => literals k
  | .keyword "None" => discard next *> pure (.constant .none)
  | .keyword "True" => discard next *> pure (.constant (.bool true))
  | .keyword "False" => discard next *> pure (.constant (.bool false))
  | _ => do
    let (e, isDotted) ← dottedName k
    if isDotted then return e else failure

/-- A pattern, or the rest of a sequence. -/
def starPattern (inner : Reader Pattern) : Reader Pattern := do
  if ← sign? "*" then
    if ← word? "_" then return .star none else return .star (some (← captureName))
  else inner

/-- Whether a pattern stands for the rest of a sequence. -/
def isStarPattern : Pattern → Bool
  | .star _ => true
  | _ => false

/-- The patterns of a sequence up to its closing bracket, and whether they make up a sequence
without the bracket. -/
def sequencePatterns (k : Nested) (inner : Reader Pattern) (closer : String) :
    Reader (List Pattern × Bool) := do
  if ← sign? closer then return ([], true)
  let (patterns, comma) ← commaList k.bound (starPattern inner)
  sign closer
  return (patterns, comma || patterns.length != 1)

/-- An entry of a mapping pattern: a key and its pattern, or the name of the rest. -/
def mappingEntry (k : Nested) (inner : Reader Pattern) : Reader (Expr × Pattern ⊕ String) := do
  if ← sign? "**" then return .inr (← captureName)
  else
    let key ← mappingKey k
    sign ":"
    return .inl (key, ← inner)

/-- The pattern of a mapping. The name of the rest comes last. -/
def mappingOf (entries : List (Expr × Pattern ⊕ String)) : Option Pattern :=
  let pairs := entries.filterMap fun
    | .inl p => some p
    | .inr _ => none
  let rest := entries.filterMap fun
    | .inl _ => none
    | .inr n => some n
  match rest with
  | [] => some (.mapping (pairs.map (·.1)) (pairs.map (·.2)) none)
  | [n] =>
    match entries.getLast? with
    | some (.inr _) => some (.mapping (pairs.map (·.1)) (pairs.map (·.2)) (some n))
    | _ => none
  | _ => none

/-- An argument of a class pattern. -/
def typeArgument (inner : Reader Pattern) : Reader (Option String × Pattern) := do
  match ← peek, ← peekSecond with
  | .name id, .sign "=" => do
    discard next
    discard next
    return (some id.text, ← inner)
  | _, _ => return (none, ← inner)

/-- The pattern of a class. Patterns with names come last. -/
def typeOf (type : Expr) (arguments : List (Option String × Pattern)) : Option Pattern :=
  let positional := arguments.takeWhile (·.1.isNone)
  let named := arguments.dropWhile (·.1.isNone)
  if named.all (·.1.isSome) then
    some (.type type (positional.map (·.2)) (named.filterMap (·.1)) (named.map (·.2)))
  else none

/-- A pattern that needs no brackets. -/
def closedPattern (k : Nested) (inner : Reader Pattern) : Reader Pattern := do
  match ← peek with
  | .number _ | .sign "-" => return .value (← numberPattern)
  | .string _ => return .value (← literals k)
  | .keyword "None" => discard next *> pure (.constant .none)
  | .keyword "True" => discard next *> pure (.constant (.bool true))
  | .keyword "False" => discard next *> pure (.constant (.bool false))
  | .sign "(" => do
    discard next
    let (patterns, isSequence) ← sequencePatterns k inner ")"
    match patterns, isSequence with
    | [p], false => if isStarPattern p then failure else return p
    | _, _ => return .sequence patterns
  | .sign "[" => do
    discard next
    return .sequence (← sequencePatterns k inner "]").1
  | .sign "\x7b" => do
    discard next
    if ← sign? "\x7d" then return .mapping [] [] none
    let (entries, _) ← commaList k.bound (mappingEntry k inner)
    sign "\x7d"
    match mappingOf entries with
    | some p => return p
    | none => failure
  | .name _ =>
    if ← word? "_" then return .wildcard
    (do return .capture none (← captureName)) <|> do
      let (e, isDotted) ← dottedName k
      if ← sign? "(" then
        if ← sign? ")" then return .type e [] [] []
        let (arguments, _) ← commaList k.bound (typeArgument inner)
        sign ")"
        match typeOf e arguments with
        | some p => return p
        | none => failure
      else if isDotted && !(← atSign "=") then return .value e
      else failure
  | _ => failure

/-- Patterns of which one has to match, perhaps with a name for what it matches. -/
def anyPattern (k : Nested) (inner : Reader Pattern) : Reader Pattern := do
  let alternatives ← separated k.bound "|" (closedPattern k inner)
  let pattern := match alternatives with
    | [p] => p
    | ps => .or ps
  if ← keyword? "as" then return .capture (some pattern) (← captureName) else return pattern

/-- The patterns of a given depth. -/
def patternOfDepth (k : Nested) : Nat → Reader Pattern
  | 0 => failure
  | depth + 1 => anyPattern k (patternOfDepth k depth)

/-- The pattern of a case, which may be a sequence without brackets. -/
def casePattern (k : Nested) : Reader Pattern := do
  let (patterns, comma) ← commaList k.bound (starPattern (patternOfDepth k k.bound))
  match patterns, comma with
  | [p], false => if isStarPattern p then failure else return p
  | _, _ => return .sequence patterns

end Grammar

end ServiceStubs
