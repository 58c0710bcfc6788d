import ServiceStubs.Tree.Expr
import ServiceStubs.Text.QuoteChoice

/-!
# The written form of an expression

An expression is written on one line with the fewest parentheses its operators need. Every operator
has a level; an operand is put in parentheses when it binds less tightly than its place demands.

One expression has no written form: a formatted text whose inner expression cannot be written
without a backslash. Writing it fails with `Unwritable`.

## Main definitions

* `Tree.Level`: how tightly an expression binds
* `Tree.Expr.write`: the written form in a place that demands a level
* `Tree.Expr.text`: the written form of an expression that stands alone
* `Tree.Keyword.text`: the written form of a keyword argument
-/

namespace ServiceStubs

namespace Tree

/-- The expression holds a formatted text that cannot be written. -/
inductive Unwritable
  | backslashInFormatted
  deriving DecidableEq, Repr

/-- The wording of the failure. -/
def Unwritable.text : Unwritable → String
  | backslashInFormatted => "Unable to avoid backslash in f-string expression part"

/-- How tightly an expression binds. -/
abbrev Level := Nat

namespace Level

/-- The level of a named expression. -/
def named : Level := 1
/-- The level of a tuple without parentheses. -/
def tuple : Level := 2
/-- The level of `yield`. -/
def yield : Level := 3
/-- The level of a conditional expression and of a function literal. -/
def test : Level := 4
/-- The level of `or`. -/
def or : Level := 5
/-- The level of `and`. -/
def and : Level := 6
/-- The level of `not`. -/
def not : Level := 7
/-- The level of comparisons. -/
def compare : Level := 8
/-- The level of `|`, the loosest of the operators on values. -/
def bitOr : Level := 9
/-- The level of the signs. -/
def factor : Level := 15
/-- The level of powers. -/
def power : Level := 16
/-- The level of `await`. -/
def await : Level := 17
/-- The level of names, literals, displays and what is in parentheses. -/
def atom : Level := 18

/-- The next tighter level. -/
def next (l : Level) : Level := min (l + 1) atom

end Level

namespace UnaryOp

/-- How the operator is written in front of its operand. -/
def text : UnaryOp → String
  | invert => "~"
  | not => "not "
  | plus => "+"
  | minus => "-"

/-- The level of the operator. -/
def level : UnaryOp → Level
  | not => Level.not
  | _ => Level.factor

end UnaryOp

namespace BinaryOp

/-- The sign of the operator. -/
def text : BinaryOp → String
  | add => "+"
  | sub => "-"
  | mul => "*"
  | matMul => "@"
  | div => "/"
  | mod => "%"
  | floorDiv => "//"
  | pow => "**"
  | shiftLeft => "<<"
  | shiftRight => ">>"
  | bitOr => "|"
  | bitXor => "^"
  | bitAnd => "&"

/-- The level of the operator. -/
def level : BinaryOp → Level
  | bitOr => 9
  | bitXor => 10
  | bitAnd => 11
  | shiftLeft | shiftRight => 12
  | add | sub => 13
  | mul | matMul | div | mod | floorDiv => 14
  | pow => Level.power

/-- The level that the left operand has to have. Powers group to the right. -/
def leftLevel (op : BinaryOp) : Level :=
  if op = pow then op.level.next else op.level

/-- The level that the right operand has to have. -/
def rightLevel (op : BinaryOp) : Level :=
  if op = pow then op.level else op.level.next

end BinaryOp

namespace BoolOp

/-- The word of the operator. -/
def text : BoolOp → String
  | and => "and"
  | or => "or"

/-- The level of the operator. -/
def level : BoolOp → Level
  | and => Level.and
  | or => Level.or

end BoolOp

namespace CompareOp

/-- The sign or word of the comparison. -/
def text : CompareOp → String
  | eq => "=="
  | notEq => "!="
  | lt => "<"
  | le => "<="
  | gt => ">"
  | ge => ">="
  | same => "is"
  | notSame => "is not"
  | member => "in"
  | notMember => "not in"

end CompareOp

namespace Conversion

/-- The letter of the conversion. -/
def letter : Conversion → String
  | str => "s"
  | repr => "r"
  | ascii => "a"

end Conversion

/-- The text in parentheses if the condition holds. -/
def parenthesizedIf (condition : Bool) (text : String) : String :=
  if condition then "(" ++ text ++ ")" else text

/-- The written form of a number, where an infinite one is the smallest literal that overflows. -/
def numberText (x : Binary64) (bare : Bool) : String :=
  match x.reading with
  | .infinite negative => if negative then "-1e309" else "1e309"
  | _ => x.format bare

/-- The written form of a literal. With `plain`, a text is written with few backslashes. -/
def Constant.write (plain : Bool) : Constant → String
  | none => "None"
  | bool true => "True"
  | bool false => "False"
  | ellipsis => "..."
  | int value => toString value
  | float value => numberText value false
  | imaginary value => numberText value true ++ "j"
  | text value marked =>
    (if marked then "u" else "") ++
      String.ofList (if plain then Text.quotedPlainly value.toList else Text.quoted value.toList)
  | bytes value => String.ofList (Text.quotedBytes value)

/-- A brace stands twice in the characters of a formatted text. -/
def doubleBraces (cs : List Char) : List Char :=
  cs.flatMap fun c => if c == '\x7b' || c == '\x7d' then [c, c] else [c]

/-- A list of parts with a comma after the only one. -/
def commaList : List String → String
  | [one] => one ++ ","
  | parts => String.intercalate ", " parts

/-- Whether the expression is a number that a point after it would make a different one. -/
def Expr.isWholeNumber : Expr → Bool
  | .constant (.int _) | .constant (.bool _) => true
  | _ => false

/-- The kinds of the parameters with their written forms, the markers `/` and `*` put in where the
kinds change. -/
def paramTexts (slash star : Bool) : List (ParamKind × String) → List String
  | [] => if slash then ["/"] else []
  | (kind, text) :: rest =>
    match kind with
    | .positional => text :: paramTexts true star rest
    | .rest => (if slash then ["/"] else []) ++ text :: paramTexts false false rest
    | .keyword =>
      (if slash then ["/"] else []) ++ (if star then ["*"] else []) ++
        text :: paramTexts false false rest
    | _ => (if slash then ["/"] else []) ++ text :: paramTexts false star rest

/-- The stars in front of a parameter. -/
def ParamKind.stars : ParamKind → String
  | rest => "*"
  | keywordRest => "**"
  | _ => ""

mutual

/-- The written form of an expression in a place that demands `level`. With `plain`, the place is
inside a formatted text, where backslashes are avoided. -/
def Expr.write (plain : Bool) (level : Level) : Expr → Except Unwritable String
  | .name id => pure id
  | .constant value => pure (value.write plain)
  | .formatted parts => do
    let pieces ← TextPart.writeAll parts
    if plain then
      pure ("f" ++ String.ofList (Text.quotedPlainly (pieces.flatMap (·.1))))
    else
      let (body, quote) := Text.encloseAll pieces
      pure ("f" ++ String.ofList (quote ++ body ++ quote))
  | .tuple items => do
    let texts ← Expr.writeAll plain items
    pure (parenthesizedIf (items.isEmpty || level > Level.tuple) (commaList texts))
  | .list items => do
    pure ("[" ++ String.intercalate ", " (← Expr.writeAll plain items) ++ "]")
  | .set items => do
    pure ("\x7b" ++ String.intercalate ", " (← Expr.writeAll plain items) ++ "\x7d")
  | .dict entries => do
    pure ("\x7b" ++ String.intercalate ", " (← DictEntry.writeAll plain entries) ++ "\x7d")
  | .unary op operand => do
    let text ← operand.write plain op.level
    pure (parenthesizedIf (level > op.level) (op.text ++ text))
  | .binary left op right => do
    let leftText ← left.write plain op.leftLevel
    let rightText ← right.write plain op.rightLevel
    pure (parenthesizedIf (level > op.level) (leftText ++ " " ++ op.text ++ " " ++ rightText))
  | .boolean op operands => do
    let texts ← Expr.writeRising plain op.level.next operands
    pure (parenthesizedIf (level > op.level) (String.intercalate (" " ++ op.text ++ " ") texts))
  | .compare left links => do
    let leftText ← left.write plain (Level.next Level.compare)
    let linkText ← Comparison.writeAll plain links
    pure (parenthesizedIf (level > Level.compare) (leftText ++ linkText))
  | .call function arguments keywords => do
    let functionText ← function.write plain Level.atom
    let texts ← Expr.writeAll plain arguments
    let keywordTexts ← Keyword.writeAll plain keywords
    pure (functionText ++ "(" ++ String.intercalate ", " (texts ++ keywordTexts) ++ ")")
  | .attribute value name => do
    let text ← value.write plain Level.atom
    pure (text ++ (if value.isWholeNumber then " ." else ".") ++ name)
  | .subscript value index => do
    let text ← value.write plain Level.atom
    match index with
    | .tuple (item :: items) => do
      let texts ← Expr.writeAll plain (item :: items)
      pure (text ++ "[" ++ commaList texts ++ "]")
    | other => do
      let inner ← other.write plain Level.test
      pure (text ++ "[" ++ inner ++ "]")
  | .slice lower upper step => do
    let lowerText ← Expr.writeOption plain "" lower
    let upperText ← Expr.writeOption plain "" upper
    let stepText ← Expr.writeOption plain ":" step
    pure (lowerText ++ ":" ++ upperText ++ stepText)
  | .starred value => do
    pure ("*" ++ (← value.write plain Level.bitOr))
  | .conditional condition thenValue elseValue => do
    let thenText ← thenValue.write plain (Level.next Level.test)
    let conditionText ← condition.write plain (Level.next Level.test)
    let elseText ← elseValue.write plain Level.test
    pure (parenthesizedIf (level > Level.test)
      (thenText ++ " if " ++ conditionText ++ " else " ++ elseText))
  | .lambda params body => do
    let texts ← Param.writeAll plain params
    let bodyText ← body.write plain Level.test
    let head := if texts.isEmpty then "lambda"
      else "lambda " ++ String.intercalate ", " (paramTexts false true texts)
    pure (parenthesizedIf (level > Level.test) (head ++ ": " ++ bodyText))
  | .named target value => do
    let text ← value.write plain Level.atom
    pure (parenthesizedIf (level > Level.named) (target ++ " := " ++ text))
  | .await value => do
    let text ← value.write plain Level.atom
    pure (parenthesizedIf (level > Level.await) ("await " ++ text))
  | .yield none => pure (parenthesizedIf (level > Level.yield) "yield")
  | .yield (some value) => do
    let text ← value.write plain Level.atom
    pure (parenthesizedIf (level > Level.yield) ("yield " ++ text))
  | .yieldFrom value => do
    let text ← value.write plain Level.atom
    pure (parenthesizedIf (level > Level.yield) ("yield from " ++ text))
  | .listComp item clauses => do
    let text ← item.write plain Level.test
    pure ("[" ++ text ++ (← Clause.writeAll plain clauses) ++ "]")
  | .setComp item clauses => do
    let text ← item.write plain Level.test
    pure ("\x7b" ++ text ++ (← Clause.writeAll plain clauses) ++ "\x7d")
  | .dictComp key value clauses => do
    let keyText ← key.write plain Level.test
    let valueText ← value.write plain Level.test
    pure ("\x7b" ++ keyText ++ ": " ++ valueText ++ (← Clause.writeAll plain clauses) ++ "\x7d")
  | .generator item clauses => do
    let text ← item.write plain Level.test
    pure ("(" ++ text ++ (← Clause.writeAll plain clauses) ++ ")")

/-- The written forms of expressions between commas. -/
def Expr.writeAll (plain : Bool) : List Expr → Except Unwritable (List String)
  | [] => pure []
  | e :: rest => do
    let text ← e.write plain Level.test
    pure (text :: (← Expr.writeAll plain rest))

/-- The written forms of the operands of `and` or `or`, each in a tighter place than the last. -/
def Expr.writeRising (plain : Bool) (level : Level) : List Expr → Except Unwritable (List String)
  | [] => pure []
  | e :: rest => do
    let text ← e.write plain level
    pure (text :: (← Expr.writeRising plain level.next rest))

/-- The written form of a part that may be missing, with a mark in front if it is there. -/
def Expr.writeOption (plain : Bool) (mark : String) : Option Expr → Except Unwritable String
  | none => pure ""
  | some e => do pure (mark ++ (← e.write plain Level.test))

/-- The pieces of a formatted text, each with whether it is characters. -/
def TextPart.writeAll : List TextPart → Except Unwritable (List (List Char × Bool))
  | [] => pure []
  | part :: rest => do
    let piece ← part.write
    pure (piece :: (← TextPart.writeAll rest))

/-- One piece of a formatted text. -/
def TextPart.write : TextPart → Except Unwritable (List Char × Bool)
  | .chars text => pure (doubleBraces text.toList, true)
  | .value value conversion format => do
    let inner := (← value.write true (Level.next Level.test)).toList
    if inner.contains '\\' then throw .backslashInFormatted
    let gap := if inner.head? == some '\x7b' then [' '] else []
    let mark := match conversion with
      | none => []
      | some c => '!' :: c.letter.toList
    let tail ← TextPart.writeFormat format
    pure ('\x7b' :: gap ++ inner ++ mark ++ tail ++ ['\x7d'], false)

/-- The format of a formatted value. -/
def TextPart.writeFormat : Option (List TextPart) → Except Unwritable (List Char)
  | none => pure []
  | some parts => do
    let pieces ← TextPart.writeAll parts
    pure (':' :: pieces.flatMap (·.1))

/-- The written forms of the entries of a dictionary display. -/
def DictEntry.writeAll (plain : Bool) : List DictEntry → Except Unwritable (List String)
  | [] => pure []
  | .pair key value :: rest => do
    let keyText ← key.write plain Level.test
    let valueText ← value.write plain Level.test
    pure ((keyText ++ ": " ++ valueText) :: (← DictEntry.writeAll plain rest))
  | .unpack value :: rest => do
    let text ← value.write plain Level.bitOr
    pure (("**" ++ text) :: (← DictEntry.writeAll plain rest))

/-- The written form of the links of a chain of comparisons. -/
def Comparison.writeAll (plain : Bool) : List Comparison → Except Unwritable String
  | [] => pure ""
  | .link op right :: rest => do
    let text ← right.write plain (Level.next Level.compare)
    pure (" " ++ op.text ++ " " ++ text ++ (← Comparison.writeAll plain rest))

/-- The written forms of keyword arguments. -/
def Keyword.writeAll (plain : Bool) : List Keyword → Except Unwritable (List String)
  | [] => pure []
  | .keyword name value :: rest => do
    let text ← value.write plain Level.test
    let head := match name with
      | none => "**"
      | some n => n ++ "="
    pure ((head ++ text) :: (← Keyword.writeAll plain rest))

/-- The written form of the clauses of a comprehension. -/
def Clause.writeAll (plain : Bool) : List Clause → Except Unwritable String
  | [] => pure ""
  | .clause isAsync target source conditions :: rest => do
    let targetText ← target.write plain Level.tuple
    let sourceText ← source.write plain (Level.next Level.test)
    let conditionText ← Expr.writeConditions plain conditions
    pure ((if isAsync then " async for " else " for ") ++ targetText ++ " in " ++ sourceText ++
      conditionText ++ (← Clause.writeAll plain rest))

/-- The written form of the conditions of a clause. -/
def Expr.writeConditions (plain : Bool) : List Expr → Except Unwritable String
  | [] => pure ""
  | e :: rest => do
    let text ← e.write plain (Level.next Level.test)
    pure (" if " ++ text ++ (← Expr.writeConditions plain rest))

/-- The kinds and written forms of the parameters of a function. -/
def Param.writeAll (plain : Bool) : List Param → Except Unwritable (List (ParamKind × String))
  | [] => pure []
  | .param kind name type defaultValue _ :: rest => do
    let typeText ← Expr.writeOption plain ": " type
    let defaultText ← Expr.writeOption plain "=" defaultValue
    pure ((kind, kind.stars ++ name ++ typeText ++ defaultText) ::
      (← Param.writeAll plain rest))

end

/-- The written form of an expression that stands alone. -/
def Expr.text (e : Expr) : Except Unwritable String := e.write false Level.test

/-- The written form of a keyword argument. -/
def Keyword.text : Keyword → Except Unwritable String
  | .keyword name value => do
    let head := match name with
      | none => "**"
      | some n => n ++ "="
    pure (head ++ (← value.text))

end Tree

end ServiceStubs
