import ServiceStubs.Text.Identifier
import ServiceStubs.Text.Normal
import ServiceStubs.Tree.Expr

/-!
# Tokens

The tokens of a module's source. Line structure is part of them: a newline ends a logical line,
and a change of indentation is a token of its own. White space, comments and joined lines are
gone.
-/

namespace ServiceStubs

namespace Token

/-- A literal of characters or bytes as it stands in the source, the quotes taken off. -/
structure StringLiteral where
  /-- Backslashes stand for themselves. -/
  isRaw : Bool
  /-- The literal denotes bytes. -/
  isBytes : Bool
  /-- The literal holds expressions in braces. -/
  isFormatted : Bool
  /-- The literal starts with a small `u`. -/
  isMarked : Bool
  body : List Char
  deriving DecidableEq, Repr

/-- The reserved words. -/
def keywords : List String :=
  ["False", "None", "True", "and", "as", "assert", "async", "await", "break", "class", "continue",
    "def", "del", "elif", "else", "except", "finally", "for", "from", "global", "if", "import",
    "in", "is", "lambda", "nonlocal", "not", "or", "pass", "raise", "return", "try", "while",
    "with", "yield"]

/-- A name: an identifier in normal form. It is written as a text of that normal form, which is no
reserved word. -/
structure Name extends Text.Identifier where
  isNormal : Text.normalForm text.toList = text.toList
  /-- The text in the source. -/
  written : String
  deriving DecidableEq, Repr

/-- What a token is. -/
inductive Kind
  | name (id : Name)
  | keyword (word : String)
  | number (value : Tree.Constant)
  | string (literal : StringLiteral)
  | sign (text : String)
  | newline
  | indent
  | dedent
  | endOfText
  deriving DecidableEq, Repr

end Token

/-- A token and the stretch it covers. -/
structure Token where
  kind : Token.Kind
  span : Span
  deriving DecidableEq, Repr

namespace Token

/-- Whether the token is part of the text of a statement and not of its layout. -/
def isVisible (t : Token) : Bool :=
  match t.kind with
  | .newline | .indent | .dedent | .endOfText => false
  | _ => true

/-- The signs, a longer one before those it starts with. -/
def signs : List (List Char) :=
  ["**=", "//=", "<<=", ">>=", "...",
    "!=", "%=", "&=", "**", "*=", "+=", "-=", "->", "//", "/=", ":=", "<<", "<=", "<>", "==", ">=",
    ">>", "@=", "^=", "|=",
    "%", "&", "(", ")", "*", "+", ",", "-", ".", "/", ":", ";", "<", "=", ">", "@", "[", "]", "^",
    "\x7b", "|", "\x7d", "~"].map String.toList

end Token

end ServiceStubs
