import ServiceStubs.Token.Basic
import ServiceStubs.Token.Number
import ServiceStubs.Text.Lines

/-!
# Scanning a source text

`Token.scanAll` cuts a source text into tokens, as far as that can be done. Every step of the
scanner takes at least one character or closes one block, so the number of characters bounds the
number of steps.

## Main definitions

* `Position.after`: the place behind a stretch of text
* `Token.measureIndent`: the indentation of a line in both tab conventions
* `Token.scanLexeme`: one token at the start of a text
* `Token.scanAll`: the tokens of a text up to the first fault
* `Token.scan`: the tokens of a text without fault

## Implementation notes

Indentation is measured twice, with tabs of eight columns and with tabs of one, and the two
measures have to agree on every comparison. A form feed starts the measure again, and a joined line
keeps the indentation of its first part.
-/

namespace ServiceStubs

namespace Position

/-- The place behind one character. -/
def afterChar (p : Position) (c : Char) : Position :=
  if c == '\n' then ⟨p.line + 1, 0⟩ else ⟨p.line, p.column + c.utf8Size⟩

/-- The place behind a stretch of text. -/
def after (p : Position) (cs : List Char) : Position := cs.foldl afterChar p

end Position

namespace Token

/-! ## Strings -/

/-- The body of a literal in single quotes and the text behind it. It does not reach past the end
of its line, unless a backslash stands there. -/
def scanQuoted (quote : Char) : List Char → Option (List Char × List Char)
  | [] => none
  | '\\' :: c :: rest => (scanQuoted quote rest).map fun (body, r) => ('\\' :: c :: body, r)
  | c :: rest =>
    if c == quote then some ([], rest)
    else if c == '\n' then none
    else (scanQuoted quote rest).map fun (body, r) => (c :: body, r)

/-- The body of a literal in tripled quotes and the text behind it. -/
def scanTripled (quote : Char) : List Char → Option (List Char × List Char)
  | [] => none
  | '\\' :: c :: rest => (scanTripled quote rest).map fun (body, r) => ('\\' :: c :: body, r)
  | c :: rest =>
    if c == quote && [quote, quote].isPrefixOf rest then some ([], rest.drop 2)
    else (scanTripled quote rest).map fun (body, r) => (c :: body, r)

/-- The body of a literal, the lexeme and the text behind it. The text starts with the quote. -/
def scanString (cs : List Char) : Option (List Char × List Char × List Char) :=
  match cs with
  | [] => none
  | quote :: rest =>
    if [quote, quote].isPrefixOf rest then
      (scanTripled quote (rest.drop 2)).map fun (body, r) =>
        (body, [quote, quote, quote] ++ body ++ [quote, quote, quote], r)
    else
      (scanQuoted quote rest).map fun (body, r) => (body, [quote] ++ body ++ [quote], r)

/-- The marks in front of a literal: the letters for bytes, expressions and raw text in either
order and case, or a lone `u`. -/
def stringMarks? (letters : List Char) : Option (List Char → StringLiteral) :=
  let lower := letters.map Char.toLower
  let known := ["", "r", "u", "b", "f", "br", "rb", "fr", "rf"].map String.toList
  if known.contains lower then
    some (StringLiteral.mk (lower.contains 'r') (lower.contains 'b') (lower.contains 'f')
      (letters == ['u']))
  else none

/-! ## One token -/

/-- A token without its place, the characters it is made of, and the text behind it. -/
structure Lexeme where
  kind : Kind
  chars : List Char
  rest : List Char

/-- A word: a reserved one or a name. Reserved words are compared as they are written. The normal
form of an identifier is one, and is its own normal form, so the word has to be looked at only as it
is written. -/
def wordKind (word : List Char) : Option Kind :=
  let normal := Text.normalForm word
  if String.ofList word ∈ keywords then some (.keyword (String.ofList word))
  else if !Text.isIdentifier word then none
  else if h : Text.isIdentifier normal = true ∧ Text.normalForm normal = normal then
    some (.name {
      text := String.ofList normal
      isIdentifier := (congrArg _ String.toList_ofList).trans h.1
      isNormal := by rw [String.toList_ofList, h.2]
      written := String.ofList word })
  else none

/-- The token at the start of a text that starts with no blank, comment or line end. -/
def scanLexeme (cs : List Char) : Option Lexeme :=
  match cs with
  | [] => none
  | c :: rest =>
    let literal (letters after : List Char) : Option Lexeme := do
      let make ← stringMarks? letters
      let (body, chars, r) ← scanString after
      some ⟨.string (make body), letters ++ chars, r⟩
    if c == '"' || c == '\'' then literal [] cs
    else if c.isDigit || (c == '.' && (rest.head?.map Char.isDigit).getD false) then do
      let (value, r) ← scanNumber cs
      some ⟨.number value, cs.take (cs.length - r.length), r⟩
    else if isNameChar c then
      let word := cs.takeWhile isNameChar
      let after := cs.dropWhile isNameChar
      let quoted := after.head? == some '"' || after.head? == some '\''
      if quoted && (stringMarks? word).isSome then literal word after
      else (wordKind word).map fun kind => ⟨kind, word, after⟩
    else
      (signs.find? (·.isPrefixOf cs)).map fun sign =>
        ⟨.sign (String.ofList sign), sign, cs.drop sign.length⟩

/-! ## Layout -/

/-- The measures of an indentation. -/
structure Indent where
  /-- Columns, a tab reaching to the next multiple of eight. -/
  wide : Nat
  /-- Columns, a tab counting one. -/
  narrow : Nat
  deriving DecidableEq, Repr

/-- The indentation of a line and the line behind it. `joined` is the width at the first backslash
that joins the line to the next. -/
def measureIndent (wide narrow joined : Nat) : List Char → Option (Indent × List Char)
  | [] => some (if joined == 0 then ⟨wide, narrow⟩ else ⟨joined, joined⟩, [])
  | ' ' :: rest => measureIndent (wide + 1) (narrow + 1) joined rest
  | '\t' :: rest => measureIndent ((wide / 8 + 1) * 8) (narrow + 1) joined rest
  | '\x0c' :: rest => measureIndent 0 0 joined rest
  | '\\' :: '\n' :: rest =>
    if rest.isEmpty then none
    else measureIndent wide narrow (if joined == 0 then wide else joined) rest
  | c :: rest =>
    if c == '\\' then none
    else some (if joined == 0 then ⟨wide, narrow⟩ else ⟨joined, joined⟩, c :: rest)

/-- The most blocks that can be open inside each other. -/
def maxBlocks : Nat := 100

/-- The most brackets that can be open inside each other. -/
def maxBrackets : Nat := 200

/-- The blocks that stay open at a line of the given indentation and the number that end there.
The measures must meet those of an open block. -/
def closeBlocks (i : Indent) : List Indent → Option (List Indent × Nat)
  | [] => none
  | top :: below =>
    if i.wide == top.wide then
      if i.narrow == top.narrow then some (top :: below, 0) else none
    else if i.wide < top.wide then (closeBlocks i below).map fun (open_, n) => (open_, n + 1)
    else none

/-- The blocks open at a line of the given indentation and the layout tokens it starts with. -/
def changeBlocks (i : Indent) (blocks : List Indent) : Option (List Indent × List Kind) :=
  match blocks with
  | [] => none
  | top :: _ =>
    if top.wide < i.wide then
      if top.narrow < i.narrow && blocks.length < maxBlocks then some (i :: blocks, [.indent])
      else none
    else (closeBlocks i blocks).map fun (open_, n) => (open_, List.replicate n .dedent)

/-- The bracket that closes the one a sign opens. -/
def closerOf : String → Option String
  | "(" => some ")"
  | "[" => some "]"
  | "\x7b" => some "\x7d"
  | _ => none

/-- The brackets open behind a token, or nothing if it closes one that is not the innermost. -/
def changeBrackets (brackets : List String) : Kind → Option (List String)
  | .sign s =>
    match closerOf s with
    | some closer => if brackets.length < maxBrackets then some (closer :: brackets) else none
    | none =>
      if s == ")" || s == "]" || s == "\x7d" then
        match brackets with
        | top :: below => if top == s then some below else none
        | [] => none
      else some brackets
  | _ => some brackets

/-! ## All tokens -/

/-- What the scanner knows between two tokens. -/
structure Scan where
  place : Position
  /-- The closers of the open brackets, the innermost first. -/
  brackets : List String
  /-- The indentations of the open blocks, the innermost first. -/
  blocks : List Indent
  /-- The scanner stands at the start of a logical line. -/
  atLineStart : Bool

/-- The scanner at the start of a text. -/
def Scan.initial : Scan := ⟨⟨1, 0⟩, [], [⟨0, 0⟩], true⟩

/-- The text up to the end of the line. -/
def restOfLine (cs : List Char) : List Char := cs.takeWhile (· != '\n')

/-- A token at one place. -/
def layoutToken (p : Position) (kind : Kind) : Token := ⟨kind, ⟨p, p.line⟩⟩

/-- One step of the scanner: the tokens it adds, its next state and the text that is left. -/
def scanStep (s : Scan) (cs : List Char) : Option (List Token × Scan × List Char) :=
  if s.atLineStart && s.brackets.isEmpty then do
    let (i, rest) ← measureIndent 0 0 0 cs
    let place := s.place.after (cs.take (cs.length - rest.length))
    match rest with
    | '\n' :: after => some ([], { s with place := place.afterChar '\n' }, after)
    | '#' :: _ =>
      let comment := restOfLine rest
      let after := (rest.drop comment.length).drop 1
      some ([], { s with place := ⟨place.line + 1, 0⟩ }, after)
    | _ =>
      let (blocks, kinds) ← changeBlocks i s.blocks
      some (kinds.map (layoutToken place),
        { s with place := place, blocks := blocks, atLineStart := false }, rest)
  else
    match cs with
    | [] => none
    | c :: rest =>
      let place := s.place.afterChar c
      if c == ' ' || c == '\t' || c == '\x0c' then some ([], { s with place := place }, rest)
      else if c == '#' then
        let comment := restOfLine cs
        some ([], { s with place := s.place.after comment }, cs.drop comment.length)
      else if c == '\n' then
        if s.brackets.isEmpty then
          some ([layoutToken s.place .newline], { s with place := place, atLineStart := true }, rest)
        else some ([], { s with place := place }, rest)
      else if c == '\\' then
        match rest with
        | '\n' :: after =>
          if after.isEmpty then none
          else some ([], { s with place := place.afterChar '\n' }, after)
        | _ => none
      else do
        let lexeme ← scanLexeme cs
        let brackets ← changeBrackets s.brackets lexeme.kind
        let stop := s.place.after lexeme.chars
        some ([⟨lexeme.kind, ⟨s.place, stop.line⟩⟩],
          { s with place := stop, brackets := brackets }, lexeme.rest)

/-- What the scanner made of a text. -/
structure Scanned where
  /-- The tokens up to the first fault. The last one marks the end. -/
  tokens : List Token
  /-- There was no fault. -/
  isComplete : Bool

/-- The tokens of a text that is at fault right here. -/
def Scanned.faulty (s : Scan) : Scanned := ⟨[layoutToken s.place .endOfText], false⟩

/-- The tokens of a text. At its end every bracket has to be closed. -/
def scanFrom : Nat → Scan → List Char → Scanned
  | 0, s, _ => .faulty s
  | fuel + 1, s, cs =>
    if cs.isEmpty && s.atLineStart then
      if s.brackets.isEmpty then
        ⟨List.replicate (s.blocks.length - 1) (layoutToken s.place .dedent) ++
          [layoutToken s.place .endOfText], true⟩
      else .faulty s
    else match scanStep s cs with
      | none => .faulty s
      | some (tokens, next, rest) =>
        let others := scanFrom fuel next rest
        { others with tokens := tokens ++ others.tokens }

/-- The text with a newline at its end. -/
def endLastLine (cs : List Char) : List Char :=
  if cs.getLast? == some '\n' then cs else cs ++ ['\n']

/-- The text as it is scanned, with every newline as a line feed and one at the end. Behind a
carriage return and a line feed at the end of the source stands one more. -/
def preparedText (source : List Char) : List Char :=
  let cs := endLastLine (Text.withLineFeeds source)
  if ['\r', '\n'].isSuffixOf source then cs ++ ['\n'] else cs

/-- The tokens of a prepared text. -/
def scanPrepared (cs : List Char) : Scanned := scanFrom (2 * cs.length + 2) Scan.initial cs

/-- The tokens of a source text up to its first fault. -/
def scanAll (source : List Char) : Scanned := scanPrepared (preparedText source)

/-- The tokens of a source text, or nothing if it cannot be cut into tokens. -/
def scan (source : List Char) : Option (List Token) :=
  let scanned := scanAll source
  if scanned.isComplete then some scanned.tokens else none

end Token

end ServiceStubs
