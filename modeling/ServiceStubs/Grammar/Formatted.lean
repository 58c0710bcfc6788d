import ServiceStubs.Token.Scanner
import ServiceStubs.Token.Escape

/-!
# Formatted literals

The body of a formatted literal is characters and values in turn. A value stands in braces: an
expression, perhaps an equals sign that shows its text, perhaps a conversion, perhaps a format,
which is again characters and values, but not deeper than that. A doubled brace is a character.

The expression is cut out of the body before it is read: it ends at the first `!`, `:`, `=` or
closing brace outside strings and brackets that is not part of a comparison. It holds neither
backslashes nor comments.
-/

namespace ServiceStubs

namespace Grammar

open Tree

/-- The characters up to the next value or to the end, whether they end at a doubled brace, and the
text behind them. The doubled brace is left once in the characters. At the top level a single
closing brace is an error, in a format it ends the characters. -/
def literalPart (raw top : Bool) : List Char → Option (List Char × Bool × List Char)
  | [] => some ([], false, [])
  | c :: rest =>
    let brace (d : Char) (before after : List Char) : Option (List Char × Bool × List Char) :=
      if top then
        if after.head? == some d then some (before ++ [d], true, after.drop 1)
        else if d == '\x7d' then none
        else some (before, false, d :: after)
      else some (before, false, d :: after)
    if c == '\\' && !raw then
      match rest with
      | [] => some (['\\'], false, [])
      | d :: r =>
        if d == 'N' then
          match r with
          | '\x7b' :: _ =>
            let name := r.takeWhile (· != '\x7d')
            (literalPartAfterName top r).map fun (cs, doubled, after) =>
              ('\\' :: 'N' :: name ++ cs, doubled, after)
          | _ => none
        else if d == '\x7b' || d == '\x7d' then brace d ['\\'] r
        else (literalPart raw top r).map fun (cs, doubled, after) =>
          ('\\' :: d :: cs, doubled, after)
    else if c == '\x7b' || c == '\x7d' then brace c [] rest
    else (literalPart raw top rest).map fun (cs, doubled, after) => (c :: cs, doubled, after)
where
  /-- The same, inside the braces of a character name. -/
  literalPartAfterName (top : Bool) : List Char → Option (List Char × Bool × List Char)
    | [] => some ([], false, [])
    | c :: rest =>
      if c == '\x7d' then
        (literalPart false top rest).map fun (cs, doubled, after) => (c :: cs, doubled, after)
      else literalPartAfterName top rest

/-- Where the search for the end of an expression stands. -/
structure ExpressionScan where
  /-- How many characters are taken without a look at them. -/
  skip : Nat
  /-- The open quote, and whether it is tripled. -/
  quote : Option (Char × Bool)
  /-- The closers of the open brackets, the innermost first. -/
  brackets : List Char

/-- Whether a text starts with two more of the given quote. -/
def tripledBy (q : Char) (rest : List Char) : Bool := [q, q].isPrefixOf rest

/-- What one character does to the search: it fails, the expression has ended in front of the
character, or the search goes on. -/
def ExpressionScan.step (s : ExpressionScan) (c : Char) (rest : List Char) :
    Option (Option ExpressionScan) :=
  match s.skip with
  | n + 1 => some (some { s with skip := n })
  | 0 =>
    if c == '\\' then none
    else match s.quote with
    | some (q, tripled) =>
      if c != q then some (some s)
      else if !tripled then some (some { s with quote := none })
      else if tripledBy q rest then some (some { s with quote := none, skip := 2 })
      else some (some s)
    | none =>
      let push (closer : Char) := some (some { s with brackets := closer :: s.brackets })
      if c == '\'' || c == '"' then
        if tripledBy c rest then some (some { s with quote := some (c, true), skip := 2 })
        else some (some { s with quote := some (c, false) })
      else if c == '(' then push ')'
      else if c == '[' then push ']'
      else if c == '\x7b' then push '\x7d'
      else if c == '#' then none
      else if s.brackets.isEmpty && ['!', ':', '\x7d', '=', '<', '>'].contains c then
        if rest.head? == some '=' && c != ':' && c != '\x7d' then some (some { s with skip := 1 })
        else if c == '<' || c == '>' then some (some s)
        else some none
      else if c == ')' || c == ']' || c == '\x7d' then
        match s.brackets with
        | top :: below => if top == c then some (some { s with brackets := below }) else none
        | [] => none
      else some (some s)

/-- The text of an expression in a formatted literal and the text from the character that ends
it. -/
def expressionPart (s : ExpressionScan) : List Char → Option (List Char × List Char)
  | [] => none
  | c :: rest => do
    match ← s.step c rest with
    | none => some ([], c :: rest)
    | some next => (expressionPart next rest).map fun (text, after) => (c :: text, after)

/-- White space that an expression may consist of without being one. -/
def isExpressionBlank (c : Char) : Bool := c == ' ' || c == '\t' || c == '\n' || c == '\x0c'

/-- The conversion behind an exclamation mark, and the text behind it. -/
def conversionPart (cs : List Char) : Option (Option Conversion × List Char) :=
  match cs with
  | '!' :: 's' :: rest => some (some .str, rest)
  | '!' :: 'r' :: rest => some (some .repr, rest)
  | '!' :: 'a' :: rest => some (some .ascii, rest)
  | '!' :: _ => none
  | _ => some (none, cs)

/-- Adds characters in front of the pieces of a formatted literal, joined with characters that
already stand there. -/
def consChars (cs : List Char) : List TextPart → List TextPart
  | .chars text :: rest =>
    if cs.isEmpty then .chars text :: rest else .chars (String.ofList cs ++ text) :: rest
  | parts => if cs.isEmpty then parts else .chars (String.ofList cs) :: parts

/-- The pieces of a formatted literal, at most `fuel` of them, and the text from the closing brace
of a format on. `readValue` reads an expression, `depth` counts the formats around this one. -/
def formattedParts (readValue : List Char → Option Expr) (raw : Bool) :
    Nat → Nat → List Char → Option (List TextPart × List Char)
  | 0, _, _ => none
  | fuel + 1, depth, cs => do
    let (literal, doubled, rest) ← literalPart raw (depth == 0) cs
    let chars ← Token.textValue literal raw
    if doubled then
      let (parts, after) ← formattedParts readValue raw fuel depth rest
      some (consChars chars parts, after)
    else
      match rest with
      | '\x7b' :: inside =>
        if 2 ≤ depth then none
        let (text, afterText) ← expressionPart ⟨0, none, []⟩ inside
        if text.all isExpressionBlank then none
        let value ← readValue text
        let (shown, afterShown) := match afterText with
          | '=' :: r =>
            let blanks := r.takeWhile fun (c : Char) => c.isWhitespace || c == '\x0b' || c == '\x0c'
            (some (text ++ '=' :: blanks), r.drop blanks.length)
          | r => (none, r)
        let (given, afterConversion) ← conversionPart afterShown
        let (format, afterFormat) ← match afterConversion with
          | ':' :: r =>
            if r.isEmpty then none
            else (formattedParts readValue raw fuel (depth + 1) r).map fun (parts, after) =>
              (some parts, after)
          | r => some (none, r)
        match afterFormat with
        | '\x7d' :: after =>
          let conversion : Option Conversion :=
            if shown.isSome && format.isNone && given.isNone then some .repr else given
          let (parts, final) ← formattedParts readValue raw fuel depth after
          some (consChars (chars ++ shown.getD []) (.value value conversion format :: parts), final)
        | _ => none
      | _ => some (consChars chars [], rest)

/-- The pieces of the body of a formatted literal. -/
def formattedBody (readValue : List Char → Option Expr) (raw : Bool) (body : List Char) :
    Option (List TextPart) := do
  let (parts, rest) ← formattedParts readValue raw (2 * body.length + 2) 0 body
  if rest.isEmpty then some parts else none

/-- Joins two runs of pieces. -/
def appendParts : List TextPart → List TextPart → List TextPart
  | [], ys => ys
  | [.chars text], ys => consChars text.toList ys
  | x :: xs, ys => x :: appendParts xs ys

/-- The value of literals that stand one after the other. All of them denote characters, or all
denote bytes. -/
def literalValue (readValue : List Char → Option Expr) (literals : List Token.StringLiteral) :
    Option Expr := do
  let first ← literals.head?
  if literals.any (·.isBytes != first.isBytes) then none
  if first.isBytes then
    let bytes ← literals.mapM fun l => Token.unescapeBytes l.body l.isRaw
    some (.constant (.bytes bytes.flatten))
  else if literals.any (·.isFormatted) then
    let parts ← literals.mapM fun l =>
      if l.isFormatted then formattedBody readValue l.isRaw l.body
      else (Token.textValue l.body l.isRaw).map (consChars · [])
    some (.formatted (parts.foldr appendParts []))
  else
    let chars ← literals.mapM fun l => Token.textValue l.body l.isRaw
    some (.constant (.text (String.ofList chars.flatten) first.isMarked))

end Grammar

end ServiceStubs
