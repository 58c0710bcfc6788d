import ServiceStubs.Text.Quoted

/-!
# Literals with few escapes

Inside a formatted text backslashes are to be avoided, so a literal there is enclosed by the first
of several quotes that needs no escapes. Single quotes come first, then double ones, then the
tripled ones, which alone can enclose a line break.

## Main definitions

* `Text.enclose`: the body of a literal and the quotes that can enclose it
* `Text.quotedPlainly`: a text as a literal with as few backslashes as possible
-/

namespace ServiceStubs

namespace Text

/-- The quotes that can enclose a literal, in order of preference. -/
def allQuotes : List (List Char) :=
  [['\''], ['"'], ['"', '"', '"'], ['\'', '\'', '\'']]

/-- Whether one text occurs in another. -/
def occursIn (needle : List Char) : List Char → Bool
  | [] => needle.isEmpty
  | c :: rest => needle.isPrefixOf (c :: rest) || occursIn needle rest

/-- A character of a literal that keeps line feeds and tabs unless `escapeBlanks` is set. -/
def sparselyEscaped (escapeBlanks : Bool) (c : Char) : List Char :=
  if !escapeBlanks && (c == '\n' || c == '\t') then [c]
  else if c == '\\' || !isPrintable c then escapeOf c
  else [c]

/-- The body of the literal of a text and those of the given quotes that can enclose it, the best
first. When none can, the body is that of the ordinary literal. -/
def enclose (quotes : List (List Char)) (escapeBlanks : Bool) (cs : List Char) :
    List Char × List (List Char) :=
  let body := cs.flatMap (sparselyEscaped escapeBlanks)
  let fitting := quotes.filter fun q =>
    (!body.contains '\n' || q.length == 3) && !occursIn q body
  if fitting.isEmpty then
    let quote := quoteFor cs
    (quotedBody cs, [(quotes.find? (·.contains quote)).getD [quote]])
  else
    match body.getLast? with
    | none => (body, fitting)
    | some last =>
      -- a quote that starts with the last character comes after those that do not
      let ordered := fitting.filter (·.head? != some last) ++ fitting.filter (·.head? == some last)
      if ordered.head?.bind List.head? == some last then
        (body.dropLast ++ ['\\', last], ordered)
      else (body, ordered)

/-- The text as a literal with as few backslashes as possible. -/
def quotedPlainly (cs : List Char) : List Char :=
  let (body, quotes) := enclose allQuotes false cs
  let quote := quotes.head?.getD ['\'']
  quote ++ body ++ quote

/-- The body of a literal enclosed by three single quotes, every single quote escaped. -/
def tripledBody (cs : List Char) : List Char :=
  cs.flatMap (escaped '\'')

/-- The pieces of one literal, each with its own need for escapes, and the quote that encloses
them all. When no quote fits every piece, three single quotes do. -/
def encloseAll (pieces : List (List Char × Bool)) : List Char × List Char :=
  let rec go (quotes : List (List Char)) (body : List Char) :
      List (List Char × Bool) → Option (List Char × List Char)
    | [] => some (body, quotes.head?.getD ['\''])
    | (cs, escapeBlanks) :: rest =>
      let (piece, fitting) := enclose quotes escapeBlanks cs
      if fitting.any quotes.contains then go fitting (body ++ piece) rest else none
  (go allQuotes [] pieces).getD (pieces.flatMap fun p => tripledBody p.1, ['\'', '\'', '\''])

end Text

end ServiceStubs
