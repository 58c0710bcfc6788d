import ServiceStubs.CommandLine.Setting

/-!
# Reading a command line

First every argument is classified: it is an option, perhaps with a value attached, or a value, or
something unknown that looks like an option. A long option may be cut short as long as no other one
starts the same way, and short options without values may share one hyphen. Then the options take
the values that follow them, and whatever is left over makes the command line wrong.

## Main definitions

* `Word`, `Word.ofArgument`: the classes of arguments
* `Cluster`, `Cluster.ofLetters`: the options in one argument
* `readArguments`: the settings that a command line asks for
-/

namespace ServiceStubs

namespace CommandLine

/-! ## Single arguments -/

/-- A value that is attached to an option. -/
structure Attached where
  /-- An equals sign stands between them. -/
  afterEquals : Bool
  text : List Char
  deriving DecidableEq, Repr

/-- What an argument is. -/
inductive Word
  | value (text : String)
  | option (s : Setting) (isLong : Bool) (attached : Option Attached)
  /-- It looks like an option but is none. -/
  | unknown (text : String)
  deriving DecidableEq, Repr

/-- Whether a text is a number in digits, perhaps with a point before the last of them. -/
def isNumeral (cs : List Char) : Bool :=
  match cs.dropWhile Char.isDigit with
  | [] => !cs.isEmpty
  | '.' :: fraction => !fraction.isEmpty && fraction.all Char.isDigit
  | _ => false

/-- Whether an argument that starts with a hyphen and is no option is a value all the same: a
negative number, or a text with a space in it. -/
def isValueAnyway (text : List Char) : Bool := isNumeral (text.drop 1) || text.contains ' '

/-- The text before the first equals sign, and the value behind it. -/
def cutAtEquals (text : List Char) : List Char × Option Attached :=
  match text.dropWhile (· != '=') with
  | [] => (text, none)
  | _ :: value => (text.takeWhile (· != '='), some ⟨true, value⟩)

/-- The class of an argument that is no exact spelling and starts like a long option. -/
def Word.ofLong (text : List Char) : Except UsageError Word :=
  let (start, attached) := cutAtEquals text
  match Setting.spellingsFrom start with
  | [] => .ok (if isValueAnyway text then .value (String.ofList text) else .unknown (String.ofList text))
  | [spelling] =>
    match Setting.ofSpelling? spelling with
    | some s => .ok (.option s true attached)
    | none => .ok (.unknown (String.ofList text))
  | spellings => .error (.ambiguous (String.ofList text) spellings)

/-- The class of an argument that is no exact spelling and starts like a short option. -/
def Word.ofShort (text : List Char) : Word :=
  match Setting.ofSpelling? (String.ofList (text.take 2)) with
  | some s => .option s false (some ⟨false, text.drop 2⟩)
  | none =>
    if isValueAnyway text then .value (String.ofList text) else .unknown (String.ofList text)

/-- The class of an argument. -/
def Word.ofArgument (argument : String) : Except UsageError Word :=
  let text := argument.toList
  let (start, attached) := cutAtEquals text
  match text with
  | '-' :: c :: _ =>
    match Setting.ofSpelling? (String.ofList start) with
    | some s => .ok (.option s (c == '-') attached)
    | none => if c == '-' then Word.ofLong text else .ok (Word.ofShort text)
  | _ => .ok (.value argument)

/-- The classes of all arguments up to the one that ends the options, and the arguments from there
on. -/
def classify : List String → Except UsageError (List Word × List String)
  | [] => .ok ([], [])
  | "--" :: rest => .ok ([], "--" :: rest)
  | argument :: rest => do
    let word ← Word.ofArgument argument
    let (words, others) ← classify rest
    pure (word :: words, others)

/-! ## Options in one argument -/

/-- How the options in one argument end. -/
inductive Cluster.Last
  /-- With an option that has its value here. -/
  | given (s : Setting) (value : String)
  /-- With an option that may take the values that follow. -/
  | waiting (s : Setting)
  /-- With letters that are no options. -/
  | leftover (text : String)
  deriving DecidableEq, Repr

/-- The options in one argument: some without values, and a last one. -/
structure Cluster where
  flags : List Setting
  last : Cluster.Last
  deriving DecidableEq, Repr

/-- The options in an argument where a text is attached to one of them. A short option without
values gives the text back as further letters. -/
def Cluster.ofLetters (s : Setting) (isLong afterEquals : Bool) :
    List Char → Except UsageError Cluster
  | [] =>
    if s.arity == .noValue then .error (.valueUnused s "") else .ok ⟨[], .given s ""⟩
  | c :: rest =>
    if s.arity != .noValue then .ok ⟨[], .given s (String.ofList (c :: rest))⟩
    else if isLong || afterEquals || c == '-' then
      .error (.valueUnused s (String.ofList (c :: rest)))
    else match Setting.ofSpelling? (String.ofList ['-', c]), rest with
      | none, _ => .ok ⟨[s], .leftover (String.ofList ('-' :: c :: rest))⟩
      | some next, [] => .ok ⟨[s], .waiting next⟩
      | some next, '=' :: value => do
        let others ← Cluster.ofLetters next false true value
        pure { others with flags := s :: others.flags }
      | some next, rest => do
        let others ← Cluster.ofLetters next false false rest
        pure { others with flags := s :: others.flags }

/-- The options in an argument. -/
def Cluster.ofOption (s : Setting) (isLong : Bool) : Option Attached → Except UsageError Cluster
  | none => .ok ⟨[], .waiting s⟩
  | some a => Cluster.ofLetters s isLong a.afterEquals a.text

/-! ## Whole command lines -/

/-- The settings with an option and its values applied. -/
def Setting.apply (s : Setting) (values : List String) (o : Run.Options) :
    Except Refusal Run.Options :=
  match s with
  | .help => .error .help
  | .clean => .ok { o with clean := values }
  | .paths => .ok { o with paths := values }
  | .excludes => .ok { o with excludes := values }
  | .outputDirectory => .ok { o with outputDirectory := values.headD "" }
  | .suffix => .ok { o with suffix := values.headD "" }
  | .noFormat => .ok { o with skipFormat := true }
  | .noCheck => .ok { o with skipCheck := true }
  | .recursive => .ok { o with recursive := true }

/-- The values at the front of some words. -/
def valuesAhead : List Word → List String
  | .value text :: rest => text :: valuesAhead rest
  | _ => []

/-- The values that an option takes from the words that follow it. -/
def Setting.takeValues (s : Setting) (words : List Word) : Except Refusal (List String) :=
  match s.arity, valuesAhead words with
  | .noValue, _ => .ok []
  | _, [] => .error (.misuse (.valueMissing s))
  | .oneValue, v :: _ => .ok [v]
  | .someValues, vs => .ok vs

/-- The settings with the options of one argument applied, the words that are left, and the leftover
of the argument. -/
def Cluster.apply (c : Cluster) (words : List Word) (o : Run.Options) :
    Except Refusal (Run.Options × Nat × List String) := do
  let values ← match c.last with
    | .waiting s => s.takeValues words
    | _ => pure []
  let o ← c.flags.foldlM (fun o s => Setting.apply s [] o) o
  match c.last with
  | .given s value => return (← s.apply [value] o, 0, [])
  | .waiting s => return (← s.apply values o, values.length, [])
  | .leftover text => return (o, 0, [text])

/-- The settings that some words ask for, and the arguments that belong to no option. -/
def applyWords (o : Run.Options) (extra : List String) :
    List Word → Except Refusal (Run.Options × List String)
  | [] => .ok (o, extra)
  | .value text :: rest => applyWords o (extra ++ [text]) rest
  | .unknown text :: rest => applyWords o (extra ++ [text]) rest
  | .option s isLong attached :: rest => do
    let cluster ← (Cluster.ofOption s isLong attached).mapError .misuse
    let (o, taken, leftover) ← cluster.apply rest o
    applyWords o (extra ++ leftover) (rest.drop taken)
termination_by words => words.length

/-- The settings that a command line asks for. -/
def readArguments (arguments : List String) : Except Refusal Run.Options := do
  let (words, others) ← (classify arguments).mapError .misuse
  let (o, extra) ← applyWords {} [] words
  let unrecognized := extra ++ others
  if unrecognized.isEmpty then pure o else throw (.misuse (.unrecognized unrecognized))

end CommandLine

end ServiceStubs
