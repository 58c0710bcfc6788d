import ServiceStubs.Run.Options
import ServiceStubs.Text.Quoted

/-!
# The options of the command line

Every option has a long spelling, most have a short one as well, and each takes no value, one value,
or one and more.

## Main definitions

* `Setting`: the options
* `Setting.spellings`, `Setting.arity`: how they are written and what they take
* `Setting.ofSpelling?`: the option with a spelling
* `UsageError`: what can be wrong with a command line
-/

namespace ServiceStubs

namespace CommandLine

/-- The options of the command line. -/
inductive Setting
  | help
  | clean
  | paths
  | excludes
  | outputDirectory
  | suffix
  | noFormat
  | noCheck
  | recursive
  deriving DecidableEq, Repr

/-- How many values an option takes. -/
inductive Arity
  | noValue | oneValue | someValues
  deriving DecidableEq, Repr

namespace Setting

/-- All options, in the order in which they are listed. -/
def all : List Setting :=
  [help, clean, paths, excludes, outputDirectory, suffix, noFormat, noCheck, recursive]

/-- The spellings of an option, the short one first. -/
def spellings : Setting → List String
  | help => ["-h", "--help"]
  | clean => ["-c", "--clean"]
  | paths => ["-p", "--paths"]
  | excludes => ["-e", "--excludes"]
  | outputDirectory => ["-o", "--output-dir"]
  | suffix => ["--suffix"]
  | noFormat => ["--no-format"]
  | noCheck => ["--no-pyright"]
  | recursive => ["-r", "--recursive"]

/-- How many values an option takes. -/
def arity : Setting → Arity
  | help | noFormat | noCheck | recursive => .noValue
  | outputDirectory | suffix => .oneValue
  | clean | paths | excludes => .someValues

/-- The option with a spelling. -/
def ofSpelling? (spelling : String) : Option Setting :=
  all.find? fun s => s.spellings.contains spelling

/-- The spellings that start with a text. -/
def spellingsFrom (start : List Char) : List String :=
  (all.flatMap spellings).filter fun s => start.isPrefixOf s.toList

/-- How a message calls an option. -/
def label (s : Setting) : String := String.intercalate "/" s.spellings

theorem mem_all (s : Setting) : s ∈ all := by cases s <;> decide

end Setting

/-- What can be wrong with a command line. -/
inductive UsageError
  /-- An option stands without the values it takes. -/
  | valueMissing (s : Setting)
  /-- A value is attached to an option that takes none. -/
  | valueUnused (s : Setting) (value : String)
  /-- An argument starts several options. -/
  | ambiguous (argument : String) (spellings : List String)
  /-- There are arguments that belong to no option. -/
  | unrecognized (arguments : List String)
  | emptySuffix
  deriving DecidableEq, Repr

/-- The wording of an error. -/
def UsageError.text : UsageError → String
  | valueMissing s =>
    let count := if s.arity == .someValues then "at least one" else "one"
    "error: argument " ++ s.label ++ ": expected " ++ count ++ " argument"
  | valueUnused s value =>
    "error: argument " ++ s.label ++ ": ignored explicit argument " ++
      String.ofList (Text.quoted value.toList)
  | ambiguous argument spellings =>
    "error: ambiguous option: " ++ argument ++ " could match " ++ String.intercalate ", " spellings
  | unrecognized arguments =>
    "error: unrecognized arguments: " ++ String.intercalate " " arguments
  | emptySuffix => "error: --suffix must not be empty, the output would overwrite its source"

/-- Why a command line is not carried out. -/
inductive Refusal
  /-- It asks for help. -/
  | help
  | misuse (error : UsageError)
  deriving DecidableEq, Repr

end CommandLine

end ServiceStubs
