import ServiceStubs.Run.Session
import ServiceStubs.Text.Lines
import ServiceStubs.Text.QuoteChoice

/-!
# Formatting and checking generated modules

Two tools work on generated modules: one formats their texts, the other checks them. Either may be
missing, may be stopped, or may finish with a result. A text that cannot be formatted stays as it
is, while a check that cannot be made fails.

## Main definitions

* `Run.Attempt`, `Run.Toolbox`: what comes of starting the tools
* `Run.format`: the formatted text of a module
* `Run.check`: the check of the generated modules
-/

namespace ServiceStubs

namespace Run

/-- What comes of starting a tool. -/
inductive Attempt (α : Type)
  | missing
  | stopped (reason : String)
  | finished (result : α)

/-- What comes of formatting a file. -/
inductive FormatResult
  /-- The file holds this text now. -/
  | formatted (text : String)
  /-- The tool gave up with a status, and printed something. -/
  | failed (status : Int) (output errors : List UInt8)

/-- What comes of checking files. -/
structure CheckResult where
  status : Int
  report : String

/-- The tools as they behave. -/
structure Toolbox where
  formatter : Attempt (String → FormatResult)
  checker : Attempt (List String → CheckResult)
  /-- The file that texts are put into to be formatted. -/
  scratchFile : String

/-- The tools of a machine that has none. -/
def Toolbox.none : Toolbox := ⟨.missing, .missing, ""⟩

/-- A command as it is shown in a message. -/
def commandText (command : Command) : String :=
  let words := command.map fun w => String.ofList (Text.quoted w.toList)
  "[" ++ String.intercalate ", " words ++ "]"

/-- The formatted text of a module. The tool is started twice, first to put the imports in order. -/
def format (tools : Toolbox) (text : String) : Action String := do
  start ["ruff", "check", "--fix", "--select", "I", tools.scratchFile]
  match tools.formatter with
  | .missing =>
    log .error "Unexpected error during formatting: ruff"
    return text
  | .stopped reason => throw (.stopped reason)
  | .finished result =>
    let command := ["ruff", "format", tools.scratchFile]
    start command
    match result text with
    | .formatted text => return String.ofList (Text.withLineFeeds text.toList)
    | .failed status output errors =>
      log .error ("Ruff formatting failed: Command '" ++ commandText command ++
        "' returned non-zero exit status " ++ toString status ++ ".")
      log .error ("Stdout: " ++ String.ofList (Text.ofUtf8Lossy output))
      log .error ("Stderr: " ++ String.ofList (Text.ofUtf8Lossy errors))
      return text

/-- How often one text occurs in another. -/
def occurrences (needle : List Char) : List Char → Nat
  | [] => 0
  | c :: rest => (if needle.isPrefixOf (c :: rest) then 1 else 0) + occurrences needle rest

/-- What every error in the report of a check is announced by. -/
def errorMark : List Char := " error:".toList

/-- The findings in the result of a check, if it has any or did not end well. -/
def CheckResult.error? (r : CheckResult) : Option CheckError :=
  let count := occurrences errorMark r.report.toList
  if 0 < count || r.status != 0 then some (.findings count r.report) else .none

/-- Logs why a check fails, and fails. -/
def failCheck (line : String) (cause : CheckError) : Action Unit := do
  log .error line
  throw (.check cause)

/-- Checks the generated modules. -/
def check (tools : Toolbox) (modules : List String) : Action Unit := do
  if modules.isEmpty then log .warning "No generated modules found to validate"
  else
    log .info ("Validating " ++ toString modules.length ++
      " generated module(s) with pyright...")
    let sorted := modules.mergeSort fun a b => decide (a ≤ b)
    start ("pyright" :: sorted)
    match tools.checker with
    | .missing =>
      failCheck "pyright not found. Please install pyright: pip install pyright" .missing
    | .stopped reason => failCheck (CheckError.stopped reason).text (.stopped reason)
    | .finished result =>
      match (result sorted).error? with
      | some cause => failCheck cause.text cause
      | .none => log .info "Pyright validation passed - no type errors found"

end Run

end ServiceStubs
