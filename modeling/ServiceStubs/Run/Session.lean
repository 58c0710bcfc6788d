import ServiceStubs.Files.Tree
import ServiceStubs.Schema.Error

/-!
# Sessions

A session is what a run changes: the file tree, the log, and the list of the tools that were
started. A run that fails leaves everything that it did before.

## Main definitions

* `Run.Session`: the state of a run
* `Run.Failure`: why a run fails
* `Run.Action`: a part of a run
-/

namespace ServiceStubs

namespace Run

/-- How much a line of the log matters. -/
inductive Level
  | info | warning | error
  deriving DecidableEq, Repr

/-- The word for a level. -/
def Level.word : Level → String
  | info => "INFO"
  | warning => "WARNING"
  | error => "ERROR"

/-- A line of the log. -/
structure LogLine where
  level : Level
  text : String
  deriving DecidableEq, Repr

/-- A tool with its arguments. -/
abbrev Command := List String

/-- What a run changes. -/
structure Session where
  tree : FileTree
  /-- What was logged, the first line first. -/
  log : List LogLine := []
  /-- The tools that were started, the first one first. -/
  commands : List Command := []
  deriving DecidableEq, Repr

/-- Why generated modules do not pass the check. -/
inductive CheckError
  | missing
  | stopped (reason : String)
  | findings (count : Nat) (report : String)
  deriving DecidableEq, Repr

/-- The wording of a failed check. -/
def CheckError.text : CheckError → String
  | missing => "pyright command not found. Please install pyright."
  | stopped reason => "Error running pyright: " ++ reason
  | findings count report =>
    "Pyright validation failed with " ++ toString count ++ " error(s):\n\n" ++ report

/-- Why a run fails. -/
inductive Failure
  /-- A module is not UTF-8 text. -/
  | undecodable (path : String)
  /-- A module cannot be expanded. -/
  | unexpandable (path : String) (cause : Schema.Failure)
  | file (cause : FileError)
  /-- A tool that formats was stopped. -/
  | stopped (reason : String)
  | check (cause : CheckError)
  deriving DecidableEq, Repr

/-- The wording of a failure. -/
def Failure.text : Failure → String
  | undecodable path => path ++ ": not a UTF-8 text"
  | unexpandable path cause => cause.text path
  | file cause => cause.text
  | stopped reason => reason
  | check cause => cause.text

/-- A part of a run. -/
abbrev Action := ExceptT Failure (StateM Session)

/-- The session with one more line in its log. -/
def Session.note (level : Level) (text : String) (s : Session) : Session :=
  { s with log := s.log ++ [⟨level, text⟩] }

/-- Logs a line. -/
def log (level : Level) (text : String) : Action Unit := modify (·.note level text)

/-- Notes that a tool is started. -/
def start (command : Command) : Action Unit :=
  modify fun s => { s with commands := s.commands ++ [command] }

/-- Changes the file tree, or fails. -/
def change (f : FileTree → Except FileError FileTree) : Action Unit := do
  let s ← get
  match f s.tree with
  | .ok tree => set { s with tree }
  | .error cause => throw (.file cause)

end Run

end ServiceStubs
