import ServiceStubs.CommandLine.Arguments
import ServiceStubs.Run.Plan

/-!
# The command line program

The program reads its arguments, then makes a run from the current directory. A module whose
declarations are malformed is a mistake of the user and only logged; any other failure of the run is
a failure of the program.

## Main definitions

* `Ending`, `Ending.status`: how the program ends
* `carryOut`: the program
-/

namespace ServiceStubs

namespace CommandLine

/-- How the program ends. -/
inductive Ending
  | done
  /-- A module is rejected. -/
  | rejected
  | refused (r : Refusal)
  | failed (cause : Run.Failure)
  deriving DecidableEq, Repr

/-- The exit status of the program. -/
def Ending.status : Ending → Nat
  | done => 0
  | rejected => 1
  | refused .help => 0
  | refused (.misuse _) => 2
  | failed _ => 1

/-- The settings of an acceptable command line. Without a suffix a generated module would take the
place of its source. -/
def settingsOf (arguments : List String) : Except Refusal Run.Options := do
  let o ← readArguments arguments
  if o.suffix == "" then throw (.misuse .emptySuffix) else pure o

/-- The program. -/
def carryOut (tools : Run.Toolbox) (arguments : List String) : StateM Run.Session Ending := do
  let root := (← get).tree.currentPath
  modify (·.note .info ("Working from root directory: " ++ root))
  match settingsOf arguments with
  | .error r => return .refused r
  | .ok o =>
    match ← (Run.run o tools root).run with
    | .ok _ => return .done
    | .error (.unexpandable path (.rejected e)) =>
      modify (·.note .error (e.text path))
      return .rejected
    | .error cause => return .failed cause

end CommandLine

end ServiceStubs
