import ServiceStubs.Expansion.Module
import ServiceStubs.Run.Selection
import ServiceStubs.Run.Tool

/-!
# Runs

A run removes what it is asked to clean up, selects modules, expands all of them, and only then
writes what it has generated. So a module that cannot be read or expanded keeps everything from
being written.

## Main definitions

* `Run.cleanUp`: the removal
* `Run.plan`: the generated modules and where they go
* `Run.writeAll`: writing them
* `Run.run`: all of it
-/

namespace ServiceStubs

namespace Run

/-- The paths that the patterns of files to remove stand for. -/
def cleanUpPaths (o : Options) (root : String) (t : FileTree) : List String :=
  inOrder (o.clean.flatMap fun c => t.expand o.recursive (Path.join root c))

/-- Removes the files among the paths to clean up. -/
def cleanUp (o : Options) (root : String) : Action Unit := do
  for path in cleanUpPaths o root (← get).tree do
    if (← get).tree.isFile path then
      log .info ("Removing " ++ path)
      change fun t => t.remove path

/-- The source text of a module. -/
def sourceAt (t : FileTree) (path : String) : Except Failure String := do
  let bytes ← (t.read path).mapError .file
  match Text.ofUtf8? bytes with
  | some text => pure (String.ofList (Text.withLineFeeds text.toList))
  | none => throw (.undecodable path)

/-- A generated module: its path and its text. -/
abbrev Generated := String × String

/-- The generated modules with one more. One with the same path takes the place of the former. -/
def record (g : Generated) : List Generated → List Generated
  | [] => [g]
  | h :: rest => if h.1 == g.1 then g :: rest else h :: record g rest

/-- The generated modules with that of the module at a path, if it declares anything. -/
def generate (t : FileTree) (outputPath : String → String) (done : List Generated)
    (path : String) : Except Failure (List Generated) := do
  let source ← sourceAt t path
  match ← (Expansion.expand source path).mapError (.unexpandable path) with
  | some text => pure (record (outputPath path, text) done)
  | none => pure done

/-- Where the modules generated from some modules go. -/
def outputPathOf (o : Options) (root : String) (t : FileTree) (modules : List String) :
    String → String :=
  let directory := if o.outputDirectory == "" then "" else Path.join root o.outputDirectory
  outputPath t.currentPath directory o.suffix (commonBase t.currentPath modules)

/-- What is generated from some modules, in their order. -/
def plan (o : Options) (root : String) (t : FileTree) (modules : List String) :
    Except Failure (List Generated) :=
  modules.foldlM (generate t (outputPathOf o root t modules)) []

/-- Writes a generated module and gives its path. -/
def writeOne (o : Options) (tools : Toolbox) (g : Generated) : Action String := do
  let text ← if o.skipFormat then pure g.2 else format tools g.2
  let directory := Path.directory g.1
  change fun t => t.makeDirectories (if directory == "" then "." else directory)
  change fun t => t.write g.1 (Text.utf8Bytes text)
  log .info ("Wrote " ++ g.1)
  return g.1

/-- Writes generated modules and gives their paths. -/
def writeAll (o : Options) (tools : Toolbox) (generated : List Generated) :
    Action (List String) :=
  generated.mapM (writeOne o tools)

/-- A run: it gives the paths of the modules it has written. -/
def run (o : Options) (tools : Toolbox) (root : String) : Action (List String) := do
  cleanUp o root
  let tree := (← get).tree
  let modules := selected o root tree
  log .info ("Found " ++ toString modules.length ++ " module(s) to scan.")
  let generated ← plan o root tree modules
  let written ← writeAll o tools generated
  if !written.isEmpty && !o.skipCheck then check tools written
  return written

end Run

end ServiceStubs
