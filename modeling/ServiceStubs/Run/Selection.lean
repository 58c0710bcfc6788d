import ServiceStubs.Files.Glob
import ServiceStubs.Run.Output

/-!
# The modules to expand

A path that leads to a directory stands for the modules in it, any other path for what it expands
to as a pattern. Generated modules and those that are excluded are left out.

## Main definitions

* `Run.candidates`, `Run.excluded`: what the paths and the exclusions stand for
* `Run.selected`: the modules to expand
-/

namespace ServiceStubs

namespace Run

/-- The texts in order, each of them once. -/
def inOrder (texts : List String) : List String :=
  texts.eraseDups.mergeSort fun a b => decide (a ≤ b)

/-- Whether a path ends like that of a module. -/
def hasModuleExtension (path : String) : Bool :=
  moduleExtension.toList.isSuffixOf path.toList

/-- The paths that an exclusion stands for, normalized. -/
def exclusion (o : Options) (root : String) (t : FileTree) (exclude : String) : List String :=
  let path := Path.join root exclude
  if t.isFile path then [Path.normalize path]
  else (t.expand o.recursive path).map Path.normalize

/-- The paths that all exclusions stand for. -/
def excluded (o : Options) (root : String) (t : FileTree) : List String :=
  o.excludes.flatMap (exclusion o root t)

/-- The files in a directory that end like modules, at any depth if the run is recursive. -/
def modulesInside (o : Options) (t : FileTree) (directory : String) : List String :=
  let inside := (t.inside directory).filter fun (l, e) =>
    e != .directory && (o.recursive || l.length == 1)
  ((inside.map (·.1)).filter fun l => hasModuleExtension (l.getLast?.getD "")).map fun l =>
    Path.join directory (Path.ofComponents l)

/-- The paths that a path to search stands for. -/
def candidatesAt (o : Options) (root : String) (t : FileTree) (path : String) : List String :=
  let path := Path.join root path
  if t.isDirectory path then modulesInside o t path else t.expand o.recursive path

/-- The paths that all paths to search stand for. -/
def candidates (o : Options) (root : String) (t : FileTree) : List String :=
  o.paths.flatMap (candidatesAt o root t)

/-- Whether a path leads to a module that was not generated. -/
def isSource (o : Options) (t : FileTree) (path : String) : Bool :=
  t.isFile path && hasModuleExtension path && !isGenerated o.suffix path

/-- The modules to expand, normalized and in order. -/
def selected (o : Options) (root : String) (t : FileTree) : List String :=
  let left := excluded o root t
  inOrder ((((candidates o root t).filter (isSource o t)).map Path.normalize).filter
    fun path => !left.contains path)

end Run

end ServiceStubs
