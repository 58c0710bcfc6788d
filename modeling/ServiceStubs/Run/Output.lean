import ServiceStubs.Files.Path
import ServiceStubs.Run.Options

/-!
# Where generated modules go

The name of a generated module is that of its source with a suffix. It stands beside its source, or
below an output directory that repeats the directories of the sources as seen from the deepest
directory above all of them.

## Main definitions

* `Run.outputName`, `Run.isGenerated`: names of generated modules
* `Run.commonBase`: the directory above all sources
* `Run.outputPath`: the path of a generated module
-/

namespace ServiceStubs

namespace Run

/-- The name of the module that is generated from the module at a path. -/
def outputName (suffix path : String) : String := Path.stem path ++ suffix ++ moduleExtension

/-- Whether a path names a generated module. -/
def isGenerated (suffix path : String) : Bool :=
  suffix.toList.isSuffixOf (Path.stem path).toList

/-- The deepest directory above all modules. Paths that do not start at the root start at the
current directory. -/
def commonBase (current : String) (modules : List String) : Option String :=
  Path.commonDirectory (modules.map fun m => Path.directory (Path.absolute current m))

/-- The directory of a module as seen from the base. A module outside the base has none. -/
def directoryBelow (current : String) (base : Option String) (path : String) : String :=
  match base with
  | none => ""
  | some base =>
    let seen := Path.relativeTo (Path.directory (Path.absolute current path))
      (Path.absolute current base)
    if seen == "." || ['.', '.'].isPrefixOf seen.toList then "" else seen

/-- The path of the module that is generated from the module at a path. -/
def outputPath (current outputDirectory suffix : String) (base : Option String) (path : String) :
    String :=
  let name := outputName suffix path
  if outputDirectory == "" then Path.join (Path.directory path) name
  else
    Path.normalize
      (Path.join (Path.join outputDirectory (directoryBelow current base path)) name)

end Run

end ServiceStubs
