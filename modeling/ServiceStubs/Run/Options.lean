/-!
# What a run is asked to do

## Main definitions

* `Run.Options`: the settings of a run, with the values they have when nothing is said
-/

namespace ServiceStubs

namespace Run

/-- The extension of modules. -/
def moduleExtension : String := ".py"

/-- What the name of a generated module ends in when nothing else is asked for. -/
def defaultSuffix : String := "_grpc"

/-- The settings of a run. -/
structure Options where
  /-- Paths and patterns of files to remove first. -/
  clean : List String := []
  /-- Paths and patterns of the modules to expand. -/
  paths : List String := ["**/*.py"]
  /-- Paths and patterns of modules to leave out. -/
  excludes : List String := []
  /-- Where the generated modules go. If it is empty, each goes beside its source. -/
  outputDirectory : String := ""
  /-- What the names of generated modules end in. -/
  suffix : String := defaultSuffix
  skipFormat : Bool := false
  skipCheck : Bool := false
  /-- Directories are searched at any depth. -/
  recursive : Bool := false
  deriving DecidableEq, Repr

end Run

end ServiceStubs
