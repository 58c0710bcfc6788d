import ServiceStubs.Files.NamePattern
import ServiceStubs.Files.Tree

/-!
# Paths that fit a pattern

Each component of a path may be a pattern of names. The expansion of such a path in a file tree are
the paths that lead somewhere and fit it, component by component. Names that start with a point are
hidden: only a pattern that starts with a point as well fits them. A component of two stars stands
for any number of directories when the expansion is recursive, and is an ordinary pattern otherwise.

## Main definitions

* `FileTree.expandIn`: the last component, in a directory
* `FileTree.expand`: all components
-/

namespace ServiceStubs

namespace FileTree

/-- Whether a name, or a pattern, starts with a point. -/
def isHidden (name : String) : Bool := name.toList.head? == some '.'

/-- The component that stands for any number of directories. -/
def anyDepth : String := "**"

/-- What a component that is a pattern of names fits in a directory. -/
def fittingNames (t : FileTree) (directory : String) (onlyDirectories : Bool) (pattern : String) :
    List String :=
  let names := (t.names directory).filter fun (_, e) => !onlyDirectories || e == .directory
  (names.map (·.1)).filter fun name =>
    (isHidden pattern || !isHidden name) && NamePattern.fits pattern name

/-- All that is not hidden in a directory, at any depth, and the directory itself as the empty
path. -/
def visibleInside (t : FileTree) (directory : String) (onlyDirectories : Bool) : List String :=
  let inside := (t.inside directory).filter fun (l, e) =>
    (!onlyDirectories || e == .directory) && l.all fun name => !isHidden name
  let self := if directory == "" || t.isDirectory directory then [""] else []
  self ++ inside.map fun (l, _) => Path.ofComponents l

/-- What the last component of a path stands for in a directory. -/
def expandIn (t : FileTree) (recursive onlyDirectories : Bool) (directory component : String) :
    List String :=
  if NamePattern.isPattern component then
    if recursive && component == anyDepth then t.visibleInside directory onlyDirectories
    else t.fittingNames directory onlyDirectories component
  else if component == "" then (if t.isDirectory directory then [""] else [])
  else if t.contains (Path.join directory component) then [component]
  else []

/-- What a path stands for, component by component. -/
def expandFrom (t : FileTree) (recursive onlyDirectories : Bool) (path : String) : List String :=
  let directory := Path.directory path
  let component := Path.lastPart path
  if !NamePattern.isPattern path then
    let isThere := if component == "" then t.isDirectory directory else t.contains path
    if isThere then [path] else []
  else
    let directories :=
      if NamePattern.isPattern directory then
        if _ : directory.length < path.length then t.expandFrom recursive true directory else []
      else [directory]
    directories.flatMap fun d =>
      (t.expandIn recursive onlyDirectories d component).map (Path.join d)
termination_by path.length

/-- The paths that a path stands for. -/
def expand (t : FileTree) (recursive : Bool) (path : String) : List String :=
  (t.expandFrom recursive false path).filter (· != "")

end FileTree

end ServiceStubs
