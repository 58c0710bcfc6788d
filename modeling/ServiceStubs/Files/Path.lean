import ServiceStubs.Text.Lines

/-!
# Paths

Paths are texts whose components stand between slashes. All functions here are about the text
alone; none looks at a file.

## Main definitions

* `Path.join`, `Path.directory`, `Path.fileName`, `Path.stem`: building paths and taking them apart
* `Path.normalize`: the path without empty components, dots and detours
* `Path.absolute`, `Path.relativeTo`, `Path.commonDirectory`: paths with respect to directories
-/

namespace ServiceStubs

namespace Path

/-- The components of a path, empty ones included. -/
def components (path : String) : List String :=
  (Text.splitAt '/' path.toList).map String.ofList

/-- The path with the given components. -/
def ofComponents (cs : List String) : String := String.intercalate "/" cs

/-- Whether a path starts at the root. -/
def isAbsolute (path : String) : Bool := path.toList.head? == some '/'

/-- Whether a component moves through the tree: neither empty nor the dot for staying. -/
def isStep (component : String) : Bool := component != "" && component != "."

/-- The second path seen from the first. -/
def join (base path : String) : String :=
  if isAbsolute path then path
  else if base == "" || base.toList.getLast? == some '/' then base ++ path
  else base ++ "/" ++ path

/-- The text without slashes at its end, unless it is all slashes. -/
def dropFinalSlashes (cs : List Char) : List Char :=
  let kept := (cs.reverse.dropWhile (· == '/')).reverse
  if kept.isEmpty then cs else kept

/-- The directory part of a path. -/
def directory (path : String) : String :=
  let cs := path.toList
  String.ofList (dropFinalSlashes ((cs.reverse.dropWhile (· != '/')).reverse))

/-- The part of a path behind its last slash. -/
def lastPart (path : String) : String :=
  String.ofList (path.toList.reverse.takeWhile (· != '/')).reverse

/-- The last component of a path that is a step. -/
def fileName (path : String) : String :=
  ((components path).filter isStep).getLast?.getD ""

/-- The name of a file without its last extension. A point at either end of the name starts no
extension. -/
def stem (path : String) : String :=
  let name := (fileName path).toList
  let extension := name.reverse.takeWhile (· != '.')
  let base := name.take (name.length - extension.length - 1)
  if extension.isEmpty || extension.length == name.length || base.isEmpty then fileName path
  else String.ofList base

/-- One component added to normalized ones, the last of which stands first. -/
def addComponent (rooted : Bool) (done : List String) (component : String) : List String :=
  if !isStep component then done
  else if component != ".." then component :: done
  else match done with
    | [] => if rooted then [] else [".."]
    | last :: others => if last == ".." then ".." :: done else others

/-- The slashes that a normalized path starts with: two stay two, more become one. -/
def rootOf (path : String) : String :=
  match path.toList with
  | '/' :: '/' :: '/' :: _ => "/"
  | '/' :: '/' :: _ => "//"
  | '/' :: _ => "/"
  | _ => ""

/-- The path without empty components, dots and steps that are taken back. -/
def normalize (path : String) : String :=
  let root := rootOf path
  let cs := ((components path).foldl (addComponent (root != "")) []).reverse
  let result := root ++ ofComponents cs
  if result == "" then "." else result

/-- The path from the root, for a path seen from a directory. -/
def absolute (current path : String) : String :=
  normalize (if isAbsolute path then path else join current path)

/-- How many components two lists share at their start. -/
def sharedLength : List String → List String → Nat
  | a :: as, b :: bs => if a == b then sharedLength as bs + 1 else 0
  | _, _ => 0

/-- The path seen from a directory; both are absolute. -/
def relativeTo (path base : String) : String :=
  let from_ := (components base).filter (· != "")
  let target := (components path).filter (· != "")
  let shared := sharedLength from_ target
  let parts := List.replicate (from_.length - shared) ".." ++ target.drop shared
  if parts.isEmpty then "." else ofComponents parts

/-- What two lists share at their start. -/
def sharedStart : List String → List String → List String
  | a :: as, b :: bs => if a == b then a :: sharedStart as bs else []
  | _, _ => []

/-- The deepest directory above absolute paths, or nothing without paths. -/
def commonDirectory (paths : List String) : Option String :=
  match paths.map fun p => (components p).filter isStep with
  | [] => none
  | first :: others => some ("/" ++ ofComponents (others.foldl sharedStart first))

/-- The names above a path and the path itself, from the outermost, for a path without detours. -/
def ancestors (cs : List String) : List (List String) :=
  (List.range cs.length).map fun n => cs.take (n + 1)

end Path

end ServiceStubs
