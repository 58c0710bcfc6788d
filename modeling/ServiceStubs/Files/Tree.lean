import ServiceStubs.Files.Path
import ServiceStubs.Text.Utf8

/-!
# File trees

A file tree holds files and directories at locations, and one of the directories is the current one.
Paths are followed step by step: only a directory can be left, whether by a name, by a point or by
the way up, so a detour through something that is not there leads nowhere.

## Main definitions

* `FileTree`, `FileTree.Entry`: the tree and what stands in it
* `FileTree.locate`: where a path leads
* `FileTree.isFile`, `FileTree.isDirectory`, `FileTree.read`: looking
* `FileTree.write`, `FileTree.remove`, `FileTree.makeDirectories`: changing

## Implementation notes

Every way to look at a tree starts at its root or at the current directory and passes through
directories, so an entry whose directory is missing is never met.
-/

namespace ServiceStubs

/-- A place in a file tree: the names that lead to it from the root. -/
abbrev Location := List String

/-- Why a file operation fails. -/
inductive FileError
  | missing
  | alreadyThere
  | notADirectory
  | isADirectory
  | nameTooLong
  deriving DecidableEq, Repr

/-- The wording of a failure. -/
def FileError.text : FileError → String
  | missing => "there is no such file or directory"
  | alreadyThere => "there is a file already"
  | notADirectory => "a file stands where a directory is needed"
  | isADirectory => "a directory stands where a file is needed"
  | nameTooLong => "a name is too long"

namespace FileTree

/-- What stands at a place. -/
inductive Entry
  | file (content : List UInt8)
  | directory
  deriving DecidableEq, Repr

end FileTree

/-- Files and directories, and the directory that paths start from. -/
structure FileTree where
  entries : List (Location × FileTree.Entry)
  current : Location
  deriving DecidableEq, Repr

namespace FileTree

/-! ## Looking -/

/-- What stands at a location. The root is always there. -/
def entry? (t : FileTree) (place : Location) : Option Entry :=
  if place.isEmpty then some .directory else t.entries.lookup place

/-- The longest name in bytes. -/
def maxNameSize : Nat := 255

/-- Where a component of a path leads from a place. -/
def step (t : FileTree) (place : Location) (component : String) : Except FileError Location :=
  match t.entry? place with
  | none => .error .missing
  | some (.file _) => .error .notADirectory
  | some .directory =>
    if !Path.isStep component then .ok place
    else if component == ".." then .ok place.dropLast
    else if maxNameSize < component.utf8ByteSize then .error .nameTooLong
    else .ok (place ++ [component])

/-- Where a path leads. Nothing needs to stand there yet. -/
def locate (t : FileTree) (path : String) : Except FileError Location :=
  if path == "" then .error .missing
  else (Path.components path).foldlM t.step (if Path.isAbsolute path then [] else t.current)

/-- What stands where a path leads. -/
def find? (t : FileTree) (path : String) : Option Entry :=
  (t.locate path).toOption.bind t.entry?

/-- Whether something stands where a path leads. -/
def contains (t : FileTree) (path : String) : Bool := (t.find? path).isSome

/-- Whether a path leads to a file. -/
def isFile (t : FileTree) (path : String) : Bool :=
  match t.find? path with
  | some (.file _) => true
  | _ => false

/-- Whether a path leads to a directory. -/
def isDirectory (t : FileTree) (path : String) : Bool :=
  t.find? path == some .directory

/-- The content of the file that a path leads to. -/
def read (t : FileTree) (path : String) : Except FileError (List UInt8) := do
  match t.entry? (← t.locate path) with
  | some (.file content) => .ok content
  | some .directory => .error .isADirectory
  | none => .error .missing

/-- The path of the current directory. -/
def currentPath (t : FileTree) : String := "/" ++ Path.ofComponents t.current

/-- The rest of a location behind the place it starts with. -/
def below? : Location → Location → Option Location
  | [], place => some place
  | _ :: _, [] => none
  | a :: as, b :: bs => if a == b then below? as bs else none

/-- All that stands below a place, each seen from there. -/
def below (t : FileTree) (place : Location) : List (Location × Entry) :=
  t.entries.filterMap fun (l, e) =>
    match below? place l with
    | some (name :: rest) => some (name :: rest, e)
    | _ => none

/-- All that stands below a directory, for the path that leads to it. The empty path stands for the
current directory. -/
def inside (t : FileTree) (path : String) : List (Location × Entry) :=
  match t.locate (if path == "" then "." else path) with
  | .error _ => []
  | .ok place => if t.entry? place == some .directory then t.below place else []

/-- The names in a directory. -/
def names (t : FileTree) (path : String) : List (String × Entry) :=
  (t.inside path).filterMap fun (l, e) =>
    match l with
    | [name] => some (name, e)
    | _ => none

/-! ## Changing -/

/-- The tree with an entry put at a place. -/
def insert (t : FileTree) (place : Location) (e : Entry) : FileTree :=
  { t with entries := (place, e) :: t.entries.filter (·.1 != place) }

/-- The tree without what stands at a place. -/
def erase (t : FileTree) (place : Location) : FileTree :=
  { t with entries := t.entries.filter (·.1 != place) }

/-- Writes a file, in a directory that is there. -/
def write (t : FileTree) (path : String) (content : List UInt8) : Except FileError FileTree := do
  let place ← t.locate path
  if t.entry? place == some .directory then .error .isADirectory
  else .ok (t.insert place (.file content))

/-- Removes a file. -/
def remove (t : FileTree) (path : String) : Except FileError FileTree := do
  let place ← t.locate path
  match t.entry? place with
  | some (.file _) => .ok (t.erase place)
  | some .directory => .error .isADirectory
  | none => .error .missing

/-- Makes a directory in one that is there. -/
def makeDirectory (t : FileTree) (path : String) : Except FileError FileTree := do
  let place ← t.locate path
  if (t.entry? place).isSome then .error .alreadyThere else .ok (t.insert place .directory)

/-- The directory of a path and its last part, slashes at the end left out. -/
def splitLast (path : String) : String × String :=
  let head := Path.directory path
  if Path.lastPart path == "" then (Path.directory head, Path.lastPart head)
  else (head, Path.lastPart path)

/-- Makes a directory and those above it, as far as they are missing. -/
def makeDirectories (t : FileTree) (path : String) : Except FileError FileTree := do
  let (head, tail) := splitLast path
  let t ←
    if _ : head.length < path.length then
      if head != "" && tail != "" && !t.contains head then t.makeDirectories head else .ok t
    else .ok t
  match t.makeDirectory path with
  | .ok t => .ok t
  | .error e => if t.isDirectory path then .ok t else .error e
termination_by path.length

/-- The tree with a directory at a place where nothing stood. -/
def addDirectory (t : FileTree) (place : Location) : FileTree :=
  if (t.entry? place).isSome then t else t.insert place .directory

/-- The tree with a file, or an empty directory, and the directories above it. -/
def add (t : FileTree) (place : Location) (content : Option (List UInt8)) : FileTree :=
  let t := (Path.ancestors place).dropLast.foldl addDirectory t
  match content with
  | some bytes => t.insert place (.file bytes)
  | none => t.addDirectory place

/-- The tree of files below the current directory. A name without content is that of an empty
directory. -/
def ofFiles (current : Location) (files : List (String × Option (List UInt8))) : FileTree :=
  let empty : FileTree := (Path.ancestors current).foldl addDirectory ⟨[], current⟩
  files.foldl (fun t f => t.add (current ++ (Path.components f.1).filter Path.isStep) f.2) empty

/-- The files below the current directory, each by its path from there. -/
def files (t : FileTree) : List (String × List UInt8) :=
  (t.below t.current).filterMap fun (l, e) =>
    match e with
    | .file content => some (Path.ofComponents l, content)
    | .directory => none

/-- The files that an earlier tree does not hold, or holds with another content. -/
def filesSince (t earlier : FileTree) : List (String × List UInt8) :=
  t.files.filter fun f => !earlier.files.contains f

/-- The paths of the files that an earlier tree holds and this one does not. -/
def removedSince (t earlier : FileTree) : List String :=
  (earlier.files.map (·.1)).filter fun n => !(t.files.map (·.1)).contains n

end FileTree

end ServiceStubs
