import ServiceStubs.CommandLine.Program

/-!
# The program

Reads the files below the current directory, carries out the command line on them, and writes what
has changed. The program starts no other program, so the tools for formatting and checking count as
missing.

## Main definitions

* `Disk.load`, `Disk.store`: file trees on disk
* `main`: the program
-/

namespace ServiceStubs

namespace Disk

/-- The file tree below the current directory. -/
def load : IO FileTree := do
  let root ← IO.currentDir
  let paths ← root.walkDir
  let files ← paths.toList.mapM fun path => do
    let name := Path.relativeTo path.toString root.toString
    if ← path.isDir then return (name, none)
    else
      let content ← IO.FS.readBinFile path
      return (name, some content.toList)
  return FileTree.ofFiles ((Path.components root.toString).filter Path.isStep) files

/-- Brings the files on disk from one state to another. -/
def store (before after : FileTree) : IO Unit := do
  for path in after.removedSince before do
    IO.FS.removeFile path
  for (path, content) in after.filesSince before do
    let directory := Path.directory path
    if directory != "" then IO.FS.createDirAll directory
    IO.FS.writeBinFile path (ByteArray.mk content.toArray)

end Disk

end ServiceStubs

open ServiceStubs in
/-- Carries out the command line on the files below the current directory. -/
def main (arguments : List String) : IO UInt32 := do
  let before ← Disk.load
  let (ending, session) := (CommandLine.carryOut .none arguments).run { tree := before }
  Disk.store before session.tree
  let errors ← IO.getStderr
  for line in session.log do
    errors.putStrLn (line.level.word ++ ": " ++ line.text)
  match ending with
  | .refused (.misuse e) => errors.putStrLn e.text
  | .failed cause => errors.putStrLn cause.text
  | _ => pure ()
  return UInt32.ofNat ending.status
