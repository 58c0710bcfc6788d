import ServiceStubs.Expansion.Edit
import ServiceStubs.Expansion.Fragment
import ServiceStubs.Files.Path
import ServiceStubs.Schema.Module

/-!
# Expanding a module

A module is expanded by edits of its lines: every service declaration is replaced by its artifacts,
every server loses its marker and gains methods, and the imports and a banner go near the top.

An expansion can also be asked for single fragments. It remembers which imports its fragments have
needed so far, and its edits are fixed once they have been computed.

## Main definitions

* `Expansion.Draft`: an expansion under way
* `Expansion.Draft.text`: the expanded module
* `Expansion.expand`: the expanded module of a source text that declares something
-/

namespace ServiceStubs

namespace Expansion

open Schema

/-- An expansion under way. -/
structure Draft where
  declared : Schema.Module
  sourceLines : List String
  filename : String
  /-- The imports that fragments have needed so far. -/
  requested : List Import := []
  /-- The edits, once they are computed. -/
  edits : Option (List Edit) := none

namespace Draft

/-- The expansion of a source text, with nothing generated yet. -/
def ofSource (source filename : String) : Except Failure Draft := do
  let declared ← Module.ofSource source
  pure { declared := declared, sourceLines := Text.splitLines source, filename := filename }

/-- The line that names the source of a generated module. -/
def banner (d : Draft) : String :=
  "# This module was generated by grpc-stub-generator from `" ++ Path.fileName d.filename ++
    "`. Do not edit by hand."

/-- Whether there is anything to expand. -/
def hasExpansions (d : Draft) : Bool := !d.declared.isEmpty

/-- The import lines that the fragments so far need. -/
def importLines (d : Draft) : List String := Import.lines d.requested

/-- The expansion after a fragment has been generated. -/
def request (d : Draft) (f : Fragment) : Draft := { d with requested := d.requested ++ f.imports }

/-- Replaces a declaration by its artifacts. -/
def serviceEdit (s : Service) : Edit :=
  { start := s.firstLine - 1
    stop := s.lastLine
    lines := Code.indent (service s).lines (String.ofList (List.replicate s.column ' ')) }

/-- Removes the marker of a server and adds its methods at the end of the class. -/
def serverEdits (s : Server) : List Edit :=
  let marker : Edit :=
    { start := s.markerLines.1 - 1, stop := s.markerLines.2, lines := [] }
  let added := (serverMethods s).lines
  if added.isEmpty then [marker]
  else [marker,
    { start := s.lastLine, stop := s.lastLine, lines := Code.indent added s.bodyIndent }]

/-- The line that the banner stands behind: a first line that names an interpreter stays first. -/
def bannerLine (sourceLines : List String) : Nat :=
  match sourceLines with
  | first :: _ => if ['#', '!'].isPrefixOf first.toList then 1 else 0
  | [] => 0

/-- Adds the import lines and the banner. -/
def headEdits (d : Draft) : List Edit :=
  let bannerAt := bannerLine d.sourceLines
  let importAt := max d.declared.importLine bannerAt
  let gap := if bannerAt < importAt then [""] else []
  let imports : List Edit :=
    if d.requested.isEmpty then []
    else [{ start := importAt, stop := importAt, lines := gap ++ d.importLines ++ [""],
            priority := 1 }]
  imports ++ [{ start := bannerAt, stop := bannerAt, lines := [d.banner] }]

/-- The expansion with all edits computed. Those computed before stay as they are. -/
def complete (d : Draft) : Draft :=
  match d.edits with
  | some _ => d
  | none =>
    let fragments := d.declared.services.map service ++ d.declared.servers.map serverMethods
    let requested := fragments.foldl request d
    let edits := d.declared.services.map serviceEdit ++ d.declared.servers.flatMap serverEdits
    { requested with edits := some (edits ++ requested.headEdits) }

/-- The lines of the expanded module, as far as the edits are computed. -/
def lines (d : Draft) : List String := Edit.applyAll d.sourceLines (d.edits.getD [])

/-- The text of the expanded module, as far as the edits are computed. -/
def text (d : Draft) : String := Text.joinLines d.lines ++ "\n"

end Draft

/-- The expanded module of a source text, or nothing if it declares nothing. -/
def expand (source filename : String) : Except Failure (Option String) := do
  let d ← Draft.ofSource source filename
  pure (if d.hasExpansions then some d.complete.text else none)

end Expansion

end ServiceStubs
