import ServiceStubs.Expansion.Module

/-!
# Sessions

An expansion can be asked for its fragments one by one, to compute its edits, and for its text, in
any order and as often as one likes. What it has been asked for is kept in the draft.

## Main definitions

* `Expansion.Call`: what an expansion can be asked for
* `Expansion.Draft.perform`, `Expansion.Draft.run`: one call, and a list of calls
-/

namespace ServiceStubs

namespace Expansion

open Schema

/-- A fragment that an expansion can be asked for. -/
inductive Emission
  | constants (s : Service)
  | interface (s : Service)
  | factory (s : Service)
  | clientMethods (s : Service) (m : Method)
  | client (s : Service)
  | service (s : Service)
  | serverMethod (m : Method)
  | serverMethods (s : Server)

/-- The fragment itself. -/
def Emission.fragment : Emission → Fragment
  | constants s => Expansion.constants s
  | interface s => Expansion.interface s
  | factory s => Expansion.factory s
  | clientMethods s m => Expansion.clientMethods s m
  | client s => Expansion.client s
  | service s => Expansion.service s
  | serverMethod m => Expansion.serverMethod m
  | serverMethods s => Expansion.serverMethods s

/-- What an expansion can be asked for: a fragment, to compute its edits, or its text. -/
inductive Call
  | emit (e : Emission)
  | complete
  | text

/-- What a call answers. -/
inductive Answer
  | lines (ls : List String)
  | done
  | text (t : String)
  deriving DecidableEq, Repr

namespace Draft

/-- The draft after a call, and the answer. -/
def perform (d : Draft) : Call → Draft × Answer
  | .emit e => (d.request e.fragment, .lines e.fragment.lines)
  | .complete => (d.complete, .done)
  | .text => (d.complete, .text d.complete.text)

/-- The draft after some calls, and their answers. -/
def run (d : Draft) : List Call → Draft × List Answer
  | [] => (d, [])
  | c :: calls =>
    let (d', answer) := d.perform c
    let (d'', answers) := d'.run calls
    (d'', answer :: answers)

end Draft

end Expansion

end ServiceStubs
