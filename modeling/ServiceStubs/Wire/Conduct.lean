import ServiceStubs.Wire.Object

/-!
# The code of defined classes

A defined class can have code of its own, which decides what comes of the class and its instances
when a message uses them: what a call makes, whether an instance can be called, what is found under
a name. Whatever the code does to the objects is work on the store.

A plain class has no such code. It takes no arguments, and its instances hold attributes and nothing
else.

## Main definitions

* `Conduct`: the code of a class
* `Conduct.plain`: that of a class without code
-/

namespace ServiceStubs

namespace Wire

/-- What is found under a name. -/
inductive Member
  | object (r : Ref)
  /-- Code of a class, to be called with arguments. -/
  | code (run : List Ref → Build Unit)

/-- The code of a class. What stands under an option may be missing; an instance is then treated
like one of a plain class. -/
structure Conduct where
  /-- Whether a request for an instance without arguments is a call, and not the making of a blank
  one. -/
  hasInitArguments : Bool
  /-- What a call of the class comes to. -/
  create : List Ref → Build Ref
  /-- An instance to be filled later, from arguments and named ones. -/
  createBlank : List Ref → List (Ref × Ref) → Build Ref
  /-- What a call of an instance comes to. -/
  call? : Option (Ref → List Ref → Build Ref)
  /-- What is found under a name of an instance or of the class. -/
  member : Ref → WideText → Build (Option Member)
  /-- Sets an entry by its key. -/
  assign? : Option (Ref → Ref → Ref → Build Unit)
  /-- Adds members. -/
  addMembers? : Option (Ref → List Ref → Build Unit)
  /-- Sets an attribute by its name, of an instance or of the class. -/
  setNamed? : Option (Ref → Ref × Ref → Build Unit)
  /-- Sets the attributes that a state holds. -/
  setState? : Option (Ref → List (Ref × Ref) → Build Unit)

namespace Conduct

/-- The attribute of an instance under a name. -/
def held (r : Ref) (name : WideText) : Build (Option Member) := do
  match ← Build.object r with
  | .instance _ attributes => return ((← get).attribute? attributes name).map .object
  | _ => return none

/-- A class without code. -/
def plain (id : Nat) : Conduct where
  hasInitArguments := false
  create args := if args.isEmpty then Build.add (.instance id []) else failure
  createBlank args named :=
    if args.isEmpty && named.isEmpty then Build.add (.instance id []) else failure
  call? := none
  member := held
  assign? := none
  addMembers? := none
  setNamed? := none
  setState? := none

end Conduct

end Wire

end ServiceStubs
