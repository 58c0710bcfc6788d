import ServiceStubs.Wire.Conduct

/-!
# Defined and registered classes

A class is defined in a module under a name and may be importable from there. Registering makes it
a message type: its name then resolves to it when a message is read. A later class may take over a
name, both in the module and in the register.

A program calls itself to write the parts of an object, and may do so only to some depth.

## Main definitions

* `Registry`: the classes, what can be imported, and what is registered
* `Registry.resolve?`: the class that a name in a message stands for
* `Registry.isImportable`: whether a class is found under its own name
-/

namespace ServiceStubs

namespace Wire

/-- The classes of a program, the two tables that lead to them, and how deep the program may go. The
newest entry for a name counts. -/
structure Registry where
  /-- The names of the defined classes, the first defined first. -/
  names : List FullName
  /-- What is found in the modules, where that is a defined class. A point in a name leads to a part
  of another class. -/
  imports : List (FullName × Nat)
  /-- The message types. -/
  messages : List (FullName × Nat)
  /-- The code of the defined classes. -/
  conduct : Nat → Conduct
  /-- How many objects of a value may lie in each other for it to be written. -/
  depth : Nat

namespace Registry

/-- No class is defined, and those that will be are plain. -/
def empty (depth : Nat) : Registry := ⟨[], [], [], .plain, depth⟩

/-- No defined class has code of its own. -/
def IsPlain (g : Registry) : Prop := ∀ id, g.conduct id = .plain id

/-- Whether a name is that of a part of what has another name. -/
def isInside (outer name : FullName) : Bool :=
  outer.1 == name.1 && (outer.2.points ++ [CodePoint.ofChar '.']).isPrefixOf name.2.points

/-- Defines a class, whose number comes with the new registry. It may be found under its name from
now on; then the parts of what was found there before are out of reach. -/
def define (g : Registry) (name : FullName) (found : Bool) : Nat × Registry :=
  let id := g.names.length
  (id, { g with
    names := g.names ++ [name]
    imports :=
      if found then (name, id) :: g.imports.filter fun e => !isInside name e.1 else g.imports })

/-- The name of a class. -/
def nameOf (g : Registry) : Class → FullName
  | .safe c => c.fullName
  | .defined id => (g.names[id]?).getD ("", "")

/-- Makes a defined class a message type. -/
def register (g : Registry) (id : Nat) : Registry :=
  { g with messages := (g.nameOf (.defined id), id) :: g.messages }

/-- The message type of a name. -/
def registered? (g : Registry) (name : FullName) : Option Nat := g.messages.lookup name

/-- Whether a defined class is the message type of its name. -/
def isMessage (g : Registry) (id : Nat) : Bool :=
  g.registered? (g.nameOf (.defined id)) == some id

/-- What is found in a module under a name. -/
def import? (g : Registry) (name : FullName) : Option Class :=
  match g.imports.lookup name with
  | some id => some (.defined id)
  | none => (SafeClass.ofName? name.1 name.2).map .safe

/-- Whether a class is what is found in its module under its name. -/
def isImportable (g : Registry) (c : Class) : Bool := g.import? (g.nameOf c) == some c

/-- The class that a name in a message stands for: a registered one first, else a safe one. -/
def resolve? (g : Registry) (name : FullName) : Option Class :=
  match g.registered? name with
  | some id => some (.defined id)
  | none => if (SafeClass.ofName? name.1 name.2).isSome then g.import? name else none

end Registry

end Wire

end ServiceStubs
