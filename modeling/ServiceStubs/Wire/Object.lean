import ServiceStubs.Number.Decimal
import ServiceStubs.Text.CodePoint
import ServiceStubs.Wire.Calendar

/-!
# Objects

Values form a graph: the same object may be part of several others, and of itself. So the objects
stand in a store, and an object refers to its parts by their places there.

Some objects are one wherever they occur, and are told apart by what they hold and not by their
place: the shared texts and bytes, and the time zone without a difference.

## Main definitions

* `Object`, `Store`: the objects and where they stand
* `Build`: work on the objects
* `Identity`: what tells two objects apart
* `SafeClass`, `Class`: the classes that objects can have
-/

namespace ServiceStubs

namespace Wire

/-- The module of a class and its name there. -/
abbrev FullName := WideText × WideText

/-- The classes that messages may use without having been registered. -/
inductive SafeClass
  | complex | range | slice | orderedDict | deque | date | datetime | time | timedelta | timezone
  | decimal | uuid
  deriving DecidableEq, Repr, Inhabited, Hashable

namespace SafeClass

/-- The module of a class and its name there. -/
def fullName : SafeClass → FullName
  | complex => ("builtins", "complex")
  | range => ("builtins", "range")
  | slice => ("builtins", "slice")
  | orderedDict => ("collections", "OrderedDict")
  | deque => ("collections", "deque")
  | date => ("datetime", "date")
  | datetime => ("datetime", "datetime")
  | time => ("datetime", "time")
  | timedelta => ("datetime", "timedelta")
  | timezone => ("datetime", "timezone")
  | decimal => ("decimal", "Decimal")
  | uuid => ("uuid", "UUID")

/-- All classes that are safe. -/
def all : List SafeClass :=
  [complex, range, slice, orderedDict, deque, date, datetime, time, timedelta, timezone, decimal,
    uuid]

/-- The safe class with the given module and name. -/
def ofName? (module name : WideText) : Option SafeClass :=
  all.find? fun c => c.fullName == (module, name)

end SafeClass

/-- A class: a safe one or one that was defined. -/
inductive Class
  | safe (c : SafeClass)
  | defined (id : Nat)
  deriving DecidableEq, Repr, Inhabited, Hashable

/-- The place of an object. -/
abbrev Ref := Nat

/-- An object. -/
inductive Object
  | none
  | bool (b : Bool)
  | int (n : Int)
  | float (x : Binary64)
  | text (s : WideText) (shared : Bool)
  | bytes (bs : List UInt8) (shared : Bool)
  | byteArray (bs : List UInt8)
  | tuple (items : List Ref)
  | list (items : List Ref)
  | dict (items : List (Ref × Ref))
  | set (items : List Ref)
  | frozenSet (items : List Ref)
  | complex (re im : Binary64)
  | range (start stop step : Int)
  | slice (start stop step : Ref)
  | orderedDict (items : List (Ref × Ref))
  | deque (items : List Ref) (limit : Option Nat)
  | date (d : Date)
  | datetime (d : Date) (c : Clock) (zone : Option Ref)
  | time (c : Clock) (zone : Option Ref)
  | timedelta (d : Duration)
  /-- The time zone without a difference or a name of its own. -/
  | utc
  | timezone (offset : Ref) (name : Option Ref)
  | decimal (d : Decimal)
  /-- A unique identifier; it has no number before its state was set. -/
  | uuid (number : Option Ref)
  | ofClass (c : Class)
  | instance (id : Nat) (attributes : List (Ref × Ref))
  /-- A view of a byte array that cannot change it. -/
  | view (target : Ref)
  /-- An object that no message can hold. -/
  | locked
  deriving DecidableEq, Repr, Inhabited

/-- The objects, each at its place. -/
structure Store where
  objects : Array Object
  deriving Repr

namespace Store

/-- No objects. -/
def empty : Store := ⟨#[]⟩

/-- How many objects there are. -/
def size (s : Store) : Nat := s.objects.size

/-- The object at a place. -/
def get? (s : Store) (r : Ref) : Option Object := s.objects[r]?

/-- Adds an object at a new place. -/
def add (s : Store) (o : Object) : Ref × Store := (s.objects.size, ⟨s.objects.push o⟩)

/-- Changes the object at a place. -/
def set (s : Store) (r : Ref) (o : Object) : Store := ⟨s.objects.setIfInBounds r o⟩

/-- The text at a place. -/
def text? (s : Store) (r : Ref) : Option WideText :=
  match s.get? r with
  | some (.text t _) => some t
  | _ => Option.none

/-- The value of an attribute, among names and values. -/
def attribute? (s : Store) (attributes : List (Ref × Ref)) (name : WideText) : Option Ref :=
  (attributes.find? fun a => s.text? a.1 == some name).map Prod.snd

end Store

/-- Works on the store, or fails. -/
abbrev Build (α : Type) := StateT Store Option α

namespace Build

/-- Adds an object. -/
def add (o : Object) : Build Ref := fun s => some (s.add o)

/-- The object at a place. -/
def object (r : Ref) : Build Object := fun s => (s.get? r).map fun o => (o, s)

end Build

/-! ## Identity -/

/-- What tells an object apart from others. -/
inductive Identity
  | place (r : Ref)
  | text (s : WideText)
  | bytes (bs : List UInt8)
  | utc
  /-- The class itself. -/
  | ofClass (c : Class)
  /-- The name of the module of a safe class. -/
  | safeModule (name : WideText)
  /-- The name of the only field in the state of a unique identifier. -/
  | numberField
  deriving DecidableEq, Repr, Hashable

/-- The identity of an object at a place. -/
def Object.identity (o : Object) (r : Ref) : Identity :=
  match o with
  | text s true => .text s
  | bytes bs true => .bytes bs
  | utc => .utc
  | ofClass c => .ofClass c
  | _ => .place r

/-- Whether a text is one object wherever it occurs: it has at most one code point, which is one of
the first 256. -/
def isAlwaysShared (s : WideText) : Bool :=
  match s.points with
  | [] => true
  | [p] => p.val < 256
  | _ => false

end Wire

end ServiceStubs
