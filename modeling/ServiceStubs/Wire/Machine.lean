import Std.Data.HashMap
import ServiceStubs.Wire.Construct
import ServiceStubs.Wire.Instruction.Reader
import ServiceStubs.Wire.Registry

/-!
# The machine that reads messages

The machine has a stack with marks in it, and keeps values under numbers. Classes come onto the
stack by their names, and a name is resolved by the registry; a name that stands for no class ends
the reading. What is called may be any value on the stack: a class, or an instance of a class whose
code lets instances be called. Nothing else can be called.

What becomes of a defined class and of its instances is up to the code of the class, where it has
some. Else instances hold attributes, and an attribute may be called in the place of a method.

A log tells which names were resolved, and which classes and instances were called. It is kept when
the reading ends early. Methods that a class itself has, like those that extend a queue or give an
identifier its state, are not told.

## Main definitions

* `Machine`: the state while a message is read
* `Event`: what the log tells
* `Machine.step`: one instruction
* `Machine.runWith`, `Machine.run`: the instructions up to the one that stops
-/

namespace ServiceStubs

namespace Wire

/-- Why bytes are not a message. -/
inductive ReadError
  | malformed
  | unregistered (name : FullName)
  deriving DecidableEq, Repr

/-- The state while a message is read. -/
structure Machine where
  store : Store
  /-- The values above the topmost mark, the topmost value first. -/
  stack : List Ref
  /-- The values below each mark, the topmost mark first. -/
  below : List (List Ref)
  /-- The values kept under numbers. -/
  memo : Std.HashMap Nat Ref

/-- What is worth telling about the reading of a message. -/
inductive Event
  /-- A name was resolved to a class. -/
  | resolved (name : FullName) (c : Class)
  /-- A name stood for no class. -/
  | refused (name : FullName)
  /-- A class was called, or a blank instance of it made. -/
  | called (c : Class)
  /-- An instance of a defined class was called. -/
  | invoked (id : Nat)
  deriving DecidableEq, Repr

/-- The events so far, the last event first. -/
abbrev Log := List Event

/-- Adds to the log, and comes to a result or ends the reading. -/
abbrev Logged (α : Type) := ExceptT ReadError (StateM Log) α

/-- Works on the machine, or ends the reading. -/
abbrev Run (α : Type) := StateT Machine Logged α

namespace Machine

/-- The machine before the first instruction. -/
def start (s : Store) : Machine := ⟨s, [], [], ∅⟩

/-- Ends the reading. -/
def fail {α : Type} : Run α := throw ReadError.malformed

/-- Adds an event to the log. -/
def note (e : Event) : Run Unit := fun m => ExceptT.lift do
  modify (e :: ·)
  return ((), m)

/-- Works on the objects only. -/
def build {α : Type} (b : Build α) : Run α := fun ⟨store, stack, below, memo⟩ =>
  match b store with
  | some (a, store) => return (a, ⟨store, stack, below, memo⟩)
  | none => throw .malformed

/-- Goes on with what is there, or ends the reading. -/
def orFail {α : Type} : Option α → Run α
  | some a => return a
  | none => fail

/-! ## The stack -/

/-- Puts a value on the stack. -/
def push (r : Ref) : Run Unit := fun ⟨store, stack, below, memo⟩ =>
  return ((), ⟨store, r :: stack, below, memo⟩)

/-- Adds an object and puts it on the stack. -/
def pushNew (o : Object) : Run Unit := do push (← build (Build.add o))

/-- Takes the topmost value off the stack; it must stand above the topmost mark. -/
def pop : Run Ref := fun ⟨store, stack, below, memo⟩ =>
  match stack with
  | r :: stack => return (r, ⟨store, stack, below, memo⟩)
  | [] => throw .malformed

/-- The topmost value. -/
def top : Run Ref := do
  let r ← pop
  push r
  return r

/-- Takes `n` values off the stack, the topmost of which comes last. -/
def popMany : Nat → Run (List Ref)
  | 0 => return []
  | n + 1 => do
    let r ← pop
    return (← popMany n) ++ [r]

/-- Takes the topmost mark and the values above it off the stack, the topmost value comes last. -/
def popToMark : Run (List Ref) := fun ⟨store, stack, below, memo⟩ =>
  match below with
  | under :: below => return (stack.reverse, ⟨store, under, below, memo⟩)
  | [] => throw .malformed

/-- Puts a mark on the stack. -/
def setMark : Run Unit := fun ⟨store, stack, below, memo⟩ =>
  return ((), ⟨store, [], stack :: below, memo⟩)

/-- Takes one value or one mark off the stack. -/
def drop : Run Unit := fun ⟨store, stack, below, memo⟩ =>
  match stack, below with
  | _ :: stack, below => return ((), ⟨store, stack, below, memo⟩)
  | [], under :: below => return ((), ⟨store, under, below, memo⟩)
  | [], [] => throw .malformed

/-- Keeps the topmost value under a number. -/
def keep (index : Nat) : Run Unit := do
  let r ← top
  modify fun ⟨store, stack, below, memo⟩ => ⟨store, stack, below, memo.insert index r⟩

/-- The object at a place. -/
def object (r : Ref) : Run Object := build (Build.object r)

/-- Changes the object at a place. -/
def change (r : Ref) (o : Object) : Run Unit :=
  modify fun ⟨store, stack, below, memo⟩ => ⟨store.set r o, stack, below, memo⟩

/-- Items that stand one behind the other as pairs. -/
def pairs? {α : Type} : List α → Option (List (α × α))
  | [] => some []
  | a :: b :: rest => (pairs? rest).map ((a, b) :: ·)
  | [_] => none

/-! ## Classes and calls -/

/-- The class that a name stands for. -/
def resolve (g : Registry) (name : FullName) : Run Class := do
  match g.resolve? name with
  | some c =>
    note (.resolved name c)
    return c
  | none =>
    note (.refused name)
    throw (.unregistered name)

/-- The class at a place. -/
def classAt (r : Ref) : Run Class := do
  match ← object r with
  | .ofClass c => return c
  | _ => fail

/-- The members of a tuple. -/
def tupleAt (r : Ref) : Run (List Ref) := do
  match ← object r with
  | .tuple items => return items
  | _ => fail

/-- The entries of a dict of either kind. -/
def dictAt (r : Ref) : Run (List (Ref × Ref)) := do
  match ← object r with
  | .dict entries => return entries
  | .orderedDict entries => return entries
  | _ => fail

/-- Calls a class. -/
def call (g : Registry) (c : Class) (args : List Ref) : Run Ref := do
  note (.called c)
  match c with
  | .safe c => build (c.create args [])
  | .defined id => build ((g.conduct id).create args)

/-- A new instance to be filled later. -/
def createBlank (g : Registry) (c : Class) (args : List Ref) (named : List (Ref × Ref)) : Run Ref := do
  note (.called c)
  match c with
  | .safe c => build (c.createBlank args named)
  | .defined id => build ((g.conduct id).createBlank args named)

/-- Whether a request for an instance without arguments is a call. -/
def hasInitArguments (g : Registry) : Class → Bool
  | .safe c => c == .timezone
  | .defined id => (g.conduct id).hasInitArguments

/-- Calls a class with arguments, or makes a blank instance without them. -/
def make (g : Registry) (c : Class) (args : List Ref) : Run Ref :=
  if args.isEmpty && !hasInitArguments g c then createBlank g c [] [] else call g c args

/-- Calls an instance of a defined class. -/
def invoke (g : Registry) (id : Nat) (r : Ref) (args : List Ref) : Run Ref := do
  match (g.conduct id).call? with
  | some f =>
    note (.invoked id)
    build (f r args)
  | none => fail

/-- Calls the object at a place: a class or an instance. -/
def callObject (g : Registry) (r : Ref) (args : List Ref) : Run Ref := do
  match ← object r with
  | .ofClass c => call g c args
  | .instance id _ => invoke g id r args
  | _ => fail

/-- Makes an instance of the class at a place, or calls the instance there. -/
def makeObject (g : Registry) (r : Ref) (args : List Ref) : Run Ref := do
  match ← object r with
  | .ofClass c => make g c args
  | .instance id _ => invoke g id r args
  | _ => fail

/-- Calls what is found under a name of an object of a defined class, if something is. -/
def callMember (g : Registry) (id : Nat) (target : Ref) (name : WideText) (args : List Ref) :
    Run Bool := do
  match ← build ((g.conduct id).member target name) with
  | none => return false
  | some (.object r) =>
    discard (callObject g r args)
    return true
  | some (.code f) =>
    build (f args)
    return true

/-! ## Changing objects -/

/-- The place in a sequence that an index stands for; negative ones count from the end. -/
def place? (length : Nat) (i : Int) : Option Nat :=
  if 0 ≤ i && i < length then some i.toNat
  else if i < 0 && -(length : Int) ≤ i then some (i + length).toNat
  else none

/-- The byte at a place. -/
def byteAt (r : Ref) : Run UInt8 := do
  let n ← build (Build.integer r)
  if 0 ≤ n && n < 256 then return UInt8.ofNat n.toNat else fail

/-- Adds items in the way that the code of a class has for it: all together or one by one. -/
def extendInstance (g : Registry) (id : Nat) (target : Ref) (items : List Ref) : Run Unit := do
  let all ← build (Build.add (.list items))
  if !(← callMember g id target "extend" [all]) then
    items.forM fun r => do
      if !(← callMember g id target "append" [r]) then fail

/-- Adds items to the end of a sequence. -/
def extend (g : Registry) (target : Ref) (items : List Ref) : Run Unit := do
  match ← object target with
  | .list old => change target (.list (old ++ items))
  | .deque old limit => change target (.deque (Build.lastOf limit (old ++ items)) limit)
  | .byteArray old => change target (.byteArray (old ++ (← items.mapM byteAt)))
  | .instance id _ => extendInstance g id target items
  | .ofClass (.defined id) => extendInstance g id target items
  | _ => fail

/-- Sets one entry of a dict or one item of a sequence. -/
def setEntry (g : Registry) (target key value : Ref) : Run Unit := do
  let s := (← get).store
  match ← object target with
  | .dict entries => change target (.dict (← orFail (s.setEntry entries key value)))
  | .orderedDict entries => change target (.orderedDict (← orFail (s.setEntry entries key value)))
  | .list items =>
    let i ← orFail (place? items.length (← build (Build.integer key)))
    change target (.list (items.set i value))
  | .deque items limit =>
    let i ← orFail (place? items.length (← build (Build.integer key)))
    change target (.deque (items.set i value) limit)
  | .byteArray bs =>
    let i ← orFail (place? bs.length (← build (Build.integer key)))
    change target (.byteArray (bs.set i (← byteAt value)))
  | .instance id _ =>
    match (g.conduct id).assign? with
    | some f => build (f target key value)
    | none => fail
  | _ => fail

/-- Adds members one by one, with what is found under a name. -/
def addEach (g : Registry) (id : Nat) (target : Ref) (items : List Ref) : Run Unit :=
  items.forM fun r => do
    if !(← callMember g id target "add" [r]) then fail

/-- Adds members to a set. -/
def addMembers (g : Registry) (target : Ref) (items : List Ref) : Run Unit := do
  match ← object target with
  | .set old => change target (.set (← orFail (items.foldlM (← get).store.insertKey old)))
  | .instance id _ =>
    match (g.conduct id).addMembers? with
    | some f => build (f target items)
    | none => addEach g id target items
  | .ofClass (.defined id) => addEach g id target items
  | _ => fail

/-- A name as a key of attributes. Names are shared texts. -/
def attributeKey (r : Ref) : Run Ref := do
  match ← object r with
  | .text t _ => build (Build.add (.text t true))
  | _ => return r

/-- Sets attributes of an instance. -/
def setAttributes (id : Nat) (target : Ref) (old entries : List (Ref × Ref)) : Run Unit := do
  let updated ← entries.foldlM (fun es e => do
    let key ← attributeKey e.1
    orFail ((← get).store.setEntry es key e.2)) old
  change target (.instance id updated)

/-- Whether a value may be the mark of how safe the making of an identifier was. -/
def isSafetyMark (o : Object) : Bool :=
  match o with
  | .none => true
  | _ =>
    match o.real? with
    | some d => sameReal d (.ofInt 0) || sameReal d (.ofInt (-1))
    | none => false

/-- Sets the state of an identifier. -/
def setIdentifier (target state : Ref) : Run Unit := do
  let entries ← dictAt state
  let s := (← get).store
  let number ← orFail (s.attribute? entries "int")
  match s.attribute? entries "is_safe" with
  | none => pure ()
  | some mark => if !isSafetyMark (← object mark) then fail
  change target (.uuid (some number))

/-- Sets one attribute of an instance by its name. Some names have a meaning for every instance. -/
def setOwn (id : Nat) (target : Ref) (attributes : List (Ref × Ref)) (name : WideText)
    (entry : Ref × Ref) : Run Unit := do
  if name == "__class__" then
    match ← classAt entry.2 with
    | .defined other => change target (.instance other attributes)
    | .safe _ => fail
  else if name == "__dict__" then change target (.instance id (← dictAt entry.2))
  else if name == "__weakref__" then fail
  else setAttributes id target attributes [entry]

/-- Sets one attribute by its name. What is set of a class without code is of no consequence. -/
def setNamed (g : Registry) (target : Ref) (entry : Ref × Ref) : Run Unit := do
  let name ← orFail ((← get).store.text? entry.1)
  match ← object target with
  | .instance id attributes =>
    match (g.conduct id).setNamed? with
    | some f => build (f target entry)
    | none => setOwn id target attributes name entry
  | .orderedDict _ => pure ()
  | .ofClass (.defined id) =>
    match (g.conduct id).setNamed? with
    | some f => build (f target entry)
    | none => pure ()
  | .ofClass (.safe .uuid) => pure ()
  | _ => fail

/-- Sets the attributes that a state holds. -/
def setState (g : Registry) (target state : Ref) : Run Unit := do
  match ← object state with
  | .none => pure ()
  | _ =>
    let entries ← dictAt state
    match ← object target with
    | .instance id attributes =>
      match (g.conduct id).setState? with
      | some f => build (f target entries)
      | none => setAttributes id target attributes entries
    | .orderedDict _ => pure ()
    | .ofClass _ => if !entries.isEmpty then fail
    | _ => fail

/-- Gives a state to an object. A pair holds attributes of two kinds. -/
def setWholeState (g : Registry) (target state : Ref) : Run Unit := do
  match ← object state with
  | .tuple [plain, named] =>
    setState g target plain
    (← dictAt named).forM (setNamed g target)
  | _ => setState g target state

/-- Gives a state to an object of a defined class, with what is found for it under a name. -/
def restoreInstance (g : Registry) (id : Nat) (target state : Ref) : Run Unit := do
  if !(← callMember g id target "__setstate__" [state]) then setWholeState g target state

/-- Gives a state to an object, in the way that the object has for it. -/
def restore (g : Registry) (target state : Ref) : Run Unit := do
  match ← object target with
  | .uuid _ => setIdentifier target state
  | .ofClass (.safe .uuid) => fail
  | .instance id _ => restoreInstance g id target state
  | .ofClass (.defined id) => restoreInstance g id target state
  | _ => setWholeState g target state

/-! ## Instructions -/

/-- Carries out one instruction. -/
def step (g : Registry) : Instruction → Run Unit
  | .protocol version => if version ≤ 5 then pure () else fail
  | .frame _ => pure ()
  | .stop => pure ()
  | .mark => setMark
  | .pop => drop
  | .popMark => discard popToMark
  | .duplicate => do push (← top)
  | .none => pushNew .none
  | .bool b => pushNew (.bool b)
  | .int n => pushNew (.int n)
  | .float x => pushNew (.float x)
  | .text s => pushNew (.text s (isAlwaysShared s))
  | .bytes bs => pushNew (.bytes bs bs.isEmpty)
  | .byteArray bs => pushNew (.byteArray bs)
  | .emptyTuple => pushNew (.tuple [])
  | .emptyList => pushNew (.list [])
  | .emptyDict => pushNew (.dict [])
  | .emptySet => pushNew (.set [])
  | .tupleOf size => do pushNew (.tuple (← popMany size))
  | .tuple => do pushNew (.tuple (← popToMark))
  | .list => do pushNew (.list (← popToMark))
  | .dict => do
    let entries ← orFail (pairs? (← popToMark))
    pushNew (.dict (← build (Build.setAll [] entries)))
  | .frozenSet => do
    let items ← popToMark
    pushNew (.frozenSet (← orFail (items.foldlM (← get).store.insertKey [])))
  | .append => do
    let item ← pop
    extend g (← top) [item]
  | .appends => do
    let items ← popToMark
    let target ← top
    if items.isEmpty then pure () else extend g target items
  | .setItem => do
    let value ← pop
    let key ← pop
    setEntry g (← top) key value
  | .setItems => do
    let items ← popToMark
    let target ← top
    (← orFail (pairs? items)).forM fun e => setEntry g target e.1 e.2
  | .addItems => do
    let items ← popToMark
    let target ← top
    if items.isEmpty then pure () else addMembers g target items
  | .global module name => do pushNew (.ofClass (← resolve g (module, name)))
  | .stackGlobal => do
    let name ← pop
    let module ← pop
    let s := (← get).store
    let name ← orFail (s.text? name)
    pushNew (.ofClass (← resolve g (← orFail (s.text? module), name)))
  -- No class was given a number.
  | .extension _ => fail
  | .newNamed module name => do
    let args ← popToMark
    push (← make g (← resolve g (module, name)) args)
  | .newMarked => do
    match ← popToMark with
    | c :: args => push (← makeObject g c args)
    | [] => fail
  | .newObject => do
    let args ← tupleAt (← pop)
    push (← createBlank g (← classAt (← pop)) args [])
  | .newObjectNamed => do
    let named ← dictAt (← pop)
    let args ← tupleAt (← pop)
    push (← createBlank g (← classAt (← pop)) args named)
  | .reduce => do
    let args ← tupleAt (← pop)
    push (← callObject g (← pop) args)
  | .build => do
    let state ← pop
    restore g (← top) state
  | .get index => do push (← orFail (← get).memo[index]?)
  | .put index => keep index
  | .memoize => do keep (← get).memo.size
  | .readOnly => do
    let r ← top
    match ← object r with
    | .bytes _ _ => pure ()
    | .view _ => pure ()
    | .byteArray _ =>
      discard pop
      pushNew (.view r)
    | _ => fail

/-- Carries out the instructions of an input up to the one that stops, at most `fuel` of them, each
in the given way. The result is the topmost value. -/
def runWith (step : Instruction → Run Unit) : Nat → Input → Machine → Logged (Ref × Store)
  | 0, _, _ => throw .malformed
  | fuel + 1, input, m =>
    match Instruction.read? input with
    | none => throw .malformed
    | some (.stop, _) => do
      let (r, m) ← pop m
      return (r, m.store)
    | some (i, rest) => do
      let (_, m) ← step i m
      runWith step fuel rest m

/-- Carries out the instructions of an input up to the one that stops, at most `fuel` of them. -/
def run (g : Registry) : Nat → Input → Machine → Logged (Ref × Store) := runWith (step g)

end Machine

end Wire

end ServiceStubs
