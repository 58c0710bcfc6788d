import Std.Data.HashMap
import ServiceStubs.Wire.Frame
import ServiceStubs.Wire.Registry

/-!
# Writing messages

An object is written as the instructions that build it. Objects are kept under numbers as they are
written, so an object that occurs again is fetched by its number. Objects that can change are kept
before their parts are written, all others after, and a part of an object may turn out to have
kept the object already; what was written for it then is dropped again.

Instances of defined classes are written in the way of a plain class: as a blank instance with its
attributes. Code by which a class says how its instances are written is left out here.

Instances of safe classes are written as calls. Their names, packed forms and digits are new texts
each time, so they are never fetched, but their numbers count.

## Main definitions

* `Writer`: the objects that have numbers already
* `Writer.object`: the pieces of an object
* `Store.message`: the bytes of a message
-/

namespace ServiceStubs

namespace Wire

/-- The parts of a list, each of the given size but the last. -/
def chunks {α : Type} (size : Nat) (xs : List α) : List (List α) :=
  if _ : xs = [] ∨ size = 0 then [] else xs.take size :: chunks size (xs.drop size)
termination_by xs.length
decreasing_by
  rename_i h
  have : 0 < xs.length := List.length_pos_iff.2 fun e => h (Or.inl e)
  simp only [List.length_drop]
  omega

/-- The objects that have numbers. -/
structure Writer where
  known : Std.HashMap Identity Nat
  count : Nat

/-- Why an object is not written. -/
inductive WriteError
  /-- Some object cannot be in a message. -/
  | unwritable
  /-- Some object lies too deep. -/
  | tooDeep
  deriving DecidableEq, Repr

/-- Writes pieces, or meets an object that it cannot write. -/
abbrev Write := StateT Writer (Except WriteError) (List Piece)

namespace Writer

/-- No object has a number. -/
def empty : Writer := ⟨∅, 0⟩

/-- How many items go into one batch. -/
def batchSize : Nat := 1000

/-- One instruction. -/
def one (i : Instruction) : List Piece := [.instruction i]

/-- Writes one instruction. -/
def emit (i : Instruction) : Write := return one i

/-- Writes nothing. -/
def nothing : Write := return []

/-- Writes one thing after the other. -/
def both (a b : Write) : Write := do
  let ps ← a
  return ps ++ (← b)

/-- Writes one thing after the other. -/
def all (ws : List Write) : Write := do return (← ws.mapM id).flatten

/-- Writes the start of an object and the object. -/
def begin_ (w : Write) : Write := both (return [.start]) w

/-- Gives an object the next number. -/
def keep (i : Identity) : Write := fun ⟨known, count⟩ =>
  .ok (one .memoize, ⟨known.insert i count, count + 1⟩)

/-- Gives an object that does not occur again the next number. -/
def keepNew : Write := fun ⟨known, count⟩ => .ok (one .memoize, ⟨known, count + 1⟩)

/-- Gives an object the next number, if it can occur again under its identity. -/
def keepAs : Option Identity → Write
  | some i => keep i
  | none => keepNew

/-- Fetches an object, or writes it if it has no number yet. -/
def fetchOr (i : Identity) (w : Write) : Write := do
  match (← get).known[i]? with
  | some n => return one (.get n)
  | none => w

/-- Fetches an object that may be unknown, or writes it. -/
def fetchOrNew (i : Option Identity) (w : Write) : Write :=
  match i with
  | some i => fetchOr i w
  | none => w

/-- Finishes an object whose parts are written, with the instruction that takes them and the
instructions that drop them if the object has a number by now. -/
def finish (i : Identity) (take : Instruction) (drop : List Instruction) : Write := do
  match (← get).known[i]? with
  | some n => return (drop ++ [Instruction.get n]).map .instruction
  | none => both (emit take) (keep i)

/-! ## Atoms -/

/-- A text. -/
def text (i : Option Identity) (s : WideText) : Write :=
  begin_ (fetchOrNew i (both (emit (.text s)) (keepAs i)))

/-- Bytes that are no object of the store. -/
def newBytes (bs : List UInt8) : Write := begin_ (both (emit (.bytes bs)) keepNew)

/-- An integer. -/
def int (n : Int) : Write := begin_ (emit (.int n))

/-- A double. -/
def float (x : Binary64) : Write := begin_ (emit (.float x))

/-- The empty tuple. -/
def emptyTuple : Write := begin_ (emit .emptyTuple)

/-- A tuple of one to three parts that is no object of the store. -/
def newTuple (parts : List Write) : Write :=
  begin_ (both (all parts) (both (emit (.tupleOf parts.length)) keepNew))

/-! ## Batches -/

/-- A batch of parts, between a mark and the instruction that takes them. -/
def batch (take : Instruction) (parts : List Write) : Write :=
  both (emit .mark) (both (all parts) (emit take))

/-- The items of a list: a lone one by itself, others in batches. -/
def listItems (items : List Write) : Write :=
  match items with
  | [item] => both item (emit .append)
  | _ => all ((chunks batchSize items).map (batch .appends))

/-- The entries of a dict: a lone one by itself, others in batches, of which the last is not
full. -/
def dictEntries (entries : List Write) : Write :=
  match entries with
  | [] => nothing
  | [entry] => both entry (emit .setItem)
  | _ =>
    let full := (chunks batchSize entries).map (batch .setItems)
    all (if entries.length % batchSize == 0 then full ++ [batch .setItems []] else full)

/-- The members of a set in batches, of which the last is not full. -/
def setMembers (members : List Write) : Write :=
  match members with
  | [] => nothing
  | _ =>
    let full := (chunks batchSize members).map (batch .addItems)
    all (if members.length % batchSize == 0 then full ++ [batch .addItems []] else full)

/-- Items that are handed over one by one, in batches; one that remains goes by itself. -/
def streamed (single several : Instruction) (items : List Write) : Write :=
  all ((chunks batchSize items).map fun c =>
    match c with
    | [item] => both item (emit single)
    | _ => batch several c)

/-! ## Classes and instances -/

/-- A class by its name, which must lead to it. -/
def class_ (g : Registry) (c : Class) : Write :=
  begin_ (fetchOr (.ofClass c) (
    if !g.isImportable c then throw .unwritable
    else
      let name := g.nameOf c
      let (module, simple) : Option Identity × Option Identity := match c with
        | .safe _ => (some (.safeModule name.1), none)
        | .defined _ => (some (.text name.1), some (.text name.2))
      both (text module name.1)
        (both (text simple name.2) (both (emit .stackGlobal) (keep (.ofClass c))))))

/-- A call of a safe class, the result of which becomes known if it has an identity. -/
def call (g : Registry) (c : SafeClass) (i : Option Identity) (args : Write) : Write :=
  both (class_ g (.safe c)) (both args
    (match i with
    | some i => both (emit .reduce) (do
      match (← get).known[i]? with
      | some n => return [.instruction .pop, .instruction (Instruction.get n)]
      | none => keep i)
    | none => both (emit .reduce) keepNew))

/-- A duration. -/
def duration (g : Registry) (i : Option Identity) (d : Duration) : Write :=
  call g .timedelta i (newTuple [int d.days, int d.seconds, int d.microseconds])

/-- A blank instance of a class. -/
def blank (g : Registry) (c : Class) (i : Identity) : Write :=
  both (class_ g c) (both emptyTuple (both (emit .newObject) (keep i)))

/-- A state of an instance: a dict that is no object of the store. -/
def state (entries : List Write) : Write :=
  both (begin_ (both (emit .emptyDict) (both keepNew (dictEntries entries)))) (emit .build)

/-- The attributes that decide how an instance is written. An instance that has one cannot be. -/
def reservedAttributes : List WideText := ["__reduce_ex__", "__getstate__"]

/-- An object that is not fetched, with `sub` for its parts. -/
def body (g : Registry) (s : Store) (sub : Ref → Write) (r : Ref) (o : Object) : Write :=
  let i := o.identity r
  let entry (e : Ref × Ref) : Write := both (sub e.1) (sub e.2)
  match o with
  | .none => emit .none
  | .bool b => emit (.bool b)
  | .int n => emit (.int n)
  | .float x => emit (.float x)
  | .text t _ => both (emit (.text t)) (keep i)
  | .bytes bs _ => both (emit (.bytes bs)) (keep i)
  | .byteArray bs => both (emit (.byteArray bs)) (keep i)
  | .tuple [] => emit .emptyTuple
  | .tuple items =>
    let n := items.length
    if n ≤ 3 then
      both (all (items.map sub)) (finish i (.tupleOf n) (List.replicate n .pop))
    else both (emit .mark) (both (all (items.map sub)) (finish i .tuple [.popMark]))
  | .list items => both (emit .emptyList) (both (keep i) (listItems (items.map sub)))
  | .dict entries => both (emit .emptyDict) (both (keep i) (dictEntries (entries.map entry)))
  | .set members => both (emit .emptySet) (both (keep i) (setMembers (members.map sub)))
  | .frozenSet members =>
    both (emit .mark) (both (all (members.map sub)) (finish i .frozenSet [.popMark]))
  | .complex re im => call g .complex i (newTuple [float re, float im])
  | .range start stop step => call g .range i (newTuple [int start, int stop, int step])
  | .slice start stop step => call g .slice i (newTuple [sub start, sub stop, sub step])
  | .orderedDict entries =>
    both (call g .orderedDict i emptyTuple) (streamed .setItem .setItems (entries.map entry))
  | .deque items limit =>
    let args := match limit with
      | none => emptyTuple
      | some n => newTuple [emptyTuple, int n]
    both (call g .deque i args) (streamed .append .appends (items.map sub))
  | .date d => call g .date i (newTuple [newBytes (d.pack 0)])
  | .datetime d c zone =>
    call g .datetime i (newTuple (newBytes (packDateTime d c) :: zone.toList.map sub))
  | .time c zone =>
    call g .time i (newTuple (newBytes (c.pack (foldBit c.fold)) :: zone.toList.map sub))
  | .timedelta d => duration g i d
  | .utc => call g .timezone i (newTuple [begin_ (duration g none ⟨0, 0, 0⟩)])
  | .timezone offset name => call g .timezone i (newTuple (sub offset :: name.toList.map sub))
  | .decimal d => call g .decimal i (newTuple [text none d.text])
  | .uuid none => throw .unwritable
  | .uuid (some number) =>
    both (blank g (.safe .uuid) i)
      (state [both (text (some .numberField) "int") (sub number)])
  | .ofClass c => class_ g c
  | .instance id attributes =>
    if reservedAttributes.any fun name => (s.attribute? attributes name).isSome then throw .unwritable
    else
      both (blank g (.defined id) i)
        (if attributes.isEmpty then nothing else state (attributes.map entry))
  | .view _ => throw .unwritable
  | .locked => throw .unwritable

/-- An object; `depth` objects may lie in each other. -/
def object (g : Registry) (s : Store) : Nat → Ref → Write
  | 0, _ => throw .tooDeep
  | depth + 1, r =>
    match s.get? r with
    | none => throw .unwritable
    | some (.ofClass c) => class_ g c
    | some o => begin_ (fetchOr (o.identity r) (body g s (object g s depth) r o))

end Writer

/-- The version in which messages are written. -/
def writtenVersion : UInt8 := 5

/-- Whether the numbers of a piece fit into its form. -/
def Piece.isWritable : Piece → Bool
  | start => true
  | instruction i => i.isWritable

/-- The longest message. -/
def maxLength : Nat := 2 ^ 63

/-- The bytes of an object as a message, if there are any. -/
def Store.message (g : Registry) (s : Store) (r : Ref) : Except WriteError (List UInt8) := do
  let (pieces, _) ← (Writer.object g s g.depth r).run .empty
  let message := (Instruction.protocol writtenVersion).form ++
    framed (pieces ++ Writer.one .stop)
  if pieces.all Piece.isWritable && message.length < maxLength then return message
  else throw .unwritable

end Wire

end ServiceStubs
