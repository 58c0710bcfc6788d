import Mathlib
import ServiceStubs.Proofs.Wire.Parts
import ServiceStubs.Wire.Writer

/-!
# How long messages get

Pieces take as many bytes as the forms of their instructions, and the headers of frames on top of
that. What an object takes is known from what it holds itself and from what its parts take where
they occur: an integer is written again there, anything else is written once and fetched then.

## Main definitions

* `weight`: what pieces take at most
* `Object.weight`: what an object takes
* `Store.Modest`: a value of less than 2^32 bytes
-/

namespace ServiceStubs

namespace Wire

/-! ### Pieces -/

/-- The bytes of a piece, and of the header of a frame that may come with it. -/
def Piece.weight : Piece → Nat
  | start => 9
  | instruction i => i.form.length + 9

/-- The bytes that pieces take at most. -/
def weight (ps : List Piece) : Nat := (ps.map Piece.weight).sum

@[simp] theorem weight_nil : weight [] = 0 := rfl

@[simp] theorem weight_cons (p : Piece) (ps : List Piece) :
    weight (p :: ps) = p.weight + weight ps := by
  simp [weight]

@[simp] theorem weight_append (ps qs : List Piece) : weight (ps ++ qs) = weight ps + weight qs := by
  simp [weight]

/-- Numbers of objects below a bound, and integers and numbers of classes that have room. -/
def Piece.IsBelow (n : Nat) : Piece → Prop
  | instruction (.get index) => index < n
  | instruction (.int z) => signedWidth z < 2 ^ 31
  | instruction (.extension code) => code < 256 ^ 4
  | _ => True

theorem Piece.IsBelow.mono {p : Piece} {m n : Nat} (h : p.IsBelow m) (hle : m ≤ n) :
    p.IsBelow n := by
  cases p with
  | start => trivial
  | instruction i =>
    cases i with
    | get index => exact Nat.lt_of_lt_of_le h hle
    | int | extension => exact h
    | _ => trivial

theorem Piece.IsBelow.isWritable {p : Piece} {n : Nat} (h : p.IsBelow n) (hn : n ≤ 256 ^ 4) :
    p.isWritable := by
  cases p with
  | start => rfl
  | instruction i =>
    cases i with
    | get index => exact decide_eq_true (Nat.lt_of_lt_of_le h hn)
    | int | extension => exact decide_eq_true h
    | _ => rfl

/-! ### Objects -/

/-- The length of the name of a class. -/
def Registry.nameLength (g : Registry) (c : Class) : Nat :=
  (g.nameOf c).1.utf8ByteSize + (g.nameOf c).2.utf8ByteSize

/-- The integers that an object holds itself. -/
def Object.ints : Object → List Int
  | int n => [n]
  | range start stop step => [start, stop, step]
  | deque _ limit => limit.toList.map Int.ofNat
  | timedelta d => [d.days, d.seconds, d.microseconds]
  | _ => []

/-- The length of the texts and bytes that an object holds itself. -/
def Object.payload (g : Registry) : Object → Nat
  | text t _ => t.utf8ByteSize
  | bytes bs _ | byteArray bs => bs.length
  | decimal d => (d.text : WideText).utf8ByteSize
  | ofClass c => g.nameLength c
  | .instance id _ => g.nameLength (.defined id)
  | _ => 0

/-- What an object takes where it occurs. Integers get no number, so they are written again. -/
def Store.share (s : Store) (x : Ref) : Nat :=
  match s.get? x with
  | some (.int n) => signedWidth n + 32
  | _ => 32

/-- What the parts of an object take where they occur. -/
def Object.shares (s : Store) (o : Object) : Nat := (o.parts.map fun p => s.share p + 32).sum

/-- What an object takes where it is written. -/
def Object.weight (g : Registry) (s : Store) (o : Object) : Nat :=
  512 + o.payload g + (o.ints.map signedWidth).sum + o.shares s

/-- What the object at a place takes. -/
def Store.weightAt (g : Registry) (s : Store) (x : Ref) : Nat :=
  match s.get? x with
  | some o => o.weight g s
  | none => 0

/-- An object that is written again where it occurs. -/
def Object.isAtom : Object → Bool
  | none | bool _ | int _ | float _ | tuple [] => true
  | _ => false

/-- A value that takes less than 2^32 bytes, and each integer in it less than 2^31. -/
structure Store.Modest (g : Registry) (s : Store) (r : Ref) : Prop where
  ints : ∀ x o, s.Leads r x → s.get? x = some o → ∀ n ∈ o.ints, signedWidth n < 2 ^ 31
  weight : ∃ places : Finset Ref, (∀ x, s.Leads r x → x ∈ places) ∧
    s.share r + ∑ x ∈ places, s.weightAt g x < 2 ^ 32

end Wire

end ServiceStubs
