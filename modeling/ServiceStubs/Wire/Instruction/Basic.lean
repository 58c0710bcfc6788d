import ServiceStubs.Number.Binary64
import ServiceStubs.Text.CodePoint
import ServiceStubs.Wire.Bytes

/-!
# Instructions

A message is a program for a stack machine that builds a value. Several spellings of an instruction
exist, but they mean the same, so an instruction is kept by its meaning. Each has one spelling in
which it is written: the shortest one.

## Main definitions

* `Instruction`: what the machine can be told to do
* `Instruction.form`: the bytes in which an instruction is written
* `Instruction.isWritable`: whether its numbers fit into that form
-/

namespace ServiceStubs

namespace Wire

/-- One instruction of a message. -/
inductive Instruction
  /-- The version of the format that the message is written in. -/
  | protocol (version : UInt8)
  /-- The next bytes belong together. -/
  | frame (length : Nat)
  /-- The value on top of the stack is the message. -/
  | stop
  | mark
  | pop
  | popMark
  | duplicate
  | none
  | bool (b : Bool)
  | int (n : Int)
  | float (x : Binary64)
  | text (s : WideText)
  | bytes (bs : List UInt8)
  | byteArray (bs : List UInt8)
  | emptyTuple
  | emptyList
  | emptyDict
  | emptySet
  /-- A tuple of the topmost `size` values. -/
  | tupleOf (size : Nat)
  /-- A tuple of the values down to the mark. -/
  | tuple
  | list
  | dict
  | frozenSet
  | append
  | appends
  | setItem
  | setItems
  | addItems
  /-- The class with the given name. -/
  | global (module name : String)
  /-- The class whose name stands on the stack. -/
  | stackGlobal
  /-- The class that was given a number. -/
  | extension (code : Nat)
  /-- A new instance of the class with the given name, from the values down to the mark. -/
  | newNamed (module name : String)
  /-- A new instance of the class above the mark, from the values above it. -/
  | newMarked
  /-- A new instance of a class, from a tuple of arguments. -/
  | newObject
  /-- A new instance of a class, from a tuple of arguments and a dict of named ones. -/
  | newObjectNamed
  /-- The result of a call. -/
  | reduce
  /-- The state of an instance. -/
  | build
  /-- The value that was kept under a number. -/
  | get (index : Nat)
  /-- Keeps the topmost value under a number. -/
  | put (index : Nat)
  /-- Keeps the topmost value under the next number. -/
  | memoize
  /-- Makes the topmost buffer unchangeable. -/
  | readOnly
  deriving DecidableEq, Repr, Inhabited

namespace Instruction

/-- A payload behind its length, which takes as many bytes as it needs: one, four or eight. -/
def counted (short medium long : UInt8) (payload : List UInt8) : List UInt8 :=
  let n := payload.length
  if n < 256 then short :: UInt8.ofNat n :: payload
  else if n < 256 ^ 4 then medium :: (littleEndian 4 n ++ payload)
  else long :: (littleEndian 8 n ++ payload)

/-- The form of an integer. Those of 32 bits have forms of their own, the rest of which are
unsigned. -/
def intForm (n : Int) : List UInt8 :=
  if 0 ≤ n && n < 256 then 0x4b :: signedBytes 1 n
  else if 0 ≤ n && n < 65536 then 0x4d :: signedBytes 2 n
  else if -2 ^ 31 ≤ n && n < 2 ^ 31 then 0x4a :: signedBytes 4 n
  else
    let width := signedWidth n
    if width < 256 then 0x8a :: UInt8.ofNat width :: signedBytes width n
    else 0x8b :: (littleEndian 4 width ++ signedBytes width n)

/-- The form of an instruction with a number that takes one byte or four. -/
def indexForm (short long : UInt8) (n : Nat) : List UInt8 :=
  if n < 256 then [short, UInt8.ofNat n] else long :: littleEndian 4 n

/-- The form of the class that was given a number. -/
def extensionForm (code : Nat) : List UInt8 :=
  if code < 256 then [0x82, UInt8.ofNat code]
  else if code < 65536 then 0x83 :: littleEndian 2 code
  else 0x84 :: littleEndian 4 code

/-- The line feed that ends a line. -/
def lineFeed : UInt8 := 0x0a

/-- The bytes of an instruction. -/
def form : Instruction → List UInt8
  | protocol version => [0x80, version]
  | frame length => 0x95 :: littleEndian 8 length
  | stop => [0x2e]
  | mark => [0x28]
  | pop => [0x30]
  | popMark => [0x31]
  | duplicate => [0x32]
  | none => [0x4e]
  | bool b => [if b then 0x88 else 0x89]
  | int n => intForm n
  | float x => 0x47 :: bigEndian 8 x.bits.toNat
  | text s => counted 0x8c 0x58 0x8d s.utf8Bytes
  | bytes bs => counted 0x43 0x42 0x8e bs
  | byteArray bs => 0x96 :: (littleEndian 8 bs.length ++ bs)
  | emptyTuple => [0x29]
  | emptyList => [0x5d]
  | emptyDict => [0x7d]
  | emptySet => [0x8f]
  | tupleOf size => [UInt8.ofNat (0x84 + size)]
  | tuple => [0x74]
  | list => [0x6c]
  | dict => [0x64]
  | frozenSet => [0x91]
  | append => [0x61]
  | appends => [0x65]
  | setItem => [0x73]
  | setItems => [0x75]
  | addItems => [0x90]
  | global module name =>
    0x63 :: (Text.utf8Bytes module ++ lineFeed :: (Text.utf8Bytes name ++ [lineFeed]))
  | stackGlobal => [0x93]
  | extension code => extensionForm code
  | newNamed module name =>
    0x69 :: (Text.utf8Bytes module ++ lineFeed :: (Text.utf8Bytes name ++ [lineFeed]))
  | newMarked => [0x6f]
  | newObject => [0x81]
  | newObjectNamed => [0x92]
  | reduce => [0x52]
  | build => [0x62]
  | get index => indexForm 0x68 0x6a index
  | put index => indexForm 0x71 0x72 index
  | memoize => [0x94]
  | readOnly => [0x98]

/-- Whether the numbers of an instruction fit into its form. -/
def isWritable : Instruction → Bool
  | int n => signedWidth n < 2 ^ 31
  | get index => index < 256 ^ 4
  | extension code => code < 256 ^ 4
  | _ => true

/-- The length of the bytes, text or byte array that an instruction carries. -/
def payloadLength : Instruction → Nat
  | text s => s.utf8ByteSize
  | bytes bs => bs.length
  | byteArray bs => bs.length
  | _ => 0

end Instruction

end Wire

end ServiceStubs
