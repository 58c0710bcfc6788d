import ServiceStubs.Wire.Instruction.Basic

/-!
# Frames

A message is written in frames, so that a reader can fetch many instructions together. A frame is
closed at a place where an object starts, once it is long enough. A long payload stands between
frames with its instruction, and a frame of less than four bytes is written without its header.

## Main definitions

* `Piece`: an instruction, or the start of an object
* `framed`: the bytes of pieces
-/

namespace ServiceStubs

namespace Wire

/-- What the writer of a message puts out. -/
inductive Piece
  /-- An object starts here. -/
  | start
  | instruction (i : Instruction)
  deriving Repr

/-- The length at which a frame is closed, and from which a payload stands outside frames. -/
def frameTarget : Nat := 65536

/-- The least length of a frame. -/
def frameMinimum : Nat := 4

/-- A frame that is not closed yet: its parts, the last of which comes first, and its length. -/
structure OpenFrame where
  parts : List (List UInt8)
  length : Nat

namespace OpenFrame

/-- A frame with nothing in it. -/
def empty : OpenFrame := ⟨[], 0⟩

/-- The frame with bytes more. -/
def add (f : OpenFrame) (bs : List UInt8) : OpenFrame := ⟨bs :: f.parts, f.length + bs.length⟩

/-- The bytes of the frame, behind its header if it is long enough. -/
def close (f : OpenFrame) : List UInt8 :=
  let body := f.parts.reverse.flatten
  if f.length < frameMinimum then body else (Instruction.frame f.length).form ++ body

end OpenFrame

/-- The bytes of an open frame and of the pieces that follow. -/
def framedFrom : OpenFrame → List Piece → List UInt8
  | f, [] => f.close
  | f, .start :: ps =>
    if frameTarget ≤ f.length then f.close ++ framedFrom .empty ps else framedFrom f ps
  | f, .instruction i :: ps =>
    if frameTarget ≤ i.payloadLength then f.close ++ (i.form ++ framedFrom .empty ps)
    else framedFrom (f.add i.form) ps

/-- The bytes of pieces. -/
def framed (ps : List Piece) : List UInt8 := framedFrom .empty ps

end Wire

end ServiceStubs
