import ServiceStubs.Token.Escape
import ServiceStubs.Wire.Instruction.Basic
import ServiceStubs.Wire.Numeral

/-!
# Reading instructions

Instructions are read in all their spellings, also those that are written as lines of text and
those that newer versions of the format replaced.

The bytes of a frame are taken out of the input together. An instruction that does not fit into
what is left of its frame is read from behind the frame, and the rest of the frame is lost; only
the payloads of bytes run across the end of a frame.

## Main definitions

* `Input`: the bytes that are left, in the current frame and behind it
* `Instruction.read?`: the next instruction and the rest of the input
-/

namespace ServiceStubs

namespace Wire

/-- The first `n` items and the others, unless there are fewer. -/
def splitExactly {α : Type} (n : Nat) (xs : List α) : Option (List α × List α) :=
  let start := xs.take n
  if start.length == n then some (start, xs.drop n) else none

/-- What is left to be read. -/
structure Input where
  /-- The bytes left of the current frame. -/
  frame : List UInt8
  /-- The bytes behind the frame. -/
  rest : List UInt8
  deriving Repr, DecidableEq

/-- Reads from the input, or fails. -/
abbrev Reader (α : Type) := StateT Input Option α

namespace Input

/-- The input that holds nothing but the given bytes. -/
def ofBytes (bs : List UInt8) : Input := ⟨[], bs⟩

/-- The next `n` bytes. -/
def take (n : Nat) : Reader (List UInt8) := fun input =>
  match splitExactly n input.frame with
  | some (bs, frame) => some (bs, { input with frame })
  | none => (splitExactly n input.rest).map fun (bs, rest) => (bs, ⟨[], rest⟩)

/-- The next `n` bytes, which may run across the end of the frame. -/
def takeAcross (n : Nat) : Reader (List UInt8) := fun input =>
  let start := input.frame.take n
  (splitExactly (n - start.length) input.rest).map fun (bs, rest) =>
    (start ++ bs, ⟨input.frame.drop n, rest⟩)

/-- The bytes up to the next line feed, which is left out. -/
def line : Reader (List UInt8) := fun input =>
  let split (bs : List UInt8) :=
    let start := bs.takeWhile (· != Instruction.lineFeed)
    (splitExactly (start.length + 1) bs).map fun (_, rest) => (start, rest)
  match split input.frame with
  | some (bs, frame) => some (bs, { input with frame })
  | none => (split input.rest).map fun (bs, rest) => (bs, ⟨[], rest⟩)

/-- Makes the next `n` bytes the current frame, unless they are part of it already. -/
def enter (n : Nat) : Reader Unit := fun input =>
  match splitExactly n input.frame with
  | some _ => some ((), input)
  | none => (splitExactly n input.rest).map fun (frame, rest) => ((), ⟨frame, rest⟩)

/-- A natural number in `width` bytes. -/
def number (width : Nat) : Reader Nat := do return ofLittleEndian (← take width)

/-- A payload behind its length in `width` bytes. -/
def payload (width : Nat) : Reader (List UInt8) := do take (← number width)

/-- A payload behind its length in `width` bytes; it may run across the end of the frame. -/
def payloadAcross (width : Nat) : Reader (List UInt8) := do takeAcross (← number width)

/-- A line that is not empty. -/
def fullLine : Reader (List UInt8) := do
  let bs ← line
  if bs.isEmpty then failure else return bs

/-- A line that is not empty, as a text in UTF-8. -/
def nameLine : Reader String := do liftM (Text.ofUtf8? (← fullLine))

/-- A line that is not empty, as a text in ASCII. -/
def asciiLine : Reader String := do liftM (asciiOf? (← fullLine))

end Input

open Input

/-- The code point that a digit group stands for. -/
def escapedPoint? (digits : List Char) (width : Nat) : Option CodePoint :=
  if digits.length == width && digits.all Token.isHexDigit then
    let n := Token.valueIn 16 digits
    if h : n < 0x110000 then some ⟨n, h⟩ else none
  else none

/-- A text in which code points may be given by their numbers, behind `\u` or `\U`. -/
def rawTextFrom : Nat → List Char → Option (List CodePoint)
  | 0, _ => some []
  | _, [] => some []
  | fuel + 1, c :: r =>
    if c != '\\' then (rawTextFrom fuel r).map (.ofChar c :: ·)
    else match r with
      | [] => some [.ofChar '\\']
      | d :: r' =>
        if d == 'u' || d == 'U' then
          let width := if d == 'u' then 4 else 8
          match escapedPoint? (r'.take width) width with
          | none => none
          | some e => (rawTextFrom fuel (r'.drop width)).map (e :: ·)
        else (rawTextFrom fuel r').map fun ps => .ofChar '\\' :: .ofChar d :: ps

/-- The text of a line in which code points may be given by their numbers. -/
def rawText? (line : List UInt8) : Option WideText :=
  (rawTextFrom line.length (charsOf line)).map .mk

/-- Whether a backslash at the end of a text escapes nothing. -/
def endsInEscape (cs : List Char) : Bool := (cs.reverse.takeWhile (· == '\\')).length % 2 == 1

/-- The text of a quoted line. -/
def quotedText? (line : List UInt8) : Option String :=
  match charsOf line with
  | [] => none
  | q :: r =>
    if r.getLast? != some q || !(q == '\'' || q == '"') || endsInEscape r.dropLast then none
    else (Token.unescapeBytes r.dropLast false).bind asciiOf?

namespace Instruction

/-- An integer line; a lone digit with a zero or a blank in front is a truth value. -/
def intOfLine? (bs : List UInt8) : Option Instruction :=
  let cs := charsOf bs
  match lenientInteger? cs with
  | some n =>
    if bs.isEmpty then Option.none
    else if bs.length == 2 && (n == 0 || n == 1) then some (bool (n == 1)) else some (int n)
  | Option.none => (lineInteger? cs).map int

/-- An integer line that may end in `L`. -/
def longOfLine? (bs : List UInt8) : Option Instruction :=
  let cs := charsOf bs
  (strictInteger? true (if cs.getLast? == some 'L' then cs.dropLast else cs)).map int

/-- The number of a kept value in a line. -/
def indexOfLine? (bs : List UInt8) : Option Nat :=
  match strictInteger? false (charsOf bs) with
  | some (.ofNat n) => some n
  | _ => Option.none

/-- The instruction behind its first byte. -/
def readBody (code : UInt8) : Reader Instruction := do
  match code with
  | 0x80 => return protocol (UInt8.ofNat (← number 1))
  | 0x95 =>
    let n ← number 8
    enter n
    return frame n
  | 0x2e => return stop
  | 0x28 => return mark
  | 0x30 => return pop
  | 0x31 => return popMark
  | 0x32 => return duplicate
  | 0x4e => return none
  | 0x88 => return bool true
  | 0x89 => return bool false
  | 0x4b => return int (← number 1)
  | 0x4d => return int (← number 2)
  | 0x4a => return int (ofSigned (← take 4))
  | 0x8a => return int (ofSigned (← payload 1))
  | 0x8b =>
    let n ← number 4
    if n < 2 ^ 31 then return int (ofSigned (← take n)) else failure
  | 0x49 => liftM (intOfLine? (← fullLine))
  | 0x4c => liftM (longOfLine? (← fullLine))
  | 0x47 => return float ⟨UInt64.ofNat (ofBigEndian (← take 8))⟩
  | 0x46 => return float (← liftM (lineFloat? (charsOf (← fullLine))))
  | 0x8c => return text (← liftM (WideText.ofUtf8? (← payload 1)))
  | 0x58 => return text (← liftM (WideText.ofUtf8? (← payload 4)))
  | 0x8d => return text (← liftM (WideText.ofUtf8? (← payload 8)))
  | 0x55 => return text (.ofString (← liftM (asciiOf? (← payload 1))))
  | 0x54 => return text (.ofString (← liftM (asciiOf? (← payload 4))))
  | 0x53 => return text (.ofString (← liftM (quotedText? (← line))))
  | 0x56 => return text (← liftM (rawText? (← line)))
  | 0x43 => return bytes (← payloadAcross 1)
  | 0x42 => return bytes (← payloadAcross 4)
  | 0x8e => return bytes (← payloadAcross 8)
  | 0x96 => return byteArray (← payloadAcross 8)
  | 0x29 => return emptyTuple
  | 0x5d => return emptyList
  | 0x7d => return emptyDict
  | 0x8f => return emptySet
  | 0x85 => return tupleOf 1
  | 0x86 => return tupleOf 2
  | 0x87 => return tupleOf 3
  | 0x74 => return tuple
  | 0x6c => return list
  | 0x64 => return dict
  | 0x91 => return frozenSet
  | 0x61 => return append
  | 0x65 => return appends
  | 0x73 => return setItem
  | 0x75 => return setItems
  | 0x90 => return addItems
  | 0x63 =>
    let module ← nameLine
    return global module (← nameLine)
  | 0x93 => return stackGlobal
  | 0x82 => return extension (← number 1)
  | 0x83 => return extension (← number 2)
  | 0x84 => return extension (← number 4)
  | 0x69 =>
    let module ← asciiLine
    return newNamed module (← asciiLine)
  | 0x6f => return newMarked
  | 0x81 => return newObject
  | 0x92 => return newObjectNamed
  | 0x52 => return reduce
  | 0x62 => return build
  | 0x68 => return get (← number 1)
  | 0x6a => return get (← number 4)
  | 0x67 => return get (← liftM (indexOfLine? (← fullLine)))
  | 0x71 => return put (← number 1)
  | 0x72 => return put (← number 4)
  | 0x70 => return put (← liftM (indexOfLine? (← fullLine)))
  | 0x94 => return memoize
  | 0x98 => return readOnly
  | _ => failure

/-- The next instruction. -/
def read? : Reader Instruction := do
  match ← take 1 with
  | [code] => readBody code
  | _ => failure

end Instruction

end Wire

end ServiceStubs
