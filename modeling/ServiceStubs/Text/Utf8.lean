/-!
# Texts as bytes

Files and messages hold texts in their UTF-8 form. Reading it back either insists on a correct form
or puts the replacement character for whatever is not part of one.

## Main definitions

* `Text.utf8Bytes`, `Text.ofUtf8?`: the form of a text and the text of a correct form
* `Text.ofUtf8Lossy`: the text of any bytes
-/

namespace ServiceStubs

-- Powers are the core library's own, whatever else is imported.
attribute [instance (10000), default_instance (10000)] instPowNat

namespace Text

/-- The UTF-8 form of a text. -/
def utf8Bytes (s : String) : List UInt8 := s.toUTF8.toList

/-- The text with the given UTF-8 form. -/
def ofUtf8? (bs : List UInt8) : Option String := String.fromUTF8? (ByteArray.mk bs.toArray)

/-- How many bytes follow a first byte, and the bounds of the second one. The bounds leave out
forms that are too long, surrogates and numbers beyond the last code point. -/
def leadOf (b : UInt8) : Option (Nat × UInt8 × UInt8) :=
  if b < 0xc2 then none
  else if b < 0xe0 then some (1, 0x80, 0xbf)
  else if b == 0xe0 then some (2, 0xa0, 0xbf)
  else if b == 0xed then some (2, 0x80, 0x9f)
  else if b < 0xf0 then some (2, 0x80, 0xbf)
  else if b == 0xf0 then some (3, 0x90, 0xbf)
  else if b < 0xf4 then some (3, 0x80, 0xbf)
  else if b == 0xf4 then some (3, 0x80, 0x8f)
  else none

/-- The bytes of one character behind its first byte, as far as they are there. -/
def followers (count : Nat) (low high : UInt8) : List UInt8 → List UInt8
  | [] => []
  | b :: rest =>
    if low ≤ b && b ≤ high then b :: (rest.take (count - 1)).takeWhile fun c => 0x80 ≤ c && c ≤ 0xbf
    else []

/-- The character at the front of some bytes, or the replacement character, and the number of
bytes it takes besides the first. -/
def lossyChar (b : UInt8) (rest : List UInt8) : Char × Nat :=
  if b < 0x80 then (Char.ofNat b.toNat, 0)
  else match leadOf b with
    | none => ('\ufffd', 0)
    | some (count, low, high) =>
      let tail := followers count low high rest
      if tail.length == count then
        let lead := b.toNat % 2 ^ (6 - count)
        (Char.ofNat (tail.foldl (fun n c => n * 64 + c.toNat % 64) lead), count)
      else ('\ufffd', tail.length)

/-- The characters of any bytes. -/
def ofUtf8Lossy : List UInt8 → List Char
  | [] => []
  | b :: rest => (lossyChar b rest).1 :: ofUtf8Lossy (rest.drop (lossyChar b rest).2)
termination_by bs => bs.length

end Text

end ServiceStubs
