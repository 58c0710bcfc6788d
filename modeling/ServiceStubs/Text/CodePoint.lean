/-!
# Texts with surrogates

A text is a sequence of code points. Most of them are characters, but the halves of a surrogate pair
are code points as well and may stand by themselves: an escape in a literal can spell one, and so
can the bytes of a message. A source is decoded from its bytes without them.

Inside a message every code point has a form in bytes, the surrogates included.

## Main definitions

* `CodePoint`, `WideText`: a text that may hold surrogates
* `WideText.ofString`, `WideText.toString?`: the texts without surrogates
* `WideText.utf8Bytes`, `WideText.ofUtf8?`: the form of a text in bytes
-/

namespace ServiceStubs

-- Powers are the core library's own, whatever else is imported.
attribute [instance (10000), default_instance (10000)] instPowNat

/-- A number that may stand in a text. -/
abbrev CodePoint := Fin 0x110000

namespace CodePoint

/-- The code point of a character. -/
def ofChar (c : Char) : CodePoint :=
  ⟨c.toNat, c.valid.elim (fun h => Nat.lt_trans h (by decide)) And.right⟩

/-- The character of a code point; a surrogate has none. -/
def char? (p : CodePoint) : Option Char :=
  if h : p.val.isValidChar then some (Char.ofNatAux p.val h) else none

/-- The form of a code point: the number in groups of six bits, the first of which tells how many
bytes follow. -/
def utf8Form (p : CodePoint) : List UInt8 :=
  let n := p.val
  let follower (k : Nat) : UInt8 := UInt8.ofNat (0x80 + n / 64 ^ k % 64)
  if n < 0x80 then [UInt8.ofNat n]
  else if n < 0x800 then [UInt8.ofNat (0xc0 + n / 64), follower 0]
  else if n < 0x10000 then [UInt8.ofNat (0xe0 + n / 64 ^ 2), follower 1, follower 0]
  else [UInt8.ofNat (0xf0 + n / 64 ^ 3), follower 2, follower 1, follower 0]

/-- How many bytes follow the first one of a form, and the weight of the bits that tell it. -/
def leadOf? (b : Nat) : Option (Nat × Nat) :=
  if b < 0x80 then some (0, 0x80)
  else if b < 0xc0 then none
  else if b < 0xe0 then some (1, 0x20)
  else if b < 0xf0 then some (2, 0x10)
  else if b < 0xf8 then some (3, 0x08)
  else none

/-- The code point at the front of some bytes, which must stand there in its form, and the bytes
behind it. -/
def first? : List UInt8 → Option (CodePoint × List UInt8)
  | [] => none
  | b :: rest =>
    match leadOf? b.toNat with
    | none => none
    | some (count, weight) =>
      let form := b :: rest.take count
      let n := (rest.take count).foldl (fun n c => n * 64 + c.toNat % 64) (b.toNat % weight)
      if h : n < 0x110000 then
        if utf8Form ⟨n, h⟩ == form then some (⟨n, h⟩, rest.drop count) else none
      else none

/-- The code points of some bytes, at most `fuel` of them. -/
def all? : Nat → List UInt8 → Option (List CodePoint)
  | _, [] => some []
  | 0, _ :: _ => none
  | fuel + 1, bs =>
    match first? bs with
    | none => none
    | some (p, rest) => (all? fuel rest).map (p :: ·)

end CodePoint

/-- A text that may hold surrogates. -/
structure WideText where
  points : List CodePoint
  deriving DecidableEq, Repr, Inhabited, Hashable

namespace WideText

/-- A text without surrogates. -/
@[coe] def ofString (s : String) : WideText := ⟨s.toList.map CodePoint.ofChar⟩

instance : Coe String WideText := ⟨ofString⟩

/-- The characters of a text, which has no surrogates. -/
def toString? (t : WideText) : Option String := (t.points.mapM CodePoint.char?).map String.ofList

/-- The bytes of a text. -/
def utf8Bytes (t : WideText) : List UInt8 := t.points.flatMap CodePoint.utf8Form

/-- How many bytes a text takes. -/
def utf8ByteSize (t : WideText) : Nat := t.utf8Bytes.length

/-- The text with the given bytes. -/
def ofUtf8? (bs : List UInt8) : Option WideText := (CodePoint.all? bs.length bs).map mk

end WideText

end ServiceStubs
