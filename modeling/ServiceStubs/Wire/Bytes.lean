import ServiceStubs.Text.Utf8

/-!
# Numbers as bytes

Whole numbers stand in messages as little-endian bytes of a fixed or of the least width, negative
ones as two's complements.

## Main definitions

* `littleEndian`, `ofLittleEndian`: natural numbers
* `signedBytes`, `ofSigned`, `signedWidth`: integers
* `charsOf`, `asciiOf?`: bytes that stand for characters
-/

namespace ServiceStubs

namespace Wire

/-- The `width` lowest bytes of a number, the lowest first. -/
def littleEndian : Nat → Nat → List UInt8
  | 0, _ => []
  | width + 1, n => UInt8.ofNat (n % 256) :: littleEndian width (n / 256)

/-- The number whose bytes are given, the lowest first. -/
def ofLittleEndian : List UInt8 → Nat
  | [] => 0
  | b :: bs => b.toNat + 256 * ofLittleEndian bs

/-- The `width` lowest bytes of a number, the lowest last. -/
def bigEndian (width n : Nat) : List UInt8 := (littleEndian width n).reverse

/-- The number whose bytes are given, the lowest last. -/
def ofBigEndian (bs : List UInt8) : Nat := ofLittleEndian bs.reverse

/-- The two's complement of an integer in `width` bytes. -/
def signedBytes (width : Nat) (n : Int) : List UInt8 :=
  littleEndian width (n % 256 ^ width).toNat

/-- The integer whose two's complement is given. -/
def ofSigned (bs : List UInt8) : Int :=
  let n := ofLittleEndian bs
  if 2 * n < 256 ^ bs.length then n else (n : Int) - 256 ^ bs.length

/-- How many bits a number has. -/
def bitLength (n : Nat) : Nat := if n == 0 then 0 else n.log2 + 1

/-- The least number of bytes, at least one, whose two's complement holds an integer. -/
def signedWidth : Int → Nat
  | .ofNat n => bitLength n / 8 + 1
  | .negSucc n => bitLength n / 8 + 1

/-- Each byte as the character with that number. -/
def charsOf (bs : List UInt8) : List Char := bs.map fun b => Char.ofNat b.toNat

/-- The text of bytes that are all ASCII. -/
def asciiOf? (bs : List UInt8) : Option String :=
  if bs.all (· < 128) then some (String.ofList (charsOf bs)) else none

end Wire

end ServiceStubs
