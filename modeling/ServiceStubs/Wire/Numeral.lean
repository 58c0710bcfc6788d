import ServiceStubs.Number.Binary64
import ServiceStubs.Token.Number

/-!
# Numbers in lines of text

The oldest instructions give their numbers as text. Two readings of an integer exist. The lenient
one takes the longest start of the line that is a number, in which a leading zero means octal. The
strict one needs a number in the whole line, with underscores allowed between digits. A null
character ends the line for both.

## Main definitions

* `strictInteger?`: an integer in a fixed base or with the base marked in front
* `lineInteger?`: an integer, read leniently if it is small and strictly otherwise
* `lineFloat?`: a double
-/

namespace ServiceStubs

namespace Wire

open Token (digitRun digitValue valueIn isHexDigit)

/-- The blanks that may surround a number. -/
def isLineBlank (c : Char) : Bool := c == ' ' || (9 ≤ c.toNat && c.toNat ≤ 13)

/-- The line up to its first null character. -/
def beforeNull (cs : List Char) : List Char := cs.takeWhile (·.toNat != 0)

/-- The sign in front of a number, and what follows it. -/
def signOf : List Char → Bool × List Char
  | '-' :: r => (true, r)
  | '+' :: r => (false, r)
  | r => (false, r)

/-- A magnitude with a sign. -/
def signedValue (negative : Bool) (n : Nat) : Int := if negative then -(n : Int) else n

/-- Whether a character is a digit in a base up to sixteen. -/
def isDigitIn (base : Nat) (c : Char) : Bool := isHexDigit c && digitValue c < base

/-- The base that the start of a numeral marks, whether zero is its only value, and the digits. -/
def markedBase : List Char → Nat × Bool × List Char
  | '0' :: c :: r =>
    if c == 'x' || c == 'X' then (16, false, r)
    else if c == 'o' || c == 'O' then (8, false, r)
    else if c == 'b' || c == 'B' then (2, false, r)
    else (10, true, '0' :: c :: r)
  | r => (10, false, r)

/-- The digits of a numeral, single underscores between them left out, with only blanks behind
them. Decimal numerals have a greatest length. -/
def digitsThenBlanks? (base : Nat) (cs : List Char) : Option Nat :=
  match digitRun (isDigitIn base) cs with
  | none => none
  | some (digits, rest) =>
    if digits.isEmpty || !rest.all isLineBlank then none
    else if base == 10 && Token.maxDecimalDigits < digits.length then none
    else some (valueIn base digits)

/-- The integer in decimal digits that a line holds, or one with a marked base. -/
def strictInteger? (marked : Bool) (line : List Char) : Option Int :=
  let (negative, body) := signOf ((beforeNull line).dropWhile isLineBlank)
  let (base, onlyZero, digits) := if marked then markedBase body else (10, false, body)
  if base == 10 && digits.head? == some '_' then none
  else match digitsThenBlanks? base digits with
    | none => none
    | some n => if onlyZero && n != 0 then none else some (signedValue negative n)

/-- The digits of the longest number at the start of a text, in the base that it marks. -/
def leadingDigits (cs : List Char) : Nat × List Char × List Char :=
  let run (base : Nat) (cs : List Char) :=
    (base, cs.takeWhile (isDigitIn base), cs.dropWhile (isDigitIn base))
  match cs with
  | '0' :: c :: d :: r =>
    if (c == 'x' || c == 'X') && isHexDigit d then run 16 (d :: r) else run 8 cs
  | '0' :: _ => run 8 cs
  | _ => run 10 cs

/-- The longest number at the start of a line that fits into 64 bits, if nothing follows it. A line
that starts with its end is zero. -/
def lenientInteger? (line : List Char) : Option Int :=
  let text := beforeNull line
  let (negative, body) := signOf (text.dropWhile isLineBlank)
  let (base, digits, rest) := leadingDigits body
  if digits.isEmpty then if text.isEmpty then some 0 else none
  else
    let n := signedValue negative (valueIn base digits)
    if rest.isEmpty && -2 ^ 63 ≤ n && n < 2 ^ 63 then some n else none

/-- The integer of a line. -/
def lineInteger? (line : List Char) : Option Int :=
  if line.isEmpty then none
  else (lenientInteger? line).orElse fun _ => strictInteger? true line

/-- The double of a line, which must be within the range of finite ones unless it names infinity. -/
def lineFloat? (line : List Char) : Option Binary64 :=
  match Binary64.ofText? (beforeNull line) with
  | none => none
  | some x =>
    match x.reading with
    | .infinite _ => if (beforeNull line).any Char.isDigit then none else some x
    | _ => some x

end Wire

end ServiceStubs
