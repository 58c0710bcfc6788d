/-!
# Double precision numbers

A double is kept as its 64 bits, so every fact about reading and writing one is a fact about
natural numbers. A finite double is `m * 2 ^ q` for a significand `m` and an exponent `q`.

Reading a decimal rounds to the nearest double, ties to the even significand. Writing one uses the
fewest digits that read back as the same double, and of those the decimal closest to it.

## Main definitions

* `Binary64.ofScientific`: the double nearest to `m * 10 ^ e`
* `Binary64.shortest`: the shortest decimal that reads back
* `Binary64.text`: its written form, positional for exponents from `-4` to `15`
-/

namespace ServiceStubs

-- Powers are the core library's own, whatever else is imported.
attribute [instance (10000), default_instance (10000)] instPowNat

/-- A double precision number, as its bits. -/
structure Binary64 where
  bits : UInt64
  deriving DecidableEq, Repr, Inhabited

namespace Binary64

/-- What the bits of a double stand for. -/
inductive Reading
  | finite (negative : Bool) (significand : Nat) (exponent : Int)
  | infinite (negative : Bool)
  | notANumber
  deriving DecidableEq, Repr

/-- The reading of a double. -/
def reading (x : Binary64) : Reading :=
  let n := x.bits.toNat
  let negative := n / 2 ^ 63 == 1
  let exponent := n / 2 ^ 52 % 2 ^ 11
  let fraction := n % 2 ^ 52
  if exponent == 2047 then
    if fraction == 0 then .infinite negative else .notANumber
  else if exponent == 0 then .finite negative fraction (-1074)
  else .finite negative (fraction + 2 ^ 52) (Int.ofNat exponent - 1075)

/-- The bit of the sign. -/
def signBit (negative : Bool) : Nat := if negative then 2 ^ 63 else 0

/-- Infinity of either sign. -/
def infinity (negative : Bool) : Binary64 := ⟨UInt64.ofNat (signBit negative + 2047 * 2 ^ 52)⟩

/-- The number that is none. -/
def nan : Binary64 := ⟨UInt64.ofNat (4095 * 2 ^ 51)⟩

/-- Zero of either sign. -/
def zero (negative : Bool) : Binary64 := ⟨UInt64.ofNat (signBit negative)⟩

/-! ## Reading a decimal -/

/-- The quotient rounded to the nearest natural number, a tie to the even one. -/
def roundDiv (num den : Nat) : Nat :=
  let quotient := num / den
  let rest := num % den
  if 2 * rest < den then quotient
  else if den < 2 * rest then quotient + 1
  else quotient + quotient % 2

/-- The double nearest to the fraction `num / den`, for positive `num` and `den`. -/
def ofRatio (negative : Bool) (num den : Nat) : Binary64 :=
  let log : Int := Int.ofNat num.log2 - Int.ofNat den.log2
  let tooHigh := if 0 ≤ log then num < den * 2 ^ log.toNat else num * 2 ^ (-log).toNat < den
  let exponent := max (if tooHigh then log - 53 else log - 52) (-1074)
  let significand :=
    if 0 ≤ exponent then roundDiv num (den * 2 ^ exponent.toNat)
    else roundDiv (num * 2 ^ (-exponent).toNat) den
  let magnitude := (exponent + 1074).toNat * 2 ^ 52 + significand
  if 2047 * 2 ^ 52 ≤ magnitude then infinity negative
  else ⟨UInt64.ofNat (signBit negative + magnitude)⟩

/-- How many decimal digits a number has. -/
def digitCount (n : Nat) : Nat := (Nat.toDigits 10 n).length

/-- The double nearest to `m * 10 ^ e`. Exponents far outside the range are decided without
computing the power. -/
def ofScientific (negative : Bool) (m : Nat) (e : Int) : Binary64 :=
  if m == 0 then zero negative
  else
    let order := e + Int.ofNat (digitCount m)
    if 400 < order then infinity negative
    else if order < -400 then zero negative
    else if 0 ≤ e then ofRatio negative (m * 10 ^ e.toNat) 1
    else ofRatio negative m (10 ^ (-e).toNat)

/-- The double nearest to a natural number. -/
def ofNat (n : Nat) : Binary64 := ofScientific false n 0

/-- The double with the opposite sign. -/
def neg (x : Binary64) : Binary64 := ⟨x.bits ^^^ UInt64.ofNat (2 ^ 63)⟩

/-! ## Writing a decimal -/

/-- A positive decimal `digits * 10 ^ exponent`. -/
structure Decimal where
  digits : Nat
  exponent : Int
  deriving DecidableEq, Repr

/-- The reals that round to `m * 2 ^ q`, scaled by `4 * 2 ^ scale`, where `scale` makes all of
them whole: the lower end, the number itself, the upper end, and whether the ends belong to it. -/
structure RoundingInterval where
  low : Nat
  value : Nat
  high : Nat
  closed : Bool
  denominator : Nat

/-- The interval of a positive finite double. -/
def roundingInterval (m : Nat) (q : Int) : RoundingInterval :=
  let up := q.toNat
  let unit := 2 ^ up
  let narrow := m == 2 ^ 52 && decide (-1074 < q)
  { low := (4 * m - (if narrow then 1 else 2)) * unit
    value := 4 * m * unit
    high := (4 * m + 2) * unit
    closed := m % 2 == 0
    denominator := 4 * 2 ^ (-q).toNat }

namespace RoundingInterval

/-- Whether the fraction `num / den` lies in the interval. -/
def contains (i : RoundingInterval) (num den : Nat) : Bool :=
  if i.closed then i.low * den ≤ num * i.denominator && num * i.denominator ≤ i.high * den
  else i.low * den < num * i.denominator && num * i.denominator < i.high * den

/-- The decimal with unit `10 ^ e` in the interval that is closest to the number, if there is
one. Only the two neighbours of the number on that grid can be. -/
def onGrid (i : RoundingInterval) (e : Int) : Option Decimal :=
  let scaleUp := 10 ^ e.toNat
  let scaleDown := 10 ^ (-e).toNat
  let below := i.value * scaleDown / (i.denominator * scaleUp)
  let above := below + 1
  let inBelow := i.contains (below * scaleUp) scaleDown
  let inAbove := i.contains (above * scaleUp) scaleDown
  let twice := 2 * (i.value * scaleDown)
  let middle := (below + above) * (i.denominator * scaleUp)
  if inBelow && inAbove then
    if twice < middle || (twice == middle && below % 2 == 0) then some ⟨below, e⟩
    else some ⟨above, e⟩
  else if inBelow then some ⟨below, e⟩
  else if inAbove then some ⟨above, e⟩
  else none

end RoundingInterval

/-- The exponent of the leading decimal digit of `num / den`. -/
def leadingExponent (num den : Nat) : Int :=
  if den ≤ num then Int.ofNat (digitCount (num / den)) - 1
  else
    -- `den / num` rounded up has `d` digits, so the leading digit stands at `-d` or `1 - d`
    let d := digitCount ((den + num - 1) / num)
    if den ≤ num * 10 ^ (d - 1) then 1 - Int.ofNat d else -Int.ofNat d

/-- The first grid with a decimal in the interval, from the coarsest, at most `fuel` tried. -/
def firstGrid (i : RoundingInterval) : Nat → Int → Option Decimal
  | 0, _ => none
  | fuel + 1, e => (i.onGrid e).orElse fun _ => firstGrid i fuel (e - 1)

/-- The shortest decimal that reads back as `m * 2 ^ q`, for positive `m`. -/
def shortest (m : Nat) (q : Int) : Decimal :=
  let i := roundingInterval m q
  let top := leadingExponent i.value i.denominator
  (firstGrid i 18 (top + 1)).getD ⟨m, q⟩

/-- The digits without the zeros at the end, and how many those were. -/
def dropTrailingZeros (digits : List Char) : List Char × Nat :=
  let kept := (digits.reverse.dropWhile (· == '0')).reverse
  (kept, digits.length - kept.length)

/-- The digits of the shortest decimal and the place of its point: the number is
`0.d₁d₂… * 10 ^ point`. -/
def shortestDigits (m : Nat) (q : Int) : List Char × Int :=
  let d := shortest m q
  let all := Nat.toDigits 10 d.digits
  ((dropTrailingZeros all).1, Int.ofNat all.length + d.exponent)

/-- The exponent in the written form: a sign and at least two digits. -/
def exponentText (e : Int) : String :=
  let digits := toString e.natAbs
  let padded := if digits.length < 2 then "0" ++ digits else digits
  (if e < 0 then "e-" else "e+") ++ padded

/-- A positive number in written form. A whole number in positional form ends in `.0` unless
`bare` is set. -/
def positiveText (bare : Bool) (digits : List Char) (point : Int) : String :=
  let tail := if bare then "" else ".0"
  if -4 < point && point ≤ 16 then
    if point ≤ 0 then
      "0." ++ String.ofList (List.replicate (-point).toNat '0' ++ digits)
    else
      let whole := point.toNat
      if digits.length ≤ whole then
        String.ofList (digits ++ List.replicate (whole - digits.length) '0') ++ tail
      else
        String.ofList (digits.take whole) ++ "." ++ String.ofList (digits.drop whole)
  else
    let fraction := digits.drop 1
    String.ofList (digits.take 1) ++
      (if fraction.isEmpty then "" else "." ++ String.ofList fraction) ++ exponentText (point - 1)

/-- The written form of a double, a whole number with or without `.0`. -/
def format (bare : Bool) (x : Binary64) : String :=
  match x.reading with
  | .notANumber => "nan"
  | .infinite negative => if negative then "-inf" else "inf"
  | .finite negative m q =>
    let sign := if negative then "-" else ""
    if m == 0 then sign ++ (if bare then "0" else "0.0")
    else
      let (digits, point) := shortestDigits m q
      sign ++ positiveText bare digits point

/-- The written form of a double. -/
def text (x : Binary64) : String := x.format false

/-! ## Reading the written form -/

/-- The value of a list of decimal digits. -/
def digitsValue (cs : List Char) : Nat :=
  cs.foldl (fun n c => 10 * n + (c.toNat - 48)) 0

/-- A signed run of digits that fills the whole text. -/
def signedDigits? (cs : List Char) : Option Int :=
  let (negative, digits) := match cs with
    | '-' :: r => (true, r)
    | '+' :: r => (false, r)
    | r => (false, r)
  if digits.isEmpty || !digits.all Char.isDigit then none
  else if negative then some (-Int.ofNat (digitsValue digits)) else some (Int.ofNat (digitsValue digits))

/-- Reads digits, an optional fraction and an optional exponent; at least one digit must stand
before the exponent. -/
def unsigned? (negative : Bool) (cs : List Char) : Option Binary64 :=
  let whole := cs.takeWhile Char.isDigit
  let afterWhole := cs.dropWhile Char.isDigit
  let (fraction, rest) := match afterWhole with
    | '.' :: r => (r.takeWhile Char.isDigit, r.dropWhile Char.isDigit)
    | r => ([], r)
  if whole.isEmpty && fraction.isEmpty then none
  else
    let m := digitsValue (whole ++ fraction)
    let shift := Int.ofNat fraction.length
    match rest with
    | [] => some (ofScientific negative m (-shift))
    | c :: r =>
      if c == 'e' || c == 'E' then
        (signedDigits? r).map fun e => ofScientific negative m (e - shift)
      else none

/-- Reads the written form of a number, infinity or the number that is none, in either case. -/
def ofText? (cs : List Char) : Option Binary64 :=
  let (negative, body) := match cs with
    | '-' :: r => (true, r)
    | '+' :: r => (false, r)
    | r => (false, r)
  let lower := String.ofList (body.map Char.toLower)
  if lower == "inf" || lower == "infinity" then some (infinity negative)
  else if lower == "nan" then some (if negative then nan.neg else nan)
  else unsigned? negative body

end Binary64

end ServiceStubs
