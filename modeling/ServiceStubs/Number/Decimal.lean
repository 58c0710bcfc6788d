import ServiceStubs.Number.Binary64
import ServiceStubs.Text.Blank

/-!
# Decimal numbers

A decimal keeps its coefficient and exponent as they were written, so `1.50` and `1.5` are two
decimals of one value. Besides the finite ones there are infinities and values that are no number,
which may carry digits.

The written form is positional while the exponent is not positive and at most six zeros stand
behind the point; otherwise it has an exponent.

## Main definitions

* `Decimal.text`: the written form
* `Decimal.ofText?`: reading a decimal
* `Decimal.value?`: the value without trailing zeros, by which decimals are compared
-/

namespace ServiceStubs

/-- A decimal number. -/
inductive Decimal
  | finite (negative : Bool) (coefficient : Nat) (exponent : Int)
  | infinite (negative : Bool)
  | notANumber (negative signaling : Bool) (payload : Nat)
  deriving DecidableEq, Repr, Inhabited

namespace Decimal

/-- The minus of a negative number. -/
def signText (negative : Bool) : String := if negative then "-" else ""

/-- An exponent with its sign. -/
def exponentText (e : Int) : String := (if e < 0 then "E-" else "E+") ++ toString e.natAbs

/-- The digits of a coefficient. -/
def digitsOf (n : Nat) : List Char := Nat.toDigits 10 n

/-- A finite number without its sign. -/
def magnitudeText (coefficient : Nat) (exponent : Int) : String :=
  let digits := digitsOf coefficient
  let point := exponent + Int.ofNat digits.length
  if exponent ≤ 0 && -6 < point then
    if exponent == 0 then String.ofList digits
    else if point ≤ 0 then
      "0." ++ String.ofList (List.replicate (-point).toNat '0' ++ digits)
    else
      String.ofList (digits.take point.toNat) ++ "." ++ String.ofList (digits.drop point.toNat)
  else
    let fraction := digits.drop 1
    String.ofList (digits.take 1) ++
      (if fraction.isEmpty then "" else "." ++ String.ofList fraction) ++ exponentText (point - 1)

/-- The written form. -/
def text : Decimal → String
  | finite negative coefficient exponent =>
    signText negative ++ magnitudeText coefficient exponent
  | infinite negative => signText negative ++ "Infinity"
  | notANumber negative signaling payload =>
    signText negative ++ (if signaling then "sNaN" else "NaN") ++
      (if payload == 0 then "" else toString payload)

/-- The greatest exponent of a leading digit. -/
def maxExponent : Int := 999999999999999999

/-- The least exponent of a coefficient. -/
def minExponent : Int := -1999999999999999997

/-- The finite number with the given parts, if its exponent is in range. -/
def ofParts? (negative : Bool) (coefficient : Nat) (exponent : Int) : Option Decimal :=
  let leading := exponent + Int.ofNat (digitsOf coefficient).length - 1
  if leading ≤ maxExponent && minExponent ≤ exponent then
    some (finite negative coefficient exponent)
  else none

/-- Digits with an optional point among them: their value and how many stand behind the point. -/
def pointed? (cs : List Char) : Option (Nat × Nat × List Char) :=
  let whole := cs.takeWhile Char.isDigit
  let (fraction, rest) := match cs.dropWhile Char.isDigit with
    | '.' :: r => (r.takeWhile Char.isDigit, r.dropWhile Char.isDigit)
    | r => ([], r)
  if whole.isEmpty && fraction.isEmpty then none
  else some (Binary64.digitsValue (whole ++ fraction), fraction.length, rest)

/-- A number that is not a special one. -/
def finite? (negative : Bool) (cs : List Char) : Option Decimal :=
  match pointed? cs with
  | none => none
  | some (coefficient, places, rest) =>
    match rest with
    | [] => ofParts? negative coefficient (-Int.ofNat places)
    | c :: r =>
      if c == 'e' || c == 'E' then
        match Binary64.signedDigits? r with
        | none => none
        | some e => ofParts? negative coefficient (e - Int.ofNat places)
      else none

/-- The digits behind one of the words for values that are no number. -/
def payload? (cs : List Char) : Option Nat :=
  if cs.all Char.isDigit then some (Binary64.digitsValue cs) else none

/-- Reads a decimal. Blanks may surround it and underscores stand anywhere. -/
def ofText? (s : String) : Option Decimal :=
  let trimmed := (Text.trimStart (Text.trimStart s.toList).reverse).reverse
  let cs := trimmed.filter (· != '_')
  let (negative, body) := match cs with
    | '-' :: r => (true, r)
    | '+' :: r => (false, r)
    | r => (false, r)
  let lower := body.map Char.toLower
  if lower == "inf".toList || lower == "infinity".toList then some (infinite negative)
  else if lower.take 3 == "nan".toList then
    (payload? (lower.drop 3)).map (notANumber negative false)
  else if lower.take 4 == "snan".toList then
    (payload? (lower.drop 4)).map (notANumber negative true)
  else finite? negative body

/-- The whole number as a decimal. -/
def ofInt (n : Int) : Decimal := finite (n < 0) n.natAbs 0

/-- A double as a decimal, without rounding. -/
def ofBinary64 (x : Binary64) : Decimal :=
  match x.reading with
  | .notANumber => notANumber (x.bits.toNat / 2 ^ 63 == 1) false 0
  | .infinite negative => infinite negative
  | .finite negative m q =>
    if m == 0 then finite negative 0 0
    else if 0 ≤ q then finite negative (m * 2 ^ q.toNat) 0
    else
      -- the power of two that the significand has is taken out, so no zeros are left behind
      let twos := (List.range (-q).toNat).findIdx fun i => m / 2 ^ i % 2 == 1
      let places := (-q).toNat - twos
      finite negative (m / 2 ^ twos * 5 ^ places) (-Int.ofNat places)

/-! ## Values -/

/-- A finite value: its sign, its digits without zeros at the end, and its exponent. -/
structure Value where
  negative : Bool
  coefficient : Nat
  exponent : Int
  deriving DecidableEq, Repr

/-- The value of a finite decimal. Zero has no sign. -/
def value? : Decimal → Option Value
  | finite negative coefficient exponent =>
    if coefficient == 0 then some ⟨false, 0, 0⟩
    else
      let (kept, zeros) := Binary64.dropTrailingZeros (digitsOf coefficient)
      some ⟨negative, Binary64.digitsValue kept, exponent + Int.ofNat zeros⟩
  | _ => none

/-- The double nearest to a finite decimal. -/
def toBinary64 : Decimal → Option Binary64
  | finite negative coefficient exponent =>
    some (Binary64.ofScientific negative coefficient exponent)
  | infinite negative => some (Binary64.infinity negative)
  | notANumber _ _ _ => none

end Decimal

end ServiceStubs
