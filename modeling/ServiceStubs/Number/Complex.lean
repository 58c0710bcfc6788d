import ServiceStubs.Number.Binary64
import ServiceStubs.Text.Blank

/-!
# Written complex numbers

A complex number is written as a real part, an imaginary part with `j` behind it, or both, with a
sign between them. The imaginary part may be the bare `j`. Parentheses may enclose the number and
blanks surround it.

## Main definitions

* `Binary64.ofStart?`: the longest double at the start of a text
* `Complex.ofText?`: the parts of a complex number
-/

namespace ServiceStubs

namespace Binary64

/-- Splits off the longest start that satisfies a test. -/
def digitsOf (cs : List Char) : List Char × List Char :=
  (cs.takeWhile Char.isDigit, cs.dropWhile Char.isDigit)

/-- The sign at the start of a text, and the rest. -/
def signAt : List Char → List Char × List Char
  | '+' :: r => (['+'], r)
  | '-' :: r => (['-'], r)
  | r => ([], r)

/-- The exponent at the start of a text, or nothing if there is none. -/
def exponentAt (cs : List Char) : List Char × List Char :=
  match cs with
  | e :: r =>
    let (sign, r) := signAt r
    let (digits, r) := digitsOf r
    if (e == 'e' || e == 'E') && !digits.isEmpty then (e :: (sign ++ digits), r) else ([], cs)
  | [] => ([], [])

/-- The longest word of the given ones at the start of a text, in either case. -/
def wordAt (words : List String) (cs : List Char) : Option (List Char × List Char) :=
  (words.find? fun w => (cs.take w.length).map Char.toLower == w.toList).map fun w =>
    (cs.take w.length, cs.drop w.length)

/-- The longest double at the start of a text, and the rest. -/
def ofStart? (cs : List Char) : Option (Binary64 × List Char) :=
  let (sign, body) := signAt cs
  match wordAt ["infinity", "inf", "nan"] body with
  | some (word, rest) => (ofText? (sign ++ word)).map (·, rest)
  | none =>
    let (whole, r) := digitsOf body
    let (fraction, r) := match r with
      | '.' :: r => ('.' :: (digitsOf r).1, (digitsOf r).2)
      | r => ([], r)
    if whole.isEmpty && fraction.length < 2 then none
    else
      let (exponent, rest) := exponentAt r
      (ofText? (sign ++ whole ++ fraction ++ exponent)).map (·, rest)

end Binary64

namespace Complex

/-- Whether a character marks an imaginary part. -/
def isUnit (c : Char) : Bool := c == 'j' || c == 'J'

/-- The imaginary part that a sign and the mark stand for. -/
def bareUnit? (cs : List Char) : Option (Binary64 × List Char) :=
  match Binary64.signAt cs with
  | (sign, c :: r) =>
    if isUnit c then
      some (if sign == ['-'] then (Binary64.ofNat 1).neg else Binary64.ofNat 1, r)
    else none
  | _ => none

/-- The parts of a complex number at the start of a text, and the rest. -/
def partsAt? (cs : List Char) : Option ((Binary64 × Binary64) × List Char) :=
  let zero := Binary64.zero false
  match Binary64.ofStart? cs with
  | none => (bareUnit? cs).map fun (y, r) => ((zero, y), r)
  | some (z, rest) =>
    match rest with
    | [] => some ((z, zero), [])
    | c :: r =>
      if isUnit c then some ((zero, z), r)
      else if c == '+' || c == '-' then
        match Binary64.ofStart? rest with
        | some (y, u :: r') => if isUnit u then some ((z, y), r') else none
        | some (_, []) => none
        | none => (bareUnit? rest).map fun (y, r') => ((z, y), r')
      else some ((z, zero), rest)

/-- The parts of a complex number that fills a text. -/
def ofText? (s : String) : Option (Binary64 × Binary64) :=
  match Text.trimStart s.toList with
  | '(' :: r =>
    match partsAt? (Text.trimStart r) with
    | some (z, rest) =>
      match Text.trimStart rest with
      | ')' :: rest => if rest.all Text.isBlank then some z else none
      | _ => none
    | none => none
  | r =>
    match partsAt? r with
    | some (z, rest) => if rest.all Text.isBlank then some z else none
    | none => none

end Complex

end ServiceStubs
