import ServiceStubs.Tree.Expr

/-!
# Number literals

A number is written in decimal, hexadecimal, octal or binary digits; single underscores may stand
between digits. A decimal number may have a fraction and an exponent, and a `j` at its end makes it
imaginary. A whole decimal number other than zero does not start with a zero.

A number ends where its characters end, and no name may follow it at once, except one of the words
that can come after a value, such as `if` or `else`.
-/

namespace ServiceStubs

namespace Token

/-- Characters that names consist of, as far as the scanner tells them apart. -/
def isNameChar (c : Char) : Bool := c.isAlphanum || c == '_' || 128 ≤ c.toNat

/-- Digits of a kind, underscores between them left out, and the rest of the text. An underscore
that no digit follows is an error. -/
def digitRun (isDigit : Char → Bool) : List Char → Option (List Char × List Char)
  | [] => some ([], [])
  | c :: rest =>
    if isDigit c then (digitRun isDigit rest).map fun (ds, r) => (c :: ds, r)
    else if c == '_' then
      match rest with
      | d :: _ => if isDigit d then digitRun isDigit rest else none
      | [] => none
    else some ([], c :: rest)

/-- The value of a digit in any base up to sixteen. -/
def digitValue (c : Char) : Nat :=
  if c.isDigit then c.toNat - 48 else (c.toLower.toNat - 97) + 10

/-- The value of digits in a base. -/
def valueIn (base : Nat) (ds : List Char) : Nat :=
  ds.foldl (fun n c => base * n + digitValue c) 0

/-- Whether a character is a hexadecimal digit. -/
def isHexDigit (c : Char) : Bool :=
  c.isDigit || ('a' ≤ c && c ≤ 'f') || ('A' ≤ c && c ≤ 'F')

/-- The words that may follow a number without a space. -/
def wordsAfterNumber : List (List Char) :=
  ["and", "else", "for", "if", "in", "is", "or", "not"].map String.toList

/-- Whether a number may end in front of this text. -/
def endsNumber (rest : List Char) : Bool :=
  wordsAfterNumber.any (·.isPrefixOf rest) || !(rest.head?.map isNameChar).getD false

/-- The longest whole number in decimal digits. -/
def maxDecimalDigits : Nat := 4300

/-- A whole number in the given base, after its two leading characters. -/
def scanBased (base : Nat) (isDigit : Char → Bool) (cs : List Char) :
    Option (Tree.Constant × List Char) := do
  let (ds, rest) ← digitRun isDigit cs
  if ds.isEmpty || (rest.head?.map Char.isDigit).getD false || !endsNumber rest then none
  else some (.int (valueIn base ds), rest)

/-- The exponent part of a number, if one stands here. A sign must be followed by a digit; a bare
letter is left to what follows the number. -/
def scanExponent (cs : List Char) : Option (Option Int × List Char) :=
  match cs with
  | e :: rest =>
    if e == 'e' || e == 'E' then
      match rest with
      | sign :: d :: r =>
        if sign == '+' || sign == '-' then
          if d.isDigit then
            (digitRun Char.isDigit (d :: r)).map fun (ds, r') =>
              let n := Int.ofNat (valueIn 10 ds)
              (some (if sign == '-' then -n else n), r')
          else none
        else if sign.isDigit then
          (digitRun Char.isDigit (sign :: d :: r)).map fun (ds, r') =>
            (some (Int.ofNat (valueIn 10 ds)), r')
        else some (none, cs)
      | [d] =>
        if d.isDigit then some (some (Int.ofNat (digitValue d)), [])
        else if d == '+' || d == '-' then none
        else some (none, cs)
      | [] => some (none, cs)
    else some (none, cs)
  | [] => some (none, [])

/-- What follows the whole digits of a decimal number. `hasPoint` says that the point has been
read; `isZeroLed` that the digits start with a zero but are not all zeros. -/
def scanDecimalTail (whole : List Char) (hasPoint isZeroLed : Bool) (cs : List Char) :
    Option (Tree.Constant × List Char) := do
  let (fraction, afterFraction) ←
    if hasPoint && (cs.head?.map Char.isDigit).getD false then digitRun Char.isDigit cs
    else some ([], cs)
  let (exponent, afterExponent) ← scanExponent afterFraction
  let significand := valueIn 10 (whole ++ fraction)
  let shift := exponent.getD 0 - Int.ofNat fraction.length
  let value := Binary64.ofScientific false significand shift
  match afterExponent with
  | c :: rest =>
    if c == 'j' || c == 'J' then
      if endsNumber rest then some (.imaginary value, rest) else none
    else if !endsNumber afterExponent then none
    else if hasPoint || exponent.isSome then some (.float value, afterExponent)
    else if isZeroLed || whole.length > maxDecimalDigits then none
    else some (.int significand, afterExponent)
  | [] =>
    if hasPoint || exponent.isSome then some (.float value, [])
    else if isZeroLed || whole.length > maxDecimalDigits then none
    else some (.int significand, [])

/-- A decimal number that starts with a digit. -/
def scanDecimal (cs : List Char) : Option (Tree.Constant × List Char) := do
  let (whole, rest) ← digitRun Char.isDigit cs
  let isZeroLed := whole.head? == some '0' && whole.any (· != '0')
  match rest with
  | '.' :: r => scanDecimalTail whole true isZeroLed r
  | r => scanDecimalTail whole false isZeroLed r

/-- A number literal and the rest of the text. The text starts with a digit, or with a point and a
digit. -/
def scanNumber (cs : List Char) : Option (Tree.Constant × List Char) :=
  match cs with
  | '.' :: rest => scanDecimalTail [] true false rest
  | '0' :: c :: rest =>
    if c == 'x' || c == 'X' then scanBased 16 isHexDigit rest
    else if c == 'o' || c == 'O' then scanBased 8 (fun d => '0' ≤ d && d ≤ '7') rest
    else if c == 'b' || c == 'B' then scanBased 2 (fun d => d == '0' || d == '1') rest
    else scanDecimal cs
  | _ => scanDecimal cs

end Token

end ServiceStubs
