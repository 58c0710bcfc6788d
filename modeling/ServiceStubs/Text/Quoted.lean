import ServiceStubs.Text.Printable

/-!
# Quoted texts

How a text is written as a literal on one line. Single quotes enclose it, unless it holds a single
quote and no double one. Backslashes, the enclosing quote and everything that is not printable are
written as escapes.

## Main definitions

* `Text.quoted`: a text as a literal
* `Text.quotedBytes`: a sequence of bytes as a literal
-/

namespace ServiceStubs

namespace Text

/-- The last `width` hexadecimal digits of a number, in small letters. -/
def hexDigits (width n : Nat) : List Char :=
  let digits := Nat.toDigits 16 n
  List.replicate (width - digits.length) '0' ++ digits

/-- The escape of a code point, in the shortest of the three widths that holds it. -/
def codePointEscape (n : Nat) : List Char :=
  if n < 0x100 then '\\' :: 'x' :: hexDigits 2 n
  else if n < 0x10000 then '\\' :: 'u' :: hexDigits 4 n
  else '\\' :: 'U' :: hexDigits 8 n

/-- The escape of a character that a literal does not show as it is. -/
def escapeOf (c : Char) : List Char :=
  if c == '\\' then ['\\', '\\']
  else if c == '\t' then ['\\', 't']
  else if c == '\n' then ['\\', 'n']
  else if c == '\r' then ['\\', 'r']
  else codePointEscape c.toNat

/-- A character inside a literal enclosed by `quote`. -/
def escaped (quote c : Char) : List Char :=
  if c == quote then ['\\', c]
  else if c == '\\' || !isPrintable c then escapeOf c
  else [c]

/-- The quote that encloses the literal of a text. -/
def quoteFor (cs : List Char) : Char :=
  if cs.contains '\'' && !cs.contains '"' then '"' else '\''

/-- The literal of a text, without the quotes around it. -/
def quotedBody (cs : List Char) : List Char :=
  cs.flatMap (escaped (quoteFor cs))

/-- The literal of a text. -/
def quoted (cs : List Char) : List Char :=
  quoteFor cs :: quotedBody cs ++ [quoteFor cs]

/-- A byte inside a literal enclosed by `quote`. Bytes beyond printable ASCII are escaped. -/
def escapedByte (quote : Char) (b : UInt8) : List Char :=
  let c := Char.ofNat b.toNat
  if c == quote || c == '\\' then ['\\', c]
  else if c == '\t' || c == '\n' || c == '\r' then escapeOf c
  else if b < 32 || 127 ≤ b then codePointEscape b.toNat
  else [c]

/-- The literal of a sequence of bytes. -/
def quotedBytes (bs : List UInt8) : List Char :=
  let quote := quoteFor (bs.map fun b => Char.ofNat b.toNat)
  'b' :: quote :: bs.flatMap (escapedByte quote) ++ [quote]

end Text

end ServiceStubs
