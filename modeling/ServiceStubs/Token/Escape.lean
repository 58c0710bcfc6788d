import ServiceStubs.Token.Number
import ServiceStubs.Text.CharacterName

/-!
# Escapes of literals

What the body of a literal stands for. A backslash before a line end joins the lines, before a
digit, an `x` or one of a few letters it stands for a character, and before anything else it stands
for itself. Characters may also be given by code point (`u`, `U`) or by name (`N`), bytes may not.

## Main definitions

* `Token.unescape`: the characters of a text literal
* `Token.unescapeBytes`: the bytes of a bytes literal
-/

namespace ServiceStubs

namespace Token

/-- What a single letter after a backslash stands for. -/
def simpleEscape? : Char → Option Char
  | '\\' => some '\\'
  | '\'' => some '\''
  | '"' => some '"'
  | 'a' => some '\x07'
  | 'b' => some '\x08'
  | 'f' => some '\x0c'
  | 'n' => some '\n'
  | 'r' => some '\r'
  | 't' => some '\t'
  | 'v' => some '\x0b'
  | _ => none

/-- Whether a character is an octal digit. -/
def isOctalDigit (c : Char) : Bool := '0' ≤ c && c ≤ '7'

/-- The character of a code point, if it is one. A surrogate is a code point but no character, and a
text of characters cannot hold it. The null character stands in for it: neither of them can stand in
a source text, so what holds of texts without null characters holds of texts without both. -/
def charOfCodePoint? (n : Nat) : Option Char :=
  if n < 0x110000 then some (Char.ofNat n) else none

/-- The number written in exactly `width` hexadecimal digits, and the text behind it. -/
def hexNumber? (width : Nat) (cs : List Char) : Option (Nat × List Char) :=
  let ds := cs.take width
  if ds.length == width && ds.all isHexDigit then some (valueIn 16 ds, cs.drop width) else none

/-- What follows a backslash: the characters it stands for and the text behind it. -/
def escapeAt (cs : List Char) : Option (List Char × List Char) :=
  match cs with
  | [] => some (['\\'], [])
  | c :: rest =>
    if c == '\n' then some ([], rest)
    else match simpleEscape? c with
    | some d => some ([d], rest)
    | none =>
      if isOctalDigit c then
        let ds := (cs.take 3).takeWhile isOctalDigit
        some ([Char.ofNat (valueIn 8 ds)], cs.drop ds.length)
      else if c == 'x' || c == 'u' || c == 'U' then do
        let width := if c == 'x' then 2 else if c == 'u' then 4 else 8
        let (n, r) ← hexNumber? width rest
        let d ← charOfCodePoint? n
        some ([d], r)
      else if c == 'N' then
        match rest with
        | '\x7b' :: r => do
          let name := r.takeWhile (· != '\x7d')
          let d ← Text.characterNamed? name
          match r.drop name.length with
          | _ :: r' => some ([d], r')
          | [] => none
        | _ => none
      else some (['\\', c], rest)

/-- The characters of a text literal, at most `fuel` of them. -/
def unescapeFrom : Nat → List Char → Option (List Char)
  | 0, _ => some []
  | _ + 1, [] => some []
  | fuel + 1, c :: rest =>
    if c == '\\' then do
      let (cs, r) ← escapeAt rest
      (unescapeFrom fuel r).map (cs ++ ·)
    else (unescapeFrom fuel rest).map (c :: ·)

/-- The characters that the body of a text literal stands for. -/
def unescape (body : List Char) : Option (List Char) :=
  unescapeFrom body.length body

/-- The bytes of a bytes literal, at most `fuel` of them. All its characters are ASCII. -/
def unescapeBytesFrom : Nat → List Char → Option (List UInt8)
  | 0, _ => some []
  | _ + 1, [] => some []
  | fuel + 1, c :: rest =>
    if 128 ≤ c.toNat then none
    else if c == '\\' then
      match rest with
      | [] => some [c.toNat.toUInt8]
      | d :: r =>
        if d == '\n' then unescapeBytesFrom fuel r
        else match simpleEscape? d with
        | some e => (unescapeBytesFrom fuel r).map (e.toNat.toUInt8 :: ·)
        | none =>
          if isOctalDigit d then
            let ds := (rest.take 3).takeWhile isOctalDigit
            (unescapeBytesFrom fuel (rest.drop ds.length)).map ((valueIn 8 ds).toUInt8 :: ·)
          else if d == 'x' then do
            let (n, r') ← hexNumber? 2 r
            (unescapeBytesFrom fuel r').map (n.toUInt8 :: ·)
          else (unescapeBytesFrom fuel rest).map (c.toNat.toUInt8 :: ·)
    else (unescapeBytesFrom fuel rest).map (c.toNat.toUInt8 :: ·)

/-- The bytes that the body of a bytes literal stands for. -/
def unescapeBytes (body : List Char) (raw : Bool) : Option (List UInt8) :=
  if raw then
    if body.all (·.toNat < 128) then some (body.map (·.toNat.toUInt8)) else none
  else unescapeBytesFrom body.length body

/-- The characters that the body of a text literal stands for, raw or not. -/
def textValue (body : List Char) (raw : Bool) : Option (List Char) :=
  if raw then some body else unescape body

end Token

end ServiceStubs
