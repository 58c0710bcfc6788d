import ServiceStubs.Number.Complex
import ServiceStubs.Token.Number
import ServiceStubs.Wire.Equality

/-!
# New instances of the safe classes

Each safe class makes an instance from arguments, which may be named. Dates and times also take
their packed form as their first argument. What a class does not accept makes no instance.

An instance can also be made blank, to be filled later. For most classes this is the same, but an
ordered dict, a queue and an identifier then ignore the arguments.

## Main definitions

* `SafeClass.create`: an instance from arguments
* `SafeClass.createBlank`: an instance to be filled later
-/

namespace ServiceStubs

namespace Wire

namespace Build

/-- A new text. -/
def addText (t : WideText) : Build Ref := add (.text t (isAlwaysShared t))

/-- Arguments by position and by name, in the order of the parameters. -/
def arguments (parameters : List WideText) (args : List Ref) (named : List (Ref × Ref)) :
    Build (List (Option Ref)) := do
  let s ← get
  let given := args.map some ++ List.replicate (parameters.length - args.length) none
  let open_ := parameters.drop args.length
  if parameters.length < args.length then failure
  else if named.any fun e => !((s.text? e.1).map open_.contains).getD false then failure
  else
    return (parameters.zip given).map fun p =>
      p.2.orElse fun _ => s.attribute? named p.1

/-- The integer at a place; truth values count. -/
def integer (r : Ref) : Build Int := do
  match ← object r with
  | .int n => return n
  | .bool b => return if b then 1 else 0
  | _ => failure

/-- The integer of an argument that may be left out. -/
def integerOr (fallback : Int) : Option Ref → Build Int
  | none => return fallback
  | some r => integer r

/-- The double of a number. Integers must be in range. -/
def double (r : Ref) : Build Binary64 := do
  let o ← object r
  match o with
  | .float x => return x
  | .complex _ _ => failure
  | _ =>
    match o.real? with
    | some (.finite negative m e) =>
      let x := Binary64.ofScientific negative m e
      match x.reading with
      | .infinite _ => failure
      | _ => return x
    | some d => liftM d.toBinary64
    | none => failure

/-- The bytes of an argument that holds a packed form, as bytes or as characters. -/
def packed? (o : Object) : Option (List UInt8) :=
  match o with
  | .bytes bs _ => some bs
  | .text t _ =>
    if t.points.all (·.val < 256) then some (t.points.map fun p => UInt8.ofNat p.val) else none
  | _ => none

/-- A time zone argument, which may be missing or none. -/
def zone : Option Ref → Build (Option Ref)
  | none => return none
  | some r => do
    match ← object r with
    | .none => return none
    | .utc => return some r
    | .timezone _ _ => return some r
    | _ => failure

/-- The members of an object that can be run through. -/
def members (r : Ref) : Build (List Ref) := do
  match ← object r with
  | .list items => return items
  | .tuple items => return items
  | .set items => return items
  | .frozenSet items => return items
  | .deque items _ => return items
  | .dict entries => return entries.map Prod.fst
  | .orderedDict entries => return entries.map Prod.fst
  | .text t _ => t.points.mapM fun p => addText ⟨[p]⟩
  | .bytes bs _ => bs.mapM fun b => add (.int b.toNat)
  | .byteArray bs => bs.mapM fun b => add (.int b.toNat)
  | .range start stop step =>
    (List.range (rangeLength start stop step)).mapM fun i => add (.int (start + step * Int.ofNat i))
  | _ => failure

/-- The entries of a dict, or of an object whose members are pairs. -/
def entries (r : Ref) : Build (List (Ref × Ref)) := do
  match ← object r with
  | .dict es => return es
  | .orderedDict es => return es
  | _ =>
    (← members r).mapM fun pair => do
      match ← members pair with
      | [key, value] => return (key, value)
      | _ => failure

/-! ## The classes -/

/-- A complex number from its parts. -/
def complex (args : List Ref) (named : List (Ref × Ref)) : Build Ref := do
  match ← arguments ["real", "imag"] args named with
  | [none, none] => add (.complex (Binary64.zero false) (Binary64.zero false))
  | [some re, none] =>
    match ← object re with
    | .complex _ _ => return re
    | .text t _ =>
      let (x, y) ← liftM (t.toString?.bind Complex.ofText?)
      add (.complex x y)
    | _ => add (.complex (← double re) (Binary64.zero false))
  | [none, some im] => add (.complex (Binary64.zero false) (← double im))
  | [some re, some im] => add (.complex (← double re) (← double im))
  | _ => failure

/-- A range from its end, or from its start, its end and its step. -/
def range (args : List Ref) : Build Ref := do
  match ← args.mapM integer with
  | [stop] => add (.range 0 stop 1)
  | [start, stop] => add (.range start stop 1)
  | [start, stop, step] => if step == 0 then failure else add (.range start stop step)
  | _ => failure

/-- A slice from its end, or from its start, its end and its step. -/
def slice (args : List Ref) : Build Ref := do
  match args with
  | [stop] => add (.slice (← add .none) stop (← add .none))
  | [start, stop] => add (.slice start stop (← add .none))
  | [start, stop, step] => add (.slice start stop step)
  | _ => failure

/-- Keeps the last items of a queue. -/
def lastOf (limit : Option Nat) (items : List Ref) : List Ref :=
  match limit with
  | none => items
  | some n => items.drop (items.length - n)

/-- A queue from its items and its greatest length. -/
def deque (args : List Ref) (named : List (Ref × Ref)) : Build Ref := do
  match ← arguments ["iterable", "maxlen"] args named with
  | [items, limit] =>
    let limit ← match limit with
      | none => pure none
      | some r => do
        match ← object r with
        | .none => pure none
        | _ =>
          let n ← integer r
          if n < 0 then failure else pure (some n.toNat)
    let items ← match items with
      | none => pure []
      | some r => members r
    add (.deque (lastOf limit items) limit)
  | _ => failure

/-- Sets entries one after the other. -/
def setAll (start added : List (Ref × Ref)) : Build (List (Ref × Ref)) := do
  let s ← get
  liftM (added.foldlM (fun es e => s.setEntry es e.1 e.2) start)

/-- An ordered dict from entries and named ones. -/
def orderedDict (args : List Ref) (named : List (Ref × Ref)) : Build Ref := do
  let given ← match args with
    | [] => pure []
    | [r] => entries r
    | _ => failure
  add (.orderedDict (← setAll [] (given ++ named)))

/-- A date from its fields or its packed form. -/
def date (args : List Ref) (named : List (Ref × Ref)) : Build Ref := do
  let unpacked ← match args with
    | [r] => pure ((packed? (← object r)).bind Date.unpack?)
    | _ => pure none
  match unpacked with
  | some (d, mark) => if mark then failure else add (.date d)
  | none =>
    match ← arguments ["year", "month", "day"] args named with
    | [some y, some m, some d] =>
      add (.date (← liftM (Date.ofFields? (← integer y) (← integer m) (← integer d))))
    | _ => failure

/-- A fold argument. -/
def fold (r : Option Ref) : Build Bool := do
  let n ← integerOr 0 r
  if n == 0 then return false else if n == 1 then return true else failure

/-- A time of the day from arguments for its fields. -/
def clock (h m s us f : Option Ref) : Build Clock := do
  liftM (Clock.ofFields? (← integerOr 0 h) (← integerOr 0 m) (← integerOr 0 s)
    (← integerOr 0 us) (← fold f))

/-- What the first of at most two arguments holds, if it is a packed form. -/
def packedFirst {α : Type} (unpack? : List UInt8 → Option α) (args : List Ref) :
    Build (Option (α × Option Ref)) := do
  match args with
  | [r] => return ((packed? (← object r)).bind unpack?).map (·, none)
  | [r, z] => return ((packed? (← object r)).bind unpack?).map (·, some z)
  | _ => return none

/-- A date with a time, from its fields or its packed form. -/
def datetime (args : List Ref) (named : List (Ref × Ref)) : Build Ref := do
  match ← packedFirst unpackDateTime? args with
  | some ((d, c), z) => add (.datetime d c (← zone z))
  | none =>
    if 8 < args.length then failure
    match ← arguments ["year", "month", "day", "hour", "minute", "second", "microsecond", "tzinfo",
        "fold"] args named with
    | [some y, some mo, some d, h, m, s, us, z, f] =>
      let day ← liftM (Date.ofFields? (← integer y) (← integer mo) (← integer d))
      add (.datetime day (← clock h m s us f) (← zone z))
    | _ => failure

/-- A time of the day, from its fields or its packed form. -/
def time (args : List Ref) (named : List (Ref × Ref)) : Build Ref := do
  match ← packedFirst Clock.unpackMarked? args with
  | some (c, z) => add (.time c (← zone z))
  | none =>
    if 5 < args.length then failure
    match ← arguments ["hour", "minute", "second", "microsecond", "tzinfo", "fold"] args named with
    | [h, m, s, us, z, f] => add (.time (← clock h m s us f) (← zone z))
    | _ => failure

/-- A number of units of the given length, in fractions of a microsecond: the numerator and the
denominator. -/
def microseconds (unit : Int) : Option Ref → Build (Int × Nat)
  | none => return (0, 1)
  | some r => do
    match ← object r with
    | .float x =>
      match x.reading with
      | .finite negative m q =>
        let n : Int := if negative then -(m : Int) else m
        return (n * 2 ^ q.toNat * unit, 2 ^ (-q).toNat)
      | _ => failure
    | _ => return ((← integer r) * unit, 1)

/-- The integer nearest to a fraction, a tie to the even one. -/
def nearest (num : Int) (den : Nat) : Int :=
  let quotient := num / den
  let rest := num % den
  if 2 * rest < den then quotient
  else if (den : Int) < 2 * rest then quotient + 1
  else quotient + quotient % 2

/-- A duration from numbers of its units. -/
def timedelta (args : List Ref) (named : List (Ref × Ref)) : Build Ref := do
  let units : List (WideText × Int) := [("days", 86400000000), ("seconds", 1000000),
    ("microseconds", 1), ("milliseconds", 1000), ("minutes", 60000000), ("hours", 3600000000),
    ("weeks", 604800000000)]
  let given ← arguments (units.map Prod.fst) args named
  let parts ← (units.zip given).mapM fun p => microseconds p.1.2 p.2
  let total := parts.foldl (fun (a : Int × Nat) b => (a.1 * b.2 + b.1 * a.2, a.2 * b.2)) (0, 1)
  let d := Duration.ofMicroseconds (nearest total.1 total.2)
  if d.inRange then add (.timedelta d) else failure

/-- A time zone from its difference and its name. -/
def timezone (args : List Ref) (named : List (Ref × Ref)) : Build Ref := do
  match ← arguments ["offset", "name"] args named with
  | [some offset, name] =>
    match ← object offset with
    | .timedelta d =>
      match name with
      | none =>
        if d.inMicroseconds == 0 then add .utc
        else if d.isOffset then add (.timezone offset none)
        else failure
      | some n =>
        match ← object n with
        | .text _ _ => if d.isOffset then add (.timezone offset (some n)) else failure
        | _ => failure
    | _ => failure
  | _ => failure

/-- A decimal from a sign, digits and an exponent, which may be a letter for a special one. -/
def decimalOfParts (parts : List Ref) : Build Decimal := do
  match parts with
  | [sign, digits, exponent] =>
    let sign ← integer sign
    let digits ← members digits
    let digits ← digits.mapM integer
    if !(sign == 0 || sign == 1) || digits.any (fun d => d < 0 || 9 < d) then failure
    let coefficient := digits.foldl (fun n d => 10 * n + d.toNat) 0
    match ← object exponent with
    | .text t _ =>
      if t == "F" then return .infinite (sign == 1)
      else if t == "n" then return .notANumber (sign == 1) false coefficient
      else if t == "N" then return .notANumber (sign == 1) true coefficient
      else failure
    | _ => liftM (Decimal.ofParts? (sign == 1) coefficient (← integer exponent))
  | _ => failure

/-- A decimal from a number, its written form or its parts. -/
def decimal (args : List Ref) (named : List (Ref × Ref)) : Build Ref := do
  match ← arguments ["value", "context"] args named with
  | [value, context] =>
    match context with
    | none => pure ()
    | some r =>
      match ← object r with
      | .none => pure ()
      | _ => failure
    match value with
    | none => add (.decimal (.ofInt 0))
    | some r =>
      let o ← object r
      match o with
      | .decimal _ => return r
      | .text t _ => add (.decimal (← liftM (t.toString?.bind Decimal.ofText?)))
      | .tuple parts => add (.decimal (← decimalOfParts parts))
      | .list parts => add (.decimal (← decimalOfParts parts))
      | .complex _ _ => failure
      | _ => add (.decimal (← liftM o.real?))
  | _ => failure

/-- The number that the hexadecimal digits of an identifier stand for. Braces, hyphens and leading
words are left out. -/
def identifierOfText? (t : String) : Option Nat :=
  let bare := (t.replace "urn:" "").replace "uuid:" ""
  let isBrace (c : Char) := c == '\x7b' || c == '\x7d'
  let inner := ((bare.toList.dropWhile isBrace).reverse.dropWhile isBrace).reverse
  let digits := inner.filter (· != '-')
  if digits.length == 32 && digits.all Token.isHexDigit then some (Token.valueIn 16 digits)
  else none

/-- The bytes of an identifier in the order of its number, for those whose first three fields are
turned around. -/
def unswapped (bs : List UInt8) : List UInt8 :=
  (bs.take 4).reverse ++ ((bs.drop 4).take 2).reverse ++ ((bs.drop 6).take 2).reverse ++ bs.drop 8

/-- A number with the version of an identifier and its variant marked in it. -/
def withVersion (n version : Nat) : Nat :=
  let variant := n / 2 ^ 62 % 4
  let old := n / 2 ^ 76 % 16
  n - variant * 2 ^ 62 + 2 * 2 ^ 62 - old * 2 ^ 76 + version * 2 ^ 76

/-- An identifier from exactly one of its written form, its bytes in either order and its
number. -/
def uuid (args : List Ref) (named : List (Ref × Ref)) : Build Ref := do
  let given ← arguments ["hex", "bytes", "bytes_le", "fields", "int", "version"] args named
  let present ← given.mapM fun a => do
    match a with
    | none => return none
    | some r =>
      match ← object r with
      | .none => return none
      | _ => return some r
  let number : Nat ← match present.take 5 with
    | [some hex, none, none, none, none] =>
      match ← object hex with
      | .text t _ => liftM (t.toString?.bind identifierOfText?)
      | _ => failure
    | [none, some bytes, none, none, none] =>
      match ← object bytes with
      | .bytes bs _ => if bs.length == 16 then pure (ofBigEndian bs) else failure
      | _ => failure
    | [none, none, some bytes, none, none] =>
      match ← object bytes with
      | .bytes bs _ => if bs.length == 16 then pure (ofBigEndian (unswapped bs)) else failure
      | _ => failure
    | [none, none, none, none, some r] =>
      let n ← integer r
      if 0 ≤ n && n < 2 ^ 128 then pure n.toNat else failure
    | _ => failure
  match present.drop 5 with
  | [some version] =>
    let v ← integer version
    if 1 ≤ v && v ≤ 5 then
      add (.uuid (some (← add (.int (withVersion number v.toNat)))))
    else failure
  | _ => add (.uuid (some (← add (.int number))))

end Build

/-- A new instance from arguments. -/
def SafeClass.create (c : SafeClass) (args : List Ref) (named : List (Ref × Ref)) : Build Ref :=
  match c with
  | .complex => Build.complex args named
  | .range => if named.isEmpty then Build.range args else failure
  | .slice => if named.isEmpty then Build.slice args else failure
  | .orderedDict => Build.orderedDict args named
  | .deque => Build.deque args named
  | .date => Build.date args named
  | .datetime => Build.datetime args named
  | .time => Build.time args named
  | .timedelta => Build.timedelta args named
  | .timezone => Build.timezone args named
  | .decimal => Build.decimal args named
  | .uuid => Build.uuid args named

/-- A new instance to be filled later. -/
def SafeClass.createBlank (c : SafeClass) (args : List Ref) (named : List (Ref × Ref)) :
    Build Ref :=
  match c with
  | .orderedDict => Build.add (.orderedDict [])
  | .deque => Build.add (.deque [] none)
  | .uuid => Build.add (.uuid none)
  | _ => c.create args named

end Wire

end ServiceStubs
