import ServiceStubs.Wire.Object

/-!
# Keys

Dicts and sets hold one entry for equal keys. Numbers of all kinds are compared by value, times
with a zone by the moment they stand for, and objects that cannot change by their parts. Objects
that can change are no keys, nor are packed times with a fold whose fields are out of range.

## Main definitions

* `Store.isKey`: whether an object can be a key
* `Store.same`: whether two keys are one
* `Store.insertKey`, `Store.setEntry`: sets and dicts with an entry more
-/

namespace ServiceStubs

namespace Wire

/-- A number as a decimal, without rounding. -/
def Object.real? : Object → Option Decimal
  | .bool b => some (Decimal.ofInt (if b then 1 else 0))
  | .int n => some (Decimal.ofInt n)
  | .float x => some (Decimal.ofBinary64 x)
  | .decimal d => some d
  | .complex re im =>
    if (Decimal.ofBinary64 im).value? == (Decimal.ofInt 0).value? then
      some (Decimal.ofBinary64 re)
    else Option.none
  | _ => Option.none

/-- Whether two numbers are equal. What is no number equals nothing. -/
def sameReal : Decimal → Decimal → Bool
  | .infinite a, .infinite b => a == b
  | a, b =>
    match a.value?, b.value? with
    | some v, some w => v == w
    | _, _ => false

/-- How many members a range has. -/
def rangeLength (start stop step : Int) : Nat :=
  if 0 < step then ((stop - start + step - 1) / step).toNat
  else ((start - stop - step - 1) / (-step)).toNat

/-- Whether two ranges have the same members. -/
def sameRange (a b : Int × Int × Int) : Bool :=
  let n := rangeLength a.1 a.2.1 a.2.2
  n == rangeLength b.1 b.2.1 b.2.2 &&
    (n == 0 || (a.1 == b.1 && (n == 1 || a.2.2 == b.2.2)))

namespace Store

/-- The difference of a time zone. -/
def zoneOffset? (s : Store) (r : Ref) : Option Duration :=
  match s.get? r with
  | some .utc => some ⟨0, 0, 0⟩
  | some (.timezone offset _) =>
    match s.get? offset with
    | some (.timedelta d) => some d
    | _ => Option.none
  | _ => Option.none

/-- The difference of a time, in microseconds, if it has a time zone. -/
def offset? (s : Store) (zone : Option Ref) : Option Int :=
  (zone.bind s.zoneOffset?).map Duration.inMicroseconds

/-- Whether two dates with times stand for one moment. -/
def sameMoment (s : Store) (a b : Date × Clock × Option Ref) : Bool :=
  let at_ (x : Date × Clock × Option Ref) (offset : Int) : Int :=
    x.1.ordinal * Duration.perDay + x.2.1.sinceMidnight - offset
  match s.offset? a.2.2, s.offset? b.2.2 with
  | some m, some n =>
    if m == n then a.1 == b.1 && { a.2.1 with fold := false } == { b.2.1 with fold := false }
    else at_ a m == at_ b n
  | Option.none, Option.none =>
    a.1 == b.1 && { a.2.1 with fold := false } == { b.2.1 with fold := false }
  | _, _ => false

/-- Whether two times of the day are equal. Zones count in whole seconds. -/
def sameClock (s : Store) (a b : Clock × Option Ref) : Bool :=
  let at_ (c : Clock) (offset : Int) : Int :=
    c.sinceMidnight / 1000000 - offset / 1000000
  match s.offset? a.2, s.offset? b.2 with
  | some m, some n =>
    if m == n then { a.1 with fold := false } == { b.1 with fold := false }
    else at_ a.1 m == at_ b.1 n && a.1.microsecond == b.1.microsecond
  | Option.none, Option.none => { a.1 with fold := false } == { b.1 with fold := false }
  | _, _ => false

/-- Whether an object can be a key; parts are followed `fuel` deep. -/
def isKeyWithin (s : Store) : Nat → Ref → Bool
  | 0, _ => false
  | fuel + 1, r =>
    match s.get? r with
    | some (.tuple items) => items.all (s.isKeyWithin fuel)
    | some (.uuid number) =>
      match number with
      | some n => s.isKeyWithin fuel n
      | Option.none => false
    | some (.decimal (.notANumber _ signaling _)) => !signaling
    | some (.datetime d c _) => !c.fold || (d.isValid && c.isValid)
    | some (.time c _) => !c.fold || c.isValid
    | some (.list _) | some (.dict _) | some (.set _) | some (.byteArray _) | some (.slice _ _ _)
    | some (.orderedDict _) | some (.deque _ _) | some (.view _) | Option.none => false
    | _ => true

/-- Whether an object can be a key. -/
def isKey (s : Store) (r : Ref) : Bool := s.isKeyWithin (s.size + 1) r

/-- Whether two keys are one; parts are followed `fuel` deep. -/
def sameWithin (s : Store) : Nat → Ref → Ref → Bool
  | 0, a, b => a == b
  | fuel + 1, a, b =>
    a == b ||
    match s.get? a, s.get? b with
    | some (.int m), some (.int n) => m == n
    | some (.text x _), some (.text y _) => x == y
    | some (.bytes x _), some (.bytes y _) => x == y
    | some .none, some .none => true
    | some .utc, some .utc => true
    | some (.ofClass c), some (.ofClass d) => c == d
    | some (.tuple xs), some (.tuple ys) =>
      xs.length == ys.length && (xs.zip ys).all fun p => s.sameWithin fuel p.1 p.2
    | some (.frozenSet xs), some (.frozenSet ys) =>
      xs.length == ys.length && xs.all fun x => ys.any (s.sameWithin fuel x)
    | some (.range p q r), some (.range p' q' r') => sameRange (p, q, r) (p', q', r')
    | some (.date d), some (.date e) => d == e
    | some (.datetime d c z), some (.datetime d' c' z') => s.sameMoment (d, c, z) (d', c', z')
    | some (.time c z), some (.time c' z') => s.sameClock (c, z) (c', z')
    | some (.timedelta d), some (.timedelta e) => d == e
    | some (.uuid (some m)), some (.uuid (some n)) => s.sameWithin fuel m n
    | some x, some y =>
      match s.zoneOffset? a, s.zoneOffset? b with
      | some m, some n => m == n
      | _, _ =>
        match x.real?, y.real? with
        | some m, some n => sameReal m n
        | _, _ =>
          match x, y with
          | .complex p q, .complex p' q' =>
            sameReal (.ofBinary64 p) (.ofBinary64 p') && sameReal (.ofBinary64 q) (.ofBinary64 q')
          | _, _ => false
    | _, _ => false

/-- Whether two keys are one. -/
def same (s : Store) (a b : Ref) : Bool := s.sameWithin (s.size + 1) a b

/-- The members of a set with one more, or nothing if it is no key. -/
def insertKey (s : Store) (members : List Ref) (r : Ref) : Option (List Ref) :=
  if !s.isKey r then Option.none
  else if members.any (s.same r) then some members
  else some (members ++ [r])

/-- The entries with the value of a key replaced. -/
def replaceEntry (s : Store) (key value : Ref) : List (Ref × Ref) → Option (List (Ref × Ref))
  | [] => Option.none
  | e :: es =>
    if s.same e.1 key then some ((e.1, value) :: es)
    else (s.replaceEntry key value es).map (e :: ·)

/-- The entries of a dict with one more, or nothing if its key is none. A key that is there stays
in its place and takes the new value. -/
def setEntry (s : Store) (entries : List (Ref × Ref)) (key value : Ref) :
    Option (List (Ref × Ref)) :=
  if !s.isKey key then Option.none
  else some ((s.replaceEntry key value entries).getD (entries ++ [(key, value)]))

end Store

end Wire

end ServiceStubs
