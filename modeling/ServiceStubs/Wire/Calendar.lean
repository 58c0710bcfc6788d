import ServiceStubs.Wire.Bytes

/-!
# Dates, times and durations

Dates and times are kept as their fields, durations as days, seconds and microseconds of which only
the days may be negative. In messages dates and times are packed: two bytes for the year, three for
the microseconds and one for each other field. A time that is the second of its name in a day marks
the highest bit of its first byte; a date with a time marks that of the month.

## Main definitions

* `Date`, `Clock`, `Duration` and their packed forms
* `Duration.offsetText`: the name of a time zone that has no other
-/

namespace ServiceStubs

namespace Wire

/-- A day of the calendar. -/
structure Date where
  year : Nat
  month : Nat
  day : Nat
  deriving DecidableEq, Repr, Inhabited

/-- A time of the day; `fold` tells the second of two times that bear one name. -/
structure Clock where
  hour : Nat
  minute : Nat
  second : Nat
  microsecond : Nat
  fold : Bool
  deriving DecidableEq, Repr, Inhabited

/-- A span of time. -/
structure Duration where
  days : Int
  seconds : Nat
  microseconds : Nat
  deriving DecidableEq, Repr, Inhabited

/-! ## Packed forms -/

/-- The bit that marks a fold. -/
def foldBit (fold : Bool) : Nat := if fold then 128 else 0

namespace Date

/-- The packed form, in which the month may bear a mark. -/
def pack (d : Date) (mark : Nat) : List UInt8 :=
  bigEndian 2 d.year ++ [UInt8.ofNat (d.month + mark), UInt8.ofNat d.day]

/-- The date of a packed form, and whether the month bears the mark. -/
def unpack? (bs : List UInt8) : Option (Date × Bool) :=
  match bs with
  | [y₁, y₂, m, d] =>
    let month := m.toNat % 128
    if 1 ≤ month && month ≤ 12 then
      some (⟨256 * y₁.toNat + y₂.toNat, month, d.toNat⟩, 128 ≤ m.toNat)
    else none
  | _ => none

/-- Whether a year has 366 days. -/
def isLeap (year : Nat) : Bool := year % 4 == 0 && (year % 100 != 0 || year % 400 == 0)

/-- How many days a month has. -/
def daysInMonth (year month : Nat) : Nat :=
  match month with
  | 2 => if isLeap year then 29 else 28
  | 4 | 6 | 9 | 11 => 30
  | _ => 31

/-- The date with the given fields, if there is one. -/
def ofFields? (year month day : Int) : Option Date :=
  if 1 ≤ year && year ≤ 9999 && 1 ≤ month && month ≤ 12 && 1 ≤ day &&
      day ≤ daysInMonth year.toNat month.toNat then
    some ⟨year.toNat, month.toNat, day.toNat⟩
  else none

/-- Whether there is a day with the fields of a date. -/
def isValid (d : Date) : Bool := (ofFields? d.year d.month d.day).isSome

/-- How many days lie before a date, counted from the start of the calendar. -/
def ordinal (d : Date) : Int :=
  let y : Int := Int.ofNat d.year - 1
  let before := (List.range (d.month - 1)).foldl (fun n m => n + daysInMonth d.year (m + 1)) 0
  y * 365 + y / 4 - y / 100 + y / 400 + Int.ofNat before + Int.ofNat d.day

end Date

namespace Clock

/-- The packed form, in which the hour may bear a mark. -/
def pack (c : Clock) (mark : Nat) : List UInt8 :=
  [UInt8.ofNat (c.hour + mark), UInt8.ofNat c.minute, UInt8.ofNat c.second] ++
    bigEndian 3 c.microsecond

/-- The time of a packed form whose hour bears no mark. -/
def unpack? (fold : Bool) (bs : List UInt8) : Option Clock :=
  match bs with
  | [h, m, s, u₁, u₂, u₃] =>
    some ⟨h.toNat, m.toNat, s.toNat, ofBigEndian [u₁, u₂, u₃], fold⟩
  | _ => none

/-- The time of a packed form whose hour may bear the mark. -/
def unpackMarked? (bs : List UInt8) : Option Clock :=
  match bs with
  | [] => none
  | h :: r =>
    if h.toNat % 128 < 24 then unpack? (128 ≤ h.toNat) (UInt8.ofNat (h.toNat % 128) :: r) else none

/-- The time with the given fields, if there is one. -/
def ofFields? (hour minute second microsecond : Int) (fold : Bool) : Option Clock :=
  if 0 ≤ hour && hour < 24 && 0 ≤ minute && minute < 60 && 0 ≤ second && second < 60 &&
      0 ≤ microsecond && microsecond < 1000000 then
    some ⟨hour.toNat, minute.toNat, second.toNat, microsecond.toNat, fold⟩
  else none

/-- Whether there is a time with the fields of a time. -/
def isValid (c : Clock) : Bool :=
  (ofFields? c.hour c.minute c.second c.microsecond c.fold).isSome

/-- The microseconds since midnight. -/
def sinceMidnight (c : Clock) : Int :=
  ((Int.ofNat c.hour * 60 + c.minute) * 60 + c.second) * 1000000 + c.microsecond

end Clock

/-- The packed form of a date with a time. -/
def packDateTime (d : Date) (c : Clock) : List UInt8 := d.pack (foldBit c.fold) ++ c.pack 0

/-- The date and the time of a packed form. -/
def unpackDateTime? (bs : List UInt8) : Option (Date × Clock) := do
  let (d, fold) ← Date.unpack? (bs.take 4)
  let c ← Clock.unpack? fold (bs.drop 4)
  return (d, c)

namespace Duration

/-- How many microseconds a day has. -/
def perDay : Int := 86400000000

/-- The duration of a number of microseconds. -/
def ofMicroseconds (n : Int) : Duration :=
  let rest := n % perDay
  ⟨n / perDay, (rest / 1000000).toNat, (rest % 1000000).toNat⟩

/-- The microseconds of a duration. -/
def inMicroseconds (d : Duration) : Int :=
  d.days * perDay + Int.ofNat d.seconds * 1000000 + d.microseconds

/-- Whether a duration is short enough to exist. -/
def inRange (d : Duration) : Bool := -999999999 ≤ d.days && d.days ≤ 999999999

/-- Whether a time zone may differ by this duration: by less than a day. -/
def isOffset (d : Duration) : Bool :=
  -perDay < d.inMicroseconds && d.inMicroseconds < perDay

/-- A number of two digits. -/
def twoDigits (n : Nat) : String := if n < 10 then "0" ++ toString n else toString n

/-- The name of a time zone by its difference. -/
def offsetText (d : Duration) : String :=
  let n := d.inMicroseconds
  if n == 0 then "UTC"
  else
    let m := n.natAbs
    let micros := m % 1000000
    let seconds := m / 1000000
    let fraction :=
      if micros == 0 then ""
      else
        let digits := Nat.toDigits 10 micros
        "." ++ String.ofList (List.replicate (6 - digits.length) '0' ++ digits)
    let tail :=
      if seconds % 60 == 0 && micros == 0 then "" else ":" ++ twoDigits (seconds % 60) ++ fraction
    "UTC" ++ (if n < 0 then "-" else "+") ++ twoDigits (seconds / 3600) ++ ":" ++
      twoDigits (seconds / 60 % 60) ++ tail

end Duration

end Wire

end ServiceStubs
