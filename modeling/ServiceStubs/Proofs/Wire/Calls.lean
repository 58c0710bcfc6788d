import Mathlib
import ServiceStubs.Proofs.Text.CodePoint
import ServiceStubs.Proofs.Wire.Numbers
import ServiceStubs.Wire.Construct

/-!
# Instances made again

Instances of safe classes are written as calls. Each call, with the arguments that are written for
an instance, makes that instance again and adds nothing else to the store.
-/

namespace ServiceStubs

namespace Wire

/-! ### Packed dates and times -/

theorem Date.bounds_of_isValid {d : Date} (h : d.isValid) :
    d.year < 10000 ∧ 1 ≤ d.month ∧ d.month ≤ 12 ∧ d.day ≤ 31 := by
  simp only [isValid, ofFields?] at h
  split at h
  case isFalse => cases h
  case isTrue hfields =>
    simp only [Bool.and_eq_true, decide_eq_true_eq] at hfields
    have hdays : daysInMonth d.year d.month ≤ 31 := by
      unfold daysInMonth
      split
      · split <;> decide
      all_goals decide
    have hday : d.day ≤ daysInMonth d.year d.month := by simpa using hfields.2
    omega

theorem Clock.bounds_of_isValid {c : Clock} (h : c.isValid) :
    c.hour < 24 ∧ c.minute < 60 ∧ c.second < 60 ∧ c.microsecond < 1000000 := by
  simp only [isValid, ofFields?] at h
  split at h
  case isFalse => cases h
  case isTrue hfields =>
    simp only [Bool.and_eq_true, decide_eq_true_eq] at hfields
    omega

theorem toNat_ofNat_byte {n : Nat} (h : n < 256) : (UInt8.ofNat n).toNat = n :=
  UInt8.toNat_ofNat_of_lt' h

/-- A byte of less than seven bits may bear a mark in its highest. -/
theorem foldBit_mod {n : Nat} (fold : Bool) (h : n < 128) :
    (UInt8.ofNat (n + foldBit fold)).toNat % 128 = n ∧
      decide (128 ≤ (UInt8.ofNat (n + foldBit fold)).toNat) = fold := by
  have hbit : foldBit fold = if fold then 128 else 0 := rfl
  have hlt : n + foldBit fold < 256 := by
    rw [hbit]
    split <;> omega
  rw [toNat_ofNat_byte hlt, hbit]
  cases fold with
  | false => exact ⟨Nat.mod_eq_of_lt h, decide_eq_false (Nat.not_le.2 h)⟩
  | true => exact ⟨by simp; omega, decide_eq_true (by simp)⟩

theorem Date.unpack?_pack {d : Date} (h : d.isValid) (fold : Bool) :
    Date.unpack? (d.pack (foldBit fold)) = some (d, fold) := by
  obtain ⟨hyear, hlow, hhigh, hday⟩ := Date.bounds_of_isValid h
  obtain ⟨hmonth, hfold⟩ := foldBit_mod (n := d.month) fold (by omega)
  have hpack : d.pack (foldBit fold) = [UInt8.ofNat (d.year / 256 % 256),
      UInt8.ofNat (d.year % 256), UInt8.ofNat (d.month + foldBit fold), UInt8.ofNat d.day] := rfl
  rw [hpack]
  simp only [Date.unpack?, hmonth, hfold, toNat_ofNat_byte (Nat.mod_lt _ (by decide : 0 < 256)),
    toNat_ofNat_byte (show d.day < 256 by omega), decide_eq_true hlow, decide_eq_true hhigh, Bool.and_self,
    if_true]
  rw [show 256 * (d.year / 256 % 256) + d.year % 256 = d.year by omega]

theorem Clock.unpack?_pack {c : Clock} (h : c.isValid) (fold : Bool) :
    Clock.unpack? fold (c.pack 0) = some { c with fold } := by
  obtain ⟨hhour, hminute, hsecond, hmicro⟩ := Clock.bounds_of_isValid h
  have hlt : c.microsecond < 256 ^ 3 := by omega
  have hbig := ofBigEndian_bigEndian hlt
  have hpack : c.pack 0 = [UInt8.ofNat c.hour, UInt8.ofNat c.minute, UInt8.ofNat c.second] ++
      bigEndian 3 c.microsecond := rfl
  rw [hpack]
  obtain ⟨u₁, u₂, u₃, hu⟩ : ∃ u₁ u₂ u₃, bigEndian 3 c.microsecond = [u₁, u₂, u₃] := ⟨_, _, _, rfl⟩
  rw [hu] at hbig ⊢
  simp only [List.cons_append, List.nil_append, Clock.unpack?, hbig, toNat_ofNat_byte
    (show c.hour < 256 by omega), toNat_ofNat_byte (show c.minute < 256 by omega),
    toNat_ofNat_byte (show c.second < 256 by omega)]

theorem Clock.unpackMarked?_pack {c : Clock} (h : c.isValid) :
    Clock.unpackMarked? (c.pack (foldBit c.fold)) = some c := by
  obtain ⟨hhour, -⟩ := Clock.bounds_of_isValid h
  obtain ⟨hmod, hfold⟩ := foldBit_mod (n := c.hour) c.fold (by omega)
  have hpack : c.pack (foldBit c.fold) = UInt8.ofNat (c.hour + foldBit c.fold) ::
      ([UInt8.ofNat c.minute, UInt8.ofNat c.second] ++ bigEndian 3 c.microsecond) := rfl
  rw [hpack]
  simp only [Clock.unpackMarked?, hmod, hfold, if_pos hhour]
  exact Clock.unpack?_pack h c.fold

theorem unpackDateTime?_pack {d : Date} {c : Clock} (hd : d.isValid) (hc : c.isValid) :
    unpackDateTime? (packDateTime d c) = some (d, c) := by
  have hlength : (d.pack (foldBit c.fold)).length = 4 := rfl
  simp only [unpackDateTime?, packDateTime, List.take_left' hlength, List.drop_left' hlength,
    Date.unpack?_pack hd, Clock.unpack?_pack hc, Option.bind_eq_bind, Option.bind_some]
  rfl

namespace Build

variable {t : Store}

theorem object_apply {r : Ref} {o : Object} (h : t.get? r = some o) :
    object r t = some (o, t) := by
  simp only [object, h, Option.map_some]

theorem integer_apply {r : Ref} {n : Int} (h : t.get? r = some (.int n)) :
    integer r t = some (n, t) := by
  simp only [integer, Bind.bind, StateT.bind, object_apply h, Option.bind_some]
  rfl

theorem double_apply {r : Ref} {x : Binary64} (h : t.get? r = some (.float x)) :
    double r t = some (x, t) := by
  simp only [double, Bind.bind, StateT.bind, object_apply h, Option.bind_some]
  rfl

theorem complex_apply {a b : Ref} {x y : Binary64} (ha : t.get? a = some (.float x))
    (hb : t.get? b = some (.float y)) : complex [a, b] [] t = some (t.add (.complex x y)) := by
  have hargs : arguments ["real", "imag"] [a, b] [] t = some ([some a, some b], t) := rfl
  simp only [complex, Bind.bind, StateT.bind, hargs, double_apply ha, double_apply hb,
    Option.bind_some]
  rfl

theorem range_apply {a b c : Ref} {start stop step : Int} (ha : t.get? a = some (.int start))
    (hb : t.get? b = some (.int stop)) (hc : t.get? c = some (.int step)) (h : step ≠ 0) :
    range [a, b, c] t = some (t.add (.range start stop step)) := by
  simp only [range, List.mapM_cons, List.mapM_nil, Bind.bind, StateT.bind, integer_apply ha,
    integer_apply hb, integer_apply hc, Option.bind_some, Pure.pure, StateT.pure]
  simp [h, add]

theorem slice_apply (a b c : Ref) : slice [a, b, c] t = some (t.add (.slice a b c)) := rfl

theorem orderedDict_apply : orderedDict [] [] t = some (t.add (.orderedDict [])) := rfl

theorem deque_apply : deque [] [] t = some (t.add (.deque [] none)) := rfl

theorem deque_apply_limit {a b : Ref} {n : Nat} (ha : t.get? a = some (.tuple []))
    (hb : t.get? b = some (.int n)) : deque [a, b] [] t = some (t.add (.deque [] (some n))) := by
  have hargs : arguments ["iterable", "maxlen"] [a, b] [] t = some ([some a, some b], t) := rfl
  have hmembers : members a t = some ([], t) := by
    simp only [members, Bind.bind, StateT.bind, object_apply ha, Option.bind_some]
    rfl
  have hn : ¬ (n : Int) < 0 := by omega
  simp only [deque, Bind.bind, StateT.bind, hargs, object_apply hb, integer_apply hb,
    Option.bind_some, if_neg hn]
  simp only [Pure.pure, StateT.pure, hmembers, Option.bind_some, Int.toNat_natCast]
  simp only [lastOf, List.drop_nil, add]

theorem date_apply {r : Ref} {d : Date} {shared : Bool} (hd : d.isValid)
    (h : t.get? r = some (.bytes (d.pack 0) shared)) : date [r] [] t = some (t.add (.date d)) := by
  have hunpack : (packed? (.bytes (d.pack 0) shared)).bind Date.unpack? = some (d, false) :=
    Date.unpack?_pack hd false
  simp only [date, Bind.bind, StateT.bind, object_apply h, Option.bind_some, Pure.pure, StateT.pure,
    hunpack]
  rfl

theorem zone_apply {z : Option Ref} (hz : ∀ r, z = some r →
    ∃ o, t.get? r = some o ∧ (o = .utc ∨ ∃ p name, o = .timezone p name)) :
    zone z t = some (z, t) := by
  cases z with
  | none => rfl
  | some r =>
    obtain ⟨o, ho, rfl | ⟨p, name, rfl⟩⟩ := hz r rfl
    · simp only [zone, Bind.bind, StateT.bind, object_apply ho, Option.bind_some]
      rfl
    · simp only [zone, Bind.bind, StateT.bind, object_apply ho, Option.bind_some]
      rfl

theorem packedFirst_apply {α : Type} {unpack? : List UInt8 → Option α} {r : Ref} {z : Option Ref}
    {bs : List UInt8} {shared : Bool} {a : α} (h : t.get? r = some (.bytes bs shared))
    (ha : unpack? bs = some a) : packedFirst unpack? (r :: z.toList) t = some (some (a, z), t) := by
  have hunpack : (packed? (.bytes bs shared)).bind unpack? = some a := ha
  cases z with
  | none =>
    simp only [packedFirst, Option.toList_none, Bind.bind, StateT.bind, object_apply h,
      Option.bind_some, hunpack]
    rfl
  | some z =>
    simp only [packedFirst, Option.toList_some, Bind.bind, StateT.bind, object_apply h,
      Option.bind_some, hunpack]
    rfl

theorem datetime_apply {r : Ref} {z : Option Ref} {d : Date} {c : Clock} {shared : Bool}
    (hd : d.isValid) (hc : c.isValid) (h : t.get? r = some (.bytes (packDateTime d c) shared))
    (hz : ∀ r, z = some r →
      ∃ o, t.get? r = some o ∧ (o = .utc ∨ ∃ p name, o = .timezone p name)) :
    datetime (r :: z.toList) [] t = some (t.add (.datetime d c z)) := by
  simp only [datetime, Bind.bind, StateT.bind,
    packedFirst_apply h (unpackDateTime?_pack hd hc), zone_apply hz, Option.bind_some]
  rfl

theorem time_apply {r : Ref} {z : Option Ref} {c : Clock} {shared : Bool} (hc : c.isValid)
    (h : t.get? r = some (.bytes (c.pack (foldBit c.fold)) shared))
    (hz : ∀ r, z = some r →
      ∃ o, t.get? r = some o ∧ (o = .utc ∨ ∃ p name, o = .timezone p name)) :
    time (r :: z.toList) [] t = some (t.add (.time c z)) := by
  simp only [time, Bind.bind, StateT.bind,
    packedFirst_apply h (Clock.unpackMarked?_pack hc), zone_apply hz, Option.bind_some]
  rfl

/-! ### Durations and time zones -/

theorem microseconds_apply {r : Ref} {n : Int} (unit : Int) (h : t.get? r = some (.int n)) :
    microseconds unit (some r) t = some ((n * unit, 1), t) := by
  simp only [microseconds, Bind.bind, StateT.bind, object_apply h, integer_apply h,
    Option.bind_some]
  rfl

/-- A duration is what its microseconds make again. -/
theorem ofMicroseconds_inMicroseconds {d : Duration} (hs : d.seconds < 86400)
    (hm : d.microseconds < 1000000) : Duration.ofMicroseconds d.inMicroseconds = d := by
  obtain ⟨days, seconds, micros⟩ := d
  simp only at hs hm
  have hrest : Duration.inMicroseconds ⟨days, seconds, micros⟩ % Duration.perDay =
      seconds * 1000000 + micros := by
    simp only [Duration.inMicroseconds, Duration.perDay, Int.ofNat_eq_natCast]
    omega
  have hdays : Duration.inMicroseconds ⟨days, seconds, micros⟩ / Duration.perDay = days := by
    simp only [Duration.inMicroseconds, Duration.perDay, Int.ofNat_eq_natCast]
    omega
  simp only [Duration.ofMicroseconds, hrest, hdays, Duration.mk.injEq, true_and]
  omega

theorem nearest_one (n : Int) : nearest n 1 = n := by
  simp [nearest]

theorem timedelta_apply {a b c : Ref} {d : Duration} (hs : d.seconds < 86400)
    (hm : d.microseconds < 1000000) (hrange : d.inRange) (ha : t.get? a = some (.int d.days))
    (hb : t.get? b = some (.int d.seconds)) (hc : t.get? c = some (.int d.microseconds)) :
    timedelta [a, b, c] [] t = some (t.add (.timedelta d)) := by
  have hargs : arguments ["days", "seconds", "microseconds", "milliseconds", "minutes", "hours",
      "weeks"] [a, b, c] [] t = some ([some a, some b, some c, none, none, none, none], t) := rfl
  have hnone (unit : Int) : microseconds unit none t = some ((0, 1), t) := rfl
  simp only [timedelta, List.map_cons, List.map_nil, Bind.bind, StateT.bind, hargs,
    Option.bind_some, List.zip_cons_cons, List.zip_nil_right, List.mapM_cons, List.mapM_nil,
    microseconds_apply _ ha, microseconds_apply _ hb, microseconds_apply _ hc, hnone, Pure.pure,
    StateT.pure]
  have hsum : d.days * 86400000000 + d.seconds * 1000000 + d.microseconds = d.inMicroseconds := by
    simp only [Duration.inMicroseconds, Duration.perDay, Int.ofNat_eq_natCast]
  have htotal : ([(d.days * 86400000000, 1), (d.seconds * 1000000, 1), (d.microseconds * 1, 1),
      (0, 1), (0, 1), (0, 1), (0, 1)] : List (Int × Nat)).foldl
        (fun (a b : Int × Nat) => (a.1 * b.2 + b.1 * a.2, a.2 * b.2)) (0, 1) =
      (d.inMicroseconds, 1) := by
    simp [← hsum]
  rw [htotal, nearest_one, ofMicroseconds_inMicroseconds hs hm, if_pos hrange]
  rfl

theorem utc_apply {a : Ref} (ha : t.get? a = some (.timedelta ⟨0, 0, 0⟩)) :
    timezone [a] [] t = some (t.add .utc) := by
  have hargs : arguments ["offset", "name"] [a] [] t = some ([some a, none], t) := rfl
  simp only [timezone, Bind.bind, StateT.bind, hargs, object_apply ha, Option.bind_some]
  rfl

theorem timezone_apply {a : Ref} {d : Duration} (ha : t.get? a = some (.timedelta d))
    (hzero : d.inMicroseconds ≠ 0) (hoffset : d.isOffset) :
    timezone [a] [] t = some (t.add (.timezone a none)) := by
  have hargs : arguments ["offset", "name"] [a] [] t = some ([some a, none], t) := rfl
  have hne : (d.inMicroseconds == 0) = false := by simpa using hzero
  simp only [timezone, Bind.bind, StateT.bind, hargs, object_apply ha, Option.bind_some, hne,
    hoffset, Bool.false_eq_true, if_false, if_true]
  rfl

theorem timezone_apply_name {a b : Ref} {d : Duration} {u : WideText} {shared : Bool}
    (ha : t.get? a = some (.timedelta d)) (hb : t.get? b = some (.text u shared))
    (hoffset : d.isOffset) : timezone [a, b] [] t = some (t.add (.timezone a (some b))) := by
  have hargs : arguments ["offset", "name"] [a, b] [] t = some ([some a, some b], t) := rfl
  simp only [timezone, Bind.bind, StateT.bind, hargs, object_apply ha, object_apply hb,
    Option.bind_some, hoffset, if_true]
  rfl

/-! ### Decimals -/

theorem decimal_apply {a : Ref} {u : String} {shared : Bool} {d : Decimal}
    (ha : t.get? a = some (.text u shared)) (hd : Decimal.ofText? u = some d) :
    decimal [a] [] t = some (t.add (.decimal d)) := by
  have hargs : arguments ["value", "context"] [a] [] t = some ([some a, none], t) := rfl
  simp only [decimal, Bind.bind, StateT.bind, hargs, object_apply ha, Option.bind_some,
    WideText.toString?_ofString, hd]
  rfl

end Build

end Wire

end ServiceStubs
