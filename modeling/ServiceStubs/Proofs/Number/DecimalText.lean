import Mathlib.Data.List.Basic
import ServiceStubs.Number.Decimal

/-!
# The written form of a decimal

A decimal whose exponent is in range is read from its written form, whichever of the forms that is:
digits alone, a point among them or in front of them, or an exponent behind them.

## Main statements

* `Decimal.ofText?_text`: a decimal is read from its written form
-/

namespace ServiceStubs

namespace Decimal

open Binary64 (digitsValue signedDigits?)

/-! ### Digits -/

theorem digitsValue_digitsOf (n : Nat) : digitsValue (digitsOf n) = n :=
  Nat.ofDigitChars_ten_toDigits

theorem isDigit_of_mem_digitsOf {n : Nat} {c : Char} (h : c ∈ digitsOf n) : c.isDigit :=
  Nat.isDigit_of_mem_toDigits (by decide) (by decide) h

theorem digitsValue_zeros (k : Nat) (cs : List Char) :
    digitsValue (List.replicate k '0' ++ cs) = digitsValue cs := by
  induction k with
  | zero => rfl
  | succ k ih =>
    rw [← ih]
    rfl

theorem digit_bounds {c : Char} (h : c.isDigit) : 48 ≤ c.toNat ∧ c.toNat ≤ 57 := by
  simpa [Char.isDigit, UInt32.le_iff_toNat_le] using h

/-! ### Characters of written forms -/

/-- A character that is neither left out nor cut off when a decimal is read. -/
def isKept (c : Char) : Bool := !Text.isBlank c && c != '_'

theorem isKept_of_isDigit {c : Char} (h : c.isDigit) : isKept c := by
  obtain ⟨hlow, hhigh⟩ := digit_bounds h
  have hunderscore : c ≠ '_' := by
    rintro rfl
    exact absurd hhigh (by decide)
  simp only [isKept, Text.isBlank, Bool.and_eq_true, Bool.not_eq_true', Bool.or_eq_false_iff,
    Bool.and_eq_false_iff, decide_eq_false_iff_not, beq_eq_false_iff_ne, bne_iff_ne]
  refine ⟨?_, hunderscore⟩
  omega

theorem toLower_of_isDigit {c : Char} (h : c.isDigit) : c.toLower = c := by
  obtain ⟨hlow, hhigh⟩ := digit_bounds h
  unfold Char.toLower
  split
  · rename_i hupper
    have : 65 ≤ c.toNat := by simpa [UInt32.le_iff_toNat_le] using hupper.1
    omega
  · rfl

/-- Characters that are all kept are what is left of them. -/
theorem trim_of_isKept {cs : List Char} (h : ∀ c ∈ cs, isKept c) :
    ((Text.trimStart (Text.trimStart cs).reverse).reverse).filter (· != '_') = cs := by
  have htrim {cs : List Char} (h : ∀ c ∈ cs, isKept c) : Text.trimStart cs = cs := by
    cases cs with
    | nil => rfl
    | cons c cs =>
      have hc := h c List.mem_cons_self
      simp only [isKept, Bool.and_eq_true, Bool.not_eq_true'] at hc
      simp [Text.trimStart, hc.1]
  rw [htrim h, htrim fun c hc => h c (List.mem_reverse.1 hc), List.reverse_reverse,
    List.filter_eq_self]
  intro c hc
  have := h c hc
  simp only [isKept, Bool.and_eq_true] at this
  exact this.2

/-! ### Numbers -/

theorem span_digits {ds rest : List Char} (hds : ∀ c ∈ ds, c.isDigit)
    (hrest : ∀ c, rest.head? = some c → c.isDigit = false) :
    (ds ++ rest).takeWhile Char.isDigit = ds ∧ (ds ++ rest).dropWhile Char.isDigit = rest := by
  have hnil : rest.takeWhile Char.isDigit = [] ∧ rest.dropWhile Char.isDigit = rest := by
    cases rest with
    | nil => exact ⟨rfl, rfl⟩
    | cons c rest =>
      have hc := hrest c rfl
      simp [hc]
  rw [List.takeWhile_append_of_pos hds, List.dropWhile_append_of_pos hds, hnil.1, hnil.2]
  simp

/-- A sign and characters that are kept, the first of which is a digit, are read as a number. -/
theorem ofText?_number {negative : Bool} {s : String} {d : Char} {body : List Char}
    (hs : s.toList = (signText negative).toList ++ d :: body) (hd : d.isDigit)
    (hbody : ∀ c ∈ body, isKept c) : ofText? s = finite? negative (d :: body) := by
  have hkept : ∀ c ∈ s.toList, isKept c := by
    intro c hc
    rw [hs, List.mem_append, List.mem_cons] at hc
    rcases hc with hc | rfl | hc
    · cases negative with
      | false => cases hc
      | true =>
        obtain rfl : c = '-' := by simpa [signText] using hc
        rfl
    · exact isKept_of_isDigit hd
    · exact hbody c hc
  have hne {c : Char} (hc : c.isDigit = false) : d ≠ c := by
    rintro rfl
    rw [hd] at hc
    cases hc
  have hminus : d ≠ '-' := hne rfl
  have hplus : d ≠ '+' := hne rfl
  have hi : d ≠ 'i' := hne rfl
  have hn : d ≠ 'n' := hne rfl
  have hs' : d ≠ 's' := hne rfl
  simp only [ofText?]
  rw [trim_of_isKept hkept, hs]
  cases negative with
  | false => simp [signText, toLower_of_isDigit hd, hminus, hplus, hi, hn, hs']
  | true => simp [signText, toLower_of_isDigit hd, hi, hn, hs']

theorem pointed?_whole {ds rest : List Char} (hds : ∀ c ∈ ds, c.isDigit) (hne : ds ≠ [])
    (hrest : ∀ c, rest.head? = some c → c.isDigit = false ∧ c ≠ '.') :
    pointed? (ds ++ rest) = some (digitsValue ds, 0, rest) := by
  obtain ⟨htake, hdrop⟩ := span_digits hds fun c hc => (hrest c hc).1
  simp only [pointed?, htake, hdrop]
  cases rest with
  | nil => simp [hne]
  | cons c rest =>
    have hpoint := (hrest c rfl).2
    simp [hne, hpoint]

theorem pointed?_fraction {ds es rest : List Char} (hds : ∀ c ∈ ds, c.isDigit) (hne : ds ≠ [])
    (hes : ∀ c ∈ es, c.isDigit) (hrest : ∀ c, rest.head? = some c → c.isDigit = false) :
    pointed? (ds ++ '.' :: (es ++ rest)) = some (digitsValue (ds ++ es), es.length, rest) := by
  have hpoint : ∀ c, ('.' :: (es ++ rest)).head? = some c → c.isDigit = false := by simp
  obtain ⟨htake, hdrop⟩ := span_digits hds hpoint
  obtain ⟨htake', hdrop'⟩ := span_digits hes hrest
  simp [pointed?, htake, hdrop, htake', hdrop', hne]

theorem signedDigits?_exponentText (e : Int) :
    ∃ r, (exponentText e).toList = 'E' :: r ∧ signedDigits? r = some e := by
  have hvalue : digitsValue (Nat.toDigits 10 e.natAbs) = e.natAbs := digitsValue_digitsOf _
  have hdigits : (Nat.toDigits 10 e.natAbs).all Char.isDigit :=
    List.all_eq_true.2 fun c hc => isDigit_of_mem_digitsOf hc
  have hne : (Nat.toDigits 10 e.natAbs).isEmpty = false := by
    simp [Nat.toDigits_ne_nil]
  by_cases he : e < 0
  · refine ⟨'-' :: Nat.toDigits 10 e.natAbs, ?_, ?_⟩
    · simp [exponentText, he]
    · have habs : -Int.ofNat e.natAbs = e := by
        rw [Int.ofNat_eq_natCast]
        omega
      simp only [signedDigits?, hne, hdigits, hvalue, Bool.not_true, Bool.or_false,
        Bool.false_eq_true, if_false, if_true, habs]
  · refine ⟨'+' :: Nat.toDigits 10 e.natAbs, ?_, ?_⟩
    · simp [exponentText, he]
    · have habs : Int.ofNat e.natAbs = e := by
        rw [Int.ofNat_eq_natCast]
        omega
      simp only [signedDigits?, hne, hdigits, hvalue, Bool.not_true, Bool.or_false,
        Bool.false_eq_true, if_false, habs]

theorem isKept_exponentText (e : Int) : ∀ c ∈ (exponentText e).toList, isKept c := by
  intro c hc
  simp only [exponentText, String.toList_append, List.mem_append] at hc
  rcases hc with hc | hc
  · split at hc
    · obtain rfl | rfl : c = 'E' ∨ c = '-' := by simpa using hc
      all_goals rfl
    · obtain rfl | rfl : c = 'E' ∨ c = '+' := by simpa using hc
      all_goals rfl
  · refine isKept_of_isDigit (isDigit_of_mem_digitsOf (n := e.natAbs) ?_)
    simpa [digitsOf] using hc

theorem finite?_of_pointed (negative : Bool) {cs : List Char} {coefficient places : Nat}
    (h : pointed? cs = some (coefficient, places, [])) :
    finite? negative cs = ofParts? negative coefficient (-Int.ofNat places) := by
  simp only [finite?, h]

theorem finite?_of_exponent {negative : Bool} {cs r : List Char} {coefficient places : Nat}
    {e : Int} (h : pointed? cs = some (coefficient, places, 'E' :: r))
    (hr : signedDigits? r = some e) :
    finite? negative cs = ofParts? negative coefficient (e - Int.ofNat places) := by
  simp only [finite?, h, hr]
  rfl

/-- Digits and what is kept start with a digit. -/
theorem exists_cons_of_digits {ds rest : List Char} (hds : ∀ c ∈ ds, c.isDigit) (hne : ds ≠ [])
    (hrest : ∀ c ∈ rest, isKept c) :
    ∃ d body, ds ++ rest = d :: body ∧ d.isDigit ∧ ∀ c ∈ body, isKept c := by
  cases ds with
  | nil => exact absurd rfl hne
  | cons d ds =>
    refine ⟨d, ds ++ rest, rfl, hds d List.mem_cons_self, fun c hc => ?_⟩
    rcases List.mem_append.1 hc with hc | hc
    · exact isKept_of_isDigit (hds c (List.mem_cons_of_mem _ hc))
    · exact hrest c hc

/-! ### Magnitudes -/

section Magnitude

variable {coefficient n : Nat} {exponent : Int} (hn : (digitsOf coefficient).length = n)

include hn

theorem magnitudeText_whole (hpos : 0 < n) :
    (magnitudeText coefficient 0).toList = digitsOf coefficient := by
  have hpoint : (-6 : Int) < n := by omega
  simp [magnitudeText, hn, hpoint]

theorem magnitudeText_behind (hneg : exponent < 0) (hlow : -6 < exponent + n)
    (hpoint : exponent + n ≤ 0) :
    (magnitudeText coefficient exponent).toList =
      '0' :: '.' :: (List.replicate (-(exponent + n)).toNat '0' ++ digitsOf coefficient) := by
  simp [magnitudeText, hn, Int.le_of_lt hneg, Int.ne_of_lt hneg, hlow, hpoint]

theorem magnitudeText_among (hneg : exponent < 0) (hpoint : 0 < exponent + n) :
    (magnitudeText coefficient exponent).toList =
      (digitsOf coefficient).take (exponent + n).toNat ++
        '.' :: (digitsOf coefficient).drop (exponent + n).toNat := by
  have hlow : -6 < exponent + n := by omega
  simp [magnitudeText, hn, Int.le_of_lt hneg, Int.ne_of_lt hneg, hlow, Int.not_le.2 hpoint]

theorem magnitudeText_exponent (h : ¬ (exponent ≤ 0 ∧ -6 < exponent + n)) :
    (magnitudeText coefficient exponent).toList =
      (digitsOf coefficient).take 1 ++
        ((if (digitsOf coefficient).drop 1 = [] then [] else '.' :: (digitsOf coefficient).drop 1) ++
          (exponentText (exponent + n - 1)).toList) := by
  have hcond : (decide (exponent ≤ 0) && decide (-6 < exponent + (n : Int))) = false := by
    simpa using h
  simp only [magnitudeText, hn, Int.ofNat_eq_natCast, hcond]
  by_cases hsingle : (digitsOf coefficient).tail = [] <;> simp [hsingle]

end Magnitude

/-- The written form of a magnitude starts with a digit, and is read as the magnitude. -/
theorem finite?_magnitudeText (negative : Bool) (coefficient : Nat) (exponent : Int) :
    ∃ d body, (magnitudeText coefficient exponent).toList = d :: body ∧ d.isDigit ∧
      (∀ c ∈ body, isKept c) ∧
      finite? negative (d :: body) = ofParts? negative coefficient exponent := by
  have hdigit : ∀ c ∈ digitsOf coefficient, c.isDigit := fun c => isDigit_of_mem_digitsOf
  have hvalue := digitsValue_digitsOf coefficient
  have hpos : 0 < (digitsOf coefficient).length := Nat.length_toDigits_pos
  have hne : digitsOf coefficient ≠ [] := List.length_pos_iff.1 hpos
  have hkept {cs : List Char} (h : ∀ c ∈ cs, c.isDigit) : ∀ c ∈ cs, isKept c :=
    fun c hc => isKept_of_isDigit (h c hc)
  have hpoint {cs : List Char} (h : ∀ c ∈ cs, c.isDigit) : ∀ c ∈ '.' :: cs, isKept c :=
    List.forall_mem_cons.2 ⟨rfl, hkept h⟩
  -- It is enough to know the characters and how they are read.
  have hform (ds rest : List Char) (htext : (magnitudeText coefficient exponent).toList = ds ++ rest)
      (hds : ∀ c ∈ ds, c.isDigit) (hne : ds ≠ []) (hrest : ∀ c ∈ rest, isKept c)
      (hread : finite? negative (ds ++ rest) = ofParts? negative coefficient exponent) :
      ∃ d body, (magnitudeText coefficient exponent).toList = d :: body ∧ d.isDigit ∧
        (∀ c ∈ body, isKept c) ∧
        finite? negative (d :: body) = ofParts? negative coefficient exponent := by
    obtain ⟨d, body, heq, hd, hbody⟩ := exists_cons_of_digits hds hne hrest
    exact ⟨d, body, htext.trans heq, hd, hbody, heq ▸ hread⟩
  have htake : ∀ n, ∀ c ∈ (digitsOf coefficient).take n, c.isDigit :=
    fun n c hc => hdigit c (List.mem_of_mem_take hc)
  have hdrop : ∀ n, ∀ c ∈ (digitsOf coefficient).drop n, c.isDigit :=
    fun n c hc => hdigit c (List.mem_of_mem_drop hc)
  generalize hn : (digitsOf coefficient).length = n at hpos
  by_cases hpositional : exponent ≤ 0 ∧ -6 < exponent + n
  · obtain ⟨hle, hlow⟩ := hpositional
    rcases Int.lt_or_eq_of_le hle with hneg | rfl
    · rcases Int.lt_or_le 0 (exponent + n) with hamong | hbehind
      · have hread := finite?_of_pointed negative
          (pointed?_fraction (htake (exponent + n).toNat)
            (by simpa [hne] using hamong) (hdrop (exponent + n).toNat) (by simp))
        refine hform _ _ (magnitudeText_among hn hneg hamong) (htake _) (by simpa [hne] using hamong)
          (hpoint (hdrop _)) ?_
        rw [List.append_nil] at hread
        rw [hread, List.take_append_drop, hvalue, List.length_drop, hn]
        congr 1
        simp only [Int.ofNat_eq_natCast]
        omega
      · have hzeros : ∀ c ∈ List.replicate (-(exponent + n)).toNat '0' ++ digitsOf coefficient,
            c.isDigit := by
          intro c hc
          rcases List.mem_append.1 hc with hc | hc
          · rw [List.eq_of_mem_replicate hc]
            rfl
          · exact hdigit c hc
        have hread := finite?_of_pointed negative
          (pointed?_fraction (by simp : ∀ c ∈ ['0'], c.isDigit) (by simp) hzeros (by simp))
        refine hform ['0'] _ (magnitudeText_behind hn hneg hlow hbehind) (by simp) (by simp)
          (hpoint hzeros) ?_
        rw [List.append_nil] at hread
        have hzero : digitsValue (['0'] ++ (List.replicate (-(exponent + n)).toNat '0' ++
            digitsOf coefficient)) = coefficient := by
          have hzeros := digitsValue_zeros ((-(exponent + n)).toNat + 1) (digitsOf coefficient)
          rw [hvalue, List.replicate_succ] at hzeros
          exact hzeros
        rw [hread, hzero, List.length_append, List.length_replicate, hn]
        congr 1
        simp only [Int.ofNat_eq_natCast]
        omega
    · have hread := finite?_of_pointed negative (pointed?_whole hdigit hne (by simp))
      refine hform _ [] ?_ hdigit hne (by simp) ?_
      · rw [magnitudeText_whole hn hpos, List.append_nil]
      · rw [hread, hvalue]
        rfl
  · obtain ⟨r, hr, hexponent⟩ := signedDigits?_exponentText (exponent + n - 1)
    have htext := magnitudeText_exponent hn hpositional
    have hkeptExponent := isKept_exponentText (exponent + n - 1)
    rw [hr] at htext hkeptExponent
    have hone : (digitsOf coefficient).take 1 ≠ [] := by simpa using hne
    have hE : ∀ c, ('E' :: r).head? = some c → c.isDigit = false ∧ c ≠ '.' := by
      intro c hc
      cases hc
      exact ⟨rfl, by decide⟩
    by_cases hsingle : (digitsOf coefficient).drop 1 = []
    · rw [if_pos hsingle, List.nil_append] at htext
      refine hform _ _ htext (htake 1) hone hkeptExponent ?_
      rw [finite?_of_exponent (pointed?_whole (htake 1) hone hE) hexponent]
      have hwhole : (digitsOf coefficient).take 1 = digitsOf coefficient := by
        rw [← List.append_nil (List.take 1 _), ← hsingle, List.take_append_drop]
      have hlength : n = 1 := by
        rw [← hn, ← hwhole, List.length_take]
        omega
      rw [hwhole, hvalue, hlength]
      congr 1
      simp only [Int.ofNat_eq_natCast]
      omega
    · rw [if_neg hsingle, List.cons_append] at htext
      have hfraction : ∀ c ∈ '.' :: ((digitsOf coefficient).drop 1 ++ 'E' :: r), isKept c := by
        intro c hc
        rw [← List.cons_append] at hc
        exact (List.mem_append.1 hc).elim (hpoint (hdrop 1) c) (hkeptExponent c)
      refine hform _ _ htext (htake 1) hone hfraction ?_
      rw [finite?_of_exponent (pointed?_fraction (htake 1) hone (hdrop 1) fun c hc => (hE c hc).1)
        hexponent, List.take_append_drop, hvalue, List.length_drop, hn]
      congr 1
      simp only [Int.ofNat_eq_natCast]
      omega

/-! ### All decimals -/

/-- The digits behind the word for a value that is no number. -/
theorem payload?_digits (payload : Nat) :
    ∃ ds, (if payload == 0 then "" else toString payload).toList = ds ∧
      (∀ c ∈ ds, c.isDigit) ∧ payload? ds = some payload := by
  refine ⟨_, rfl, ?_, ?_⟩
  · intro c hc
    split at hc
    · cases hc
    · exact isDigit_of_mem_digitsOf (n := payload) (by simpa [digitsOf] using hc)
  · split
    · simp_all [payload?, digitsValue]
    · have hdigits : (digitsOf payload).all Char.isDigit :=
        List.all_eq_true.2 fun c hc => isDigit_of_mem_digitsOf hc
      have htext : (toString payload).toList = digitsOf payload := by simp [digitsOf]
      rw [htext, payload?, if_pos hdigits, digitsValue_digitsOf]

theorem ofText?_notANumber (negative signaling : Bool) (payload : Nat) :
    ofText? (notANumber negative signaling payload).text =
      some (notANumber negative signaling payload) := by
  obtain ⟨ds, hds, hdigits, hpayload⟩ := payload?_digits payload
  have hs : (notANumber negative signaling payload).text.toList =
      (signText negative).toList ++ ((if signaling then "sNaN" else "NaN").toList ++ ds) := by
    simp only [text, String.toList_append, hds, List.append_assoc]
  have hlower : ds.map Char.toLower = ds :=
    (List.map_congr_left fun c hc => toLower_of_isDigit (hdigits c hc)).trans (List.map_id ds)
  have hkept : ∀ c ∈ (notANumber negative signaling payload).text.toList, isKept c := by
    intro c hc
    rw [hs, List.mem_append, List.mem_append] at hc
    rcases hc with hc | hc | hc
    · cases negative with
      | false => cases hc
      | true =>
        obtain rfl : c = '-' := by simpa [signText] using hc
        rfl
    · have hword : (if signaling then "sNaN" else "NaN").toList.all isKept := by
        cases signaling <;> rfl
      exact List.all_eq_true.1 hword c hc
    · exact isKept_of_isDigit (hdigits c hc)
  have hN : 'N'.toLower = 'n' := rfl
  have ha : 'a'.toLower = 'a' := rfl
  have hslow : 's'.toLower = 's' := rfl
  simp only [ofText?]
  rw [trim_of_isKept hkept, hs]
  cases negative <;> cases signaling <;>
    simp [signText, hlower, hpayload, hN, ha, hslow]

/-- A decimal that there is: the exponent of a finite one is in range. -/
def InRange : Decimal → Prop
  | finite negative coefficient exponent =>
    ofParts? negative coefficient exponent = some (finite negative coefficient exponent)
  | _ => True

/-- **A decimal is read from its written form.** -/
theorem ofText?_text {d : Decimal} (h : d.InRange) : ofText? d.text = some d := by
  cases d with
  | finite negative coefficient exponent =>
    obtain ⟨c, body, htext, hc, hbody, hread⟩ :=
      finite?_magnitudeText negative coefficient exponent
    have hs : (text (finite negative coefficient exponent)).toList =
        (signText negative).toList ++ c :: body := by
      rw [text, String.toList_append, htext]
    rw [ofText?_number hs hc hbody, hread]
    exact h
  | infinite negative => cases negative <;> rfl
  | notANumber negative signaling payload => exact ofText?_notANumber negative signaling payload

end Decimal

end ServiceStubs
