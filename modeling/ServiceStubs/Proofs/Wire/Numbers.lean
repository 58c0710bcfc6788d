import Mathlib.Data.List.Basic
import ServiceStubs.Wire.Bytes

/-!
# Numbers as bytes, read back

The bytes of a number that fits into their width stand for that number, and the least width of an
integer is one that it fits into.

## Main statements

* `ofLittleEndian_littleEndian`, `ofBigEndian_bigEndian`: natural numbers
* `ofSigned_signedBytes`, `signedWidth_fits`: integers
-/

namespace ServiceStubs

namespace Wire

/-! ### Natural numbers -/

@[simp] theorem length_littleEndian (width n : Nat) : (littleEndian width n).length = width := by
  induction width generalizing n with
  | zero => rfl
  | succ width ih => simp [littleEndian, ih]

theorem ofLittleEndian_littleEndian {width n : Nat} (h : n < 256 ^ width) :
    ofLittleEndian (littleEndian width n) = n := by
  induction width generalizing n with
  | zero =>
    have : n = 0 := by simpa using h
    simp [littleEndian, ofLittleEndian, this]
  | succ width ih =>
    have hdiv : n / 256 < 256 ^ width := by
      rw [Nat.pow_succ] at h
      exact Nat.div_lt_of_lt_mul (by rwa [Nat.mul_comm] at h)
    have hbyte : (UInt8.ofNat (n % 256)).toNat = n % 256 :=
      UInt8.toNat_ofNat_of_lt' (Nat.mod_lt _ (by decide))
    rw [littleEndian, ofLittleEndian, ih hdiv, hbyte]
    omega

@[simp] theorem length_bigEndian (width n : Nat) : (bigEndian width n).length = width := by
  simp [bigEndian]

theorem ofBigEndian_bigEndian {width n : Nat} (h : n < 256 ^ width) :
    ofBigEndian (bigEndian width n) = n := by
  rw [ofBigEndian, bigEndian, List.reverse_reverse, ofLittleEndian_littleEndian h]

/-! ### Integers -/

@[simp] theorem length_signedBytes (width : Nat) (n : Int) :
    (signedBytes width n).length = width := by
  simp [signedBytes]

/-- An integer that the two's complement of a width can hold. -/
def FitsSigned (width : Nat) (n : Int) : Prop :=
  -((256 ^ width : Nat) : Int) ≤ 2 * n ∧ 2 * n < ((256 ^ width : Nat) : Int)

/-- The two's complement of an integer, as a natural number. -/
theorem emod_of_fits {n : Int} {m : Nat} (h : -(m : Int) ≤ 2 * n ∧ 2 * n < m) :
    n % m = if 0 ≤ n then n else n + m := by
  split
  · exact Int.emod_eq_of_lt ‹_› (by omega)
  · rw [← Int.add_emod_right]
    exact Int.emod_eq_of_lt (by omega) (by omega)

theorem ofSigned_signedBytes {width : Nat} {n : Int} (h : FitsSigned width n) :
    ofSigned (signedBytes width n) = n := by
  have hmod := emod_of_fits h
  have hpow : (256 : Int) ^ width = ((256 ^ width : Nat) : Int) := by simp
  have hlt : (n % 256 ^ width).toNat < 256 ^ width := by
    rw [hpow, hmod]
    obtain ⟨hlow, hhigh⟩ := h
    split <;> omega
  simp only [ofSigned, signedBytes, length_littleEndian, ofLittleEndian_littleEndian hlt]
  rw [hpow, hmod]
  obtain ⟨hlow, hhigh⟩ := h
  split <;> split <;> omega

theorem lt_pow_bitLength (n : Nat) : n < 2 ^ bitLength n := by
  unfold bitLength
  split
  · simp_all
  · exact Nat.lt_log2_self

/-- The bytes that the least width counts have more bits than an integer of that many bits. -/
theorem two_mul_lt_of_bitLength (n : Nat) : 2 * n < 256 ^ (bitLength n / 8 + 1) := by
  have hbits : bitLength n + 1 ≤ 8 * (bitLength n / 8 + 1) := by omega
  calc 2 * n < 2 ^ (bitLength n + 1) := by
        have := lt_pow_bitLength n
        rw [Nat.pow_succ]
        omega
    _ ≤ 2 ^ (8 * (bitLength n / 8 + 1)) := Nat.pow_le_pow_right (by decide) hbits
    _ = 256 ^ (bitLength n / 8 + 1) := by rw [Nat.pow_mul]

theorem signedWidth_fits (n : Int) : FitsSigned (signedWidth n) n := by
  cases n with
  | ofNat n =>
    have := two_mul_lt_of_bitLength n
    simp only [FitsSigned, signedWidth, Int.ofNat_eq_natCast]
    omega
  | negSucc n =>
    have h := two_mul_lt_of_bitLength n
    have heven : 256 ^ (bitLength n / 8 + 1) = 2 * (128 * 256 ^ (bitLength n / 8)) := by
      rw [Nat.pow_succ]
      omega
    simp only [FitsSigned, signedWidth, Int.negSucc_eq]
    omega

end Wire

end ServiceStubs
