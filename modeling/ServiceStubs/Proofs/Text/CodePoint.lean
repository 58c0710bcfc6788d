import Mathlib.Data.List.Basic
import Mathlib.Tactic.SplitIfs
import ServiceStubs.Text.CodePoint

/-!
# The forms of code points

The form of a code point is read as what it was made of, whatever follows it: its first byte tells
how many bytes belong to it, and the six bits of each of these put the number together again.

## Main statements

* `CodePoint.first?_utf8Form`: one form, read
* `WideText.ofUtf8?_utf8Bytes`: the bytes of a text, read
* `WideText.toString?_ofString`: a text without surrogates, as characters
-/

namespace ServiceStubs
namespace CodePoint

theorem first?_of_lead {p : CodePoint} {b : UInt8} {tail : List UInt8} (weight : Nat)
    (hform : p.utf8Form = b :: tail) (hlead : leadOf? b.toNat = some (tail.length, weight))
    (hvalue : tail.foldl (fun n c => n * 64 + c.toNat % 64) (b.toNat % weight) = p.val)
    (rest : List UInt8) : first? (p.utf8Form ++ rest) = some (p, rest) := by
  have htake : (tail ++ rest).take tail.length = tail := List.take_left ..
  simp only [hform, List.cons_append, first?, hlead, htake, hvalue, List.drop_left]
  rw [dif_pos p.isLt, if_pos (beq_self_eq_true _)]

theorem first?_utf8Form (p : CodePoint) (rest : List UInt8) :
    first? (p.utf8Form ++ rest) = some (p, rest) := by
  have hlt := p.isLt
  have hbyte (k : Nat) (hk : k < 256) : (UInt8.ofNat k).toNat = k := by simpa using hk
  by_cases h₁ : p.val < 0x80
  · have hform : p.utf8Form = [UInt8.ofNat p.val] := by simp [utf8Form, h₁]
    refine first?_of_lead 0x80 hform ?_ ?_ rest
    · rw [hbyte p.val (by omega), leadOf?, if_pos h₁]
      rfl
    · simp only [List.foldl_nil, hbyte p.val (by omega)]
      omega
  by_cases h₂ : p.val < 0x800
  · have hform : p.utf8Form =
        [UInt8.ofNat (0xc0 + p.val / 64), UInt8.ofNat (0x80 + p.val % 64)] := by
      simp [utf8Form, h₁, h₂]
    refine first?_of_lead 0x20 hform ?_ ?_ rest
    · rw [hbyte (0xc0 + p.val / 64) (by omega), leadOf?, if_neg (by omega), if_neg (by omega),
        if_pos (by omega)]
      rfl
    · simp only [List.foldl_cons, List.foldl_nil, hbyte (0xc0 + p.val / 64) (by omega),
        hbyte (0x80 + p.val % 64) (by omega)]
      omega
  by_cases h₃ : p.val < 0x10000
  · have hform : p.utf8Form = [UInt8.ofNat (0xe0 + p.val / 4096),
        UInt8.ofNat (0x80 + p.val / 64 % 64), UInt8.ofNat (0x80 + p.val % 64)] := by
      simp [utf8Form, h₁, h₂, h₃]
    refine first?_of_lead 0x10 hform ?_ ?_ rest
    · rw [hbyte (0xe0 + p.val / 4096) (by omega), leadOf?, if_neg (by omega), if_neg (by omega),
        if_neg (by omega), if_pos (by omega)]
      rfl
    · simp only [List.foldl_cons, List.foldl_nil, hbyte (0xe0 + p.val / 4096) (by omega),
        hbyte (0x80 + p.val / 64 % 64) (by omega), hbyte (0x80 + p.val % 64) (by omega)]
      omega
  · have hform : p.utf8Form = [UInt8.ofNat (0xf0 + p.val / 262144),
        UInt8.ofNat (0x80 + p.val / 4096 % 64), UInt8.ofNat (0x80 + p.val / 64 % 64),
        UInt8.ofNat (0x80 + p.val % 64)] := by
      simp [utf8Form, h₁, h₂, h₃]
    refine first?_of_lead 0x08 hform ?_ ?_ rest
    · rw [hbyte (0xf0 + p.val / 262144) (by omega), leadOf?, if_neg (by omega), if_neg (by omega),
        if_neg (by omega), if_neg (by omega), if_pos (by omega)]
      rfl
    · simp only [List.foldl_cons, List.foldl_nil, hbyte (0xf0 + p.val / 262144) (by omega),
        hbyte (0x80 + p.val / 4096 % 64) (by omega), hbyte (0x80 + p.val / 64 % 64) (by omega),
        hbyte (0x80 + p.val % 64) (by omega)]
      omega

theorem utf8Form_ne_nil (p : CodePoint) : p.utf8Form ≠ [] := by
  unfold utf8Form
  dsimp only
  split_ifs <;> simp

theorem all?_flatMap (ps : List CodePoint) : ∀ {fuel : Nat},
    (ps.flatMap utf8Form).length ≤ fuel → all? fuel (ps.flatMap utf8Form) = some ps := by
  induction ps with
  | nil =>
    intro fuel _
    cases fuel <;> rfl
  | cons p ps ih =>
    intro fuel hfuel
    rw [List.flatMap_cons] at hfuel ⊢
    obtain ⟨b, tail, hform⟩ := List.exists_cons_of_ne_nil p.utf8Form_ne_nil
    have hfirst := first?_utf8Form p (ps.flatMap utf8Form)
    rw [hform] at hfuel hfirst ⊢
    simp only [List.cons_append, List.length_cons, List.length_append] at hfuel
    obtain ⟨fuel, rfl⟩ : ∃ k, fuel = k + 1 := ⟨fuel - 1, by omega⟩
    rw [List.cons_append] at hfirst ⊢
    have hothers : (ps.flatMap utf8Form).length ≤ fuel := by omega
    simp only [all?, hfirst, ih hothers, Option.map_some]

@[simp] theorem char?_ofChar (c : Char) : char? (ofChar c) = some c := by
  have hvalid : (ofChar c).val.isValidChar := c.valid
  rw [char?, dif_pos hvalid]
  rfl

theorem ofChar_injective : Function.Injective ofChar := by
  intro c d h
  have hchar := congrArg char? h
  simpa using hchar
end CodePoint
namespace WideText

@[simp] theorem toString?_ofString (s : String) : (ofString s).toString? = some s := by
  have hchars : (s.toList.map CodePoint.ofChar).mapM CodePoint.char? = some s.toList := by
    induction s.toList with
    | nil => rfl
    | cons c cs ih => simp [ih]
  rw [toString?, ofString, hchars, Option.map_some, String.ofList_toList]

theorem ofUtf8?_utf8Bytes (t : WideText) : ofUtf8? t.utf8Bytes = some t := by
  rw [ofUtf8?, utf8Bytes, CodePoint.all?_flatMap t.points (Nat.le_refl _)]
  rfl

end WideText
end ServiceStubs
