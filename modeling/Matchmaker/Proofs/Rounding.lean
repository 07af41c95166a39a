import Mathlib.Tactic.NormNum
import Mathlib.Tactic.Ring
import Matchmaker.Decimal.Quotient
import Matchmaker.Proofs.Doubles

/-!
# Rounding to doubles

The double nearest to a quotient has the digits of the quotient, rounded, for its mantissa. It does
not leave bounds that are doubles themselves.

* `exponentOf_of_le`: the exponent of a quotient that is not below 1;
* `roundDiv_le`, `le_roundDiv`: rounding keeps bounds;
* `unpack_ofBits`: the double of given bits, neither subnormal nor infinite;
* **`unpack_nearestRatio`**: the mantissa and the exponent of the double nearest to a quotient.
-/

namespace Matchmaker.Decimal

/-! ## Exponents -/

theorem twoTo_eq (n : Nat) : twoTo n = 2 ^ n := rfl

theorem exponentOf_of_le {n d : Nat} (hd : 0 < d) (h : d ≤ n) :
    ∃ k : Nat, exponentOf n d = k ∧ d * 2 ^ k ≤ n ∧ n < d * 2 ^ (k + 1) := by
  have hn₁ : 2 ^ n.log2 ≤ n := Nat.log2_self_le (by omega)
  have hn₂ : n < 2 ^ (n.log2 + 1) := Nat.lt_log2_self
  have hd₁ : 2 ^ d.log2 ≤ d := Nat.log2_self_le (by omega)
  have hd₂ : d < 2 ^ (d.log2 + 1) := Nat.lt_log2_self
  have hlog : d.log2 ≤ n.log2 :=
    Nat.le_of_lt_succ ((Nat.pow_lt_pow_iff_right (by decide)).1 (by omega : 2 ^ d.log2 < _))
  obtain ⟨e, he⟩ := Nat.exists_eq_add_of_le hlog
  have hdiff : (n.log2 : Int) - d.log2 = e := by omega
  have hzero : (-(e : Int)).toNat = 0 := by omega
  unfold exponentOf
  simp only [hdiff, hzero, Int.toNat_natCast, twoTo_eq, Nat.pow_zero, Nat.mul_one]
  split
  · rename_i hlt
    -- the quotient of the leading powers is one too great
    obtain ⟨k, rfl⟩ : ∃ k, e = k + 1 := by
      refine Nat.exists_eq_succ_of_ne_zero ?_
      rintro rfl
      omega
    refine ⟨k, by omega, ?_, hlt⟩
    calc d * 2 ^ k
      _ ≤ 2 ^ (d.log2 + 1) * 2 ^ k := Nat.mul_le_mul_right _ hd₂.le
      _ = 2 ^ n.log2 := by rw [← Nat.pow_add, he]; congr 1; omega
      _ ≤ n := hn₁
  · rename_i hge
    refine ⟨e, rfl, by omega, ?_⟩
    calc n
      _ < 2 ^ (n.log2 + 1) := hn₂
      _ = 2 ^ d.log2 * 2 ^ (e + 1) := by rw [← Nat.pow_add, he, Nat.add_assoc]
      _ ≤ d * 2 ^ (e + 1) := Nat.mul_le_mul_right _ hd₁

/-! ## Rounding -/

section Rounding

variable {n d c : Nat}

theorem roundDiv_le (hd : 0 < d) (h : n ≤ c * d) : roundDiv n d ≤ c := by
  have hnear := (roundDiv_near n d hd).1
  by_contra hlt
  have hmul : (c + 1) * d ≤ roundDiv n d * d := Nat.mul_le_mul_right d (by omega)
  rw [Nat.add_mul] at hmul
  omega

theorem le_roundDiv (hd : 0 < d) (h : c * d ≤ n) : c ≤ roundDiv n d := by
  have hnear := (roundDiv_near n d hd).2
  by_contra hlt
  have hmul : (roundDiv n d + 1) * d ≤ c * d := Nat.mul_le_mul_right d (by omega)
  rw [Nat.add_mul] at hmul
  omega

theorem unitsOf_bounds (hd : 0 < d) {k : Nat} (hk : k ≤ 52) (hlow : d * 2 ^ k ≤ n)
    (hhigh : n < d * 2 ^ (k + 1)) :
    2 ^ 52 ≤ unitsOf n d (k - 52) ∧ unitsOf n d (k - 52) ≤ 2 ^ 53 ∧
      (n ≤ c * d → unitsOf n d (k - 52) ≤ c * 2 ^ (52 - k)) := by
  have hplace : (-((k : Int) - 52)).toNat = 52 - k := by omega
  have hzero : ((k : Int) - 52).toNat = 0 := by omega
  have hfull : 2 ^ k * 2 ^ (52 - k) = 2 ^ 52 := by rw [← Nat.pow_add, Nat.add_sub_cancel' hk]
  unfold unitsOf
  rw [hplace, hzero, twoTo_eq, twoTo_eq, Nat.pow_zero, Nat.mul_one]
  refine ⟨le_roundDiv hd ?_, roundDiv_le hd ?_, fun h => roundDiv_le hd ?_⟩
  · calc 2 ^ 52 * d
      _ = d * 2 ^ k * 2 ^ (52 - k) := by rw [← hfull]; ring
      _ ≤ n * 2 ^ (52 - k) := Nat.mul_le_mul_right _ hlow
  · calc n * 2 ^ (52 - k)
      _ ≤ d * 2 ^ (k + 1) * 2 ^ (52 - k) := Nat.mul_le_mul_right _ hhigh.le
      _ = 2 * (2 ^ k * 2 ^ (52 - k)) * d := by ring
      _ = 2 ^ 53 * d := by rw [hfull]; norm_num
  · calc n * 2 ^ (52 - k)
      _ ≤ c * d * 2 ^ (52 - k) := Nat.mul_le_mul_right _ h
      _ = c * 2 ^ (52 - k) * d := by ring

end Rounding

/-! ## The double of given bits -/

open Float.Model (UnpackedFloat)

theorem eq_finite_of_ofUnpacked {u : UnpackedFloat} {m : Nat} {e : Int} (hm : 0 < m)
    (h : Binary.ofUnpacked u = .finite false m e) : u = .finite .positive m e hm := by
  cases u with
  | notANumber => cases h
  | infinity s => cases h
  | zero s =>
    have hzero : 0 = m := (Binary.finite.inj h).2.1
    omega
  | finite s m' e' hm' =>
    obtain ⟨hs, rfl, rfl⟩ := Binary.finite.inj h
    cases s with
    | positive => rfl
    | negative => cases hs

theorem toNat_pack {m : Nat} {e : Int} (hm : 0 < m) (hlow : 2 ^ 52 ≤ m) (hhigh : m < 2 ^ 53)
    (he : -1074 ≤ e) (he' : e ≤ 971) :
    (UnpackedFloat.pack .binary64 (.finite .positive m e hm)).toNat =
      (e + 1075).toNat * 2 ^ 52 + m % 2 ^ 52 := by
  have hlog : m.log2 = 52 := (Nat.log2_eq_iff (by omega)).2 ⟨hlow, hhigh⟩
  have hbiased : ¬ 2 ^ 11 ≤ (e + 1023 + 52).toNat + 1 := by omega
  have hpack : UnpackedFloat.pack .binary64 (.finite .positive m e hm) =
      UnpackedFloat.packComponents .binary64 .positive
        (BitVec.ofNat 11 (e + 1023 + 52).toNat) (BitVec.ofNat 52 m) := by
    unfold UnpackedFloat.pack
    simp only [hlog]
    exact (if_neg hbiased).trans (if_pos rfl)
  rw [hpack]
  show (0#1 ++ BitVec.ofNat 11 (e + 1023 + 52).toNat ++ BitVec.ofNat 52 m).toNat = _
  rw [BitVec.toNat_append, BitVec.toNat_append,
    ← Nat.shiftLeft_add_eq_or_of_lt (BitVec.ofNat 52 m).isLt]
  have hexponent : (e + 1023 + 52).toNat % 2 ^ 11 = (e + 1075).toNat := by omega
  simp only [BitVec.toNat_ofNat, Nat.shiftLeft_eq, hexponent, Nat.zero_mod, Nat.zero_mul,
    Nat.zero_or]

theorem unpack_ofBits {b : Nat} (hlow : 2 ^ 52 ≤ b) (hhigh : b < 2047 * 2 ^ 52) :
    (Float.ofBits (UInt64.ofNat b)).toModel.unpack =
      .finite .positive (2 ^ 52 + b % 2 ^ 52) ((b / 2 ^ 52 : Nat) - 1075) (by omega) := by
  have hb : (UInt64.ofNat b).toBitVec.toNat = b := by
    show b % 2 ^ 64 = b
    omega
  have hofBits : Binary.ofBits b =
      .finite false (2 ^ 52 + b % 2 ^ 52) ((b / 2 ^ 52 : Nat) - 1075) := by
    have hsign : (b / 0x8000000000000000 % 2 == 1) = false := by
      rw [beq_eq_false_iff_ne]
      omega
    have hbiased : b / Binary.leastNormal % 0x800 = b / 2 ^ 52 := by
      rw [Binary.leastNormal]
      omega
    have hinfinite : (b / 2 ^ 52 == 0x7FF) = false := by
      rw [beq_eq_false_iff_ne]
      omega
    have hsubnormal : (b / 2 ^ 52 == 0) = false := by
      rw [beq_eq_false_iff_ne]
      omega
    simp only [Binary.ofBits, hsign, hbiased, hinfinite, hsubnormal, Bool.false_eq_true, if_false]
    rfl
  have hunpack : UnpackedFloat.unpack .binary64 (UInt64.ofNat b).toBitVec =
      .finite .positive (2 ^ 52 + b % 2 ^ 52) ((b / 2 ^ 52 : Nat) - 1075) (by omega) := by
    refine eq_finite_of_ofUnpacked _ ?_
    rw [← Binary.ofBits_toNat, hb, hofBits]
  -- the bits are those that are packed from what they are unpacked to
  have hpack : UnpackedFloat.pack .binary64 (UnpackedFloat.unpack .binary64
      (UInt64.ofNat b).toBitVec) = (UInt64.ofNat b).toBitVec := by
    rw [← BitVec.toNat_inj, hunpack, hb, toNat_pack _ (by omega) (by omega) (by omega) (by omega)]
    omega
  show UnpackedFloat.unpack .binary64 (UnpackedFloat.pack .binary64 (UnpackedFloat.unpack .binary64
    (UInt64.ofNat b).toBitVec)) = _
  rw [hpack, hunpack]

/-- **The double nearest to a quotient.** From 1 up to a bound, it has all places in its mantissa
and is no greater than a bound that has them, too. -/
theorem unpack_nearestRatio {n d : Nat} (hd : 0 < d) (h : d ≤ n) {c : Nat} (hc : n ≤ c * d)
    {j : Nat} (hj : j ≤ 52) (hc₁ : 2 ^ j ≤ c) (hc₂ : c < 2 ^ (j + 1)) :
    ∃ m e hm, (nearestRatio n d).toModel.unpack = .finite .positive m e hm ∧
      (e < (j : Int) - 52 ∨ e = j - 52 ∧ m ≤ c * 2 ^ (52 - j)) := by
  obtain ⟨k, hk, hlow, hhigh⟩ := exponentOf_of_le hd h
  have hkj : k ≤ j := by
    have hle : d * 2 ^ k ≤ d * c := by rw [Nat.mul_comm d c]; omega
    have hlt : 2 ^ k < 2 ^ (j + 1) := Nat.lt_of_le_of_lt (Nat.le_of_mul_le_mul_left hle hd) hc₂
    exact Nat.le_of_lt_succ ((Nat.pow_lt_pow_iff_right (by decide)).1 hlt)
  have hfull : 2 ^ j * 2 ^ (52 - j) = 2 ^ 52 := by rw [← Nat.pow_add, Nat.add_sub_cancel' hj]
  have hbound₁ : 2 ^ 52 ≤ c * 2 ^ (52 - j) := hfull ▸ Nat.mul_le_mul_right _ hc₁
  have hbound₂ : c * 2 ^ (52 - j) < 2 ^ 53 := by
    calc c * 2 ^ (52 - j)
      _ < 2 ^ (j + 1) * 2 ^ (52 - j) := Nat.mul_lt_mul_of_pos_right hc₂ (Nat.two_pow_pos _)
      _ = 2 ^ 53 := by rw [Nat.pow_succ, Nat.mul_right_comm, hfull]; norm_num
  obtain ⟨hunits₁, hunits₂, hunits₃⟩ := unitsOf_bounds (c := c) hd (hkj.trans hj) hlow hhigh
  have hplace : lastPlace n d = k - 52 := by
    rw [lastPlace, hk]
    omega
  have hratio : nearestRatio n d = Float.ofBits
      (UInt64.ofNat ((k + 1022) * 2 ^ 52 + unitsOf n d (k - 52))) := by
    have hinfinite : infinityBits = 2047 * 2 ^ 52 := rfl
    have hnormal : Binary.leastNormal = 2 ^ 52 := rfl
    have hexponent : ((k : Int) - 52 + 1074).toNat = k + 1022 := by omega
    rw [nearestRatio, if_neg (by omega), hplace, bitsOf, hexponent, hnormal,
      Nat.min_eq_left (by omega)]
  refine ⟨_, _, _, hratio ▸ unpack_ofBits (by omega) (by omega), ?_⟩
  -- only below the leading power of the bound can rounding reach the next one
  rcases Nat.lt_or_ge k j with hlt | hge
  · omega
  · obtain rfl : k = j := by omega
    have hmantissa := hunits₃ hc
    omega

end Matchmaker.Decimal
