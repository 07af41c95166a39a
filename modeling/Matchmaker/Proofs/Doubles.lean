import Matchmaker.Decimal.Binary

/-!
# Doubles as the kernel knows them

Arithmetic and order of doubles are defined on an unpacked form: an infinity, a zero, a finite
number with its sign, mantissa and exponent, or no number. `Decimal.Binary` reads the same from the
64 bits.

* **`ofFloat_eq`**: both readings agree;
* `lt_zero_iff`: the doubles below zero;
* `whole?_nonneg`, `toRat?_nonneg`: what is read off the others is not negative.
-/

namespace Matchmaker.Decimal.Binary

open Float.Model (UnpackedFloat Format)
open Float.Model.UnpackedFloat (Sign unpackExponent unpackMantissa unpackSign)

/-- A sign stands before a negative number. -/
def isMinus : Sign → Bool
  | .negative => true
  | .positive => false

/-- The meaning of an unpacked double. -/
def ofUnpacked : UnpackedFloat → Binary
  | .notANumber => nan
  | .infinity s => infinite (isMinus s)
  | .zero s => finite (isMinus s) 0 (-1074)
  | .finite s m e _ => finite (isMinus s) m e

/-! ## The parts of a word -/

section Parts

variable (v : BitVec 64)

theorem toNat_unpackMantissa : (@unpackMantissa .binary64 v).toNat = v.toNat % leastNormal := by
  simp [unpackMantissa, leastNormal]

theorem toNat_unpackExponent :
    (@unpackExponent .binary64 v).toNat = v.toNat / leastNormal % 0x800 := by
  simp [unpackExponent, leastNormal, Nat.shiftRight_eq_div_pow]

theorem toNat_unpackSign :
    (@unpackSign .binary64 v).toNat = v.toNat / 0x8000000000000000 % 2 := by
  show ((v.extractLsb 63 63).cast _).toNat = _
  simp [Nat.shiftRight_eq_div_pow]

theorem isMinus_ofBitVec (b : BitVec 1) : isMinus (.ofBitVec b) = (b.toNat == 1) := by
  revert b
  decide

theorem toNat_leading {n : Nat} (m : BitVec n) : (1#1 ++ m).toNat = 1 <<< n + m.toNat := by
  rw [BitVec.toNat_append, ← Nat.shiftLeft_add_eq_or_of_lt m.isLt]
  rfl

theorem ofBits_toNat : ofBits v.toNat = ofUnpacked (UnpackedFloat.unpack .binary64 v) := by
  have hm := toNat_unpackMantissa v
  have he := toNat_unpackExponent v
  have hs := isMinus_ofBitVec (@unpackSign .binary64 v)
  rw [toNat_unpackSign] at hs
  have h7 : @unpackExponent .binary64 v = -1#11 ↔ v.toNat / leastNormal % 0x800 = 0x7FF := by
    rw [← BitVec.toNat_inj, he]
    rfl
  have h0 : @unpackExponent .binary64 v = 0#11 ↔ v.toNat / leastNormal % 0x800 = 0 := by
    rw [← BitVec.toNat_inj, he]
    rfl
  have hz : @unpackMantissa .binary64 v = 0#52 ↔ v.toNat % leastNormal = 0 := by
    rw [← BitVec.toNat_inj, hm]
    rfl
  generalize hsign : Sign.ofBitVec (@unpackSign .binary64 v) = sign at hs
  simp only [ofBits, beq_iff_eq, ← hs]
  by_cases e7 : v.toNat / leastNormal % 0x800 = 0x7FF
  · rw [if_pos e7]
    by_cases m0 : v.toNat % leastNormal = 0
    · have hunpack : UnpackedFloat.unpack .binary64 v = .infinity sign :=
        hsign ▸ (if_pos (h7.2 e7)).trans (if_pos (hz.2 m0))
      rw [if_pos m0, hunpack]
      rfl
    · have hunpack : UnpackedFloat.unpack .binary64 v = .notANumber :=
        (if_pos (h7.2 e7)).trans (if_neg (mt hz.1 m0))
      rw [if_neg m0, hunpack]
      rfl
  · rw [if_neg e7]
    by_cases e0 : v.toNat / leastNormal % 0x800 = 0
    · rw [if_pos e0]
      by_cases m0 : v.toNat % leastNormal = 0
      · have hunpack : UnpackedFloat.unpack .binary64 v = .zero sign :=
          hsign ▸ (if_neg (mt h7.1 e7)).trans ((if_pos (h0.2 e0)).trans (dif_pos (hz.2 m0)))
        rw [m0, hunpack]
        rfl
      · have hunpack : ofUnpacked (UnpackedFloat.unpack .binary64 v) =
            finite (isMinus sign) (@unpackMantissa .binary64 v).toNat
              ((@unpackExponent .binary64 v).toNat - 1075 + 1) :=
          hsign ▸ congrArg ofUnpacked
            ((if_neg (mt h7.1 e7)).trans ((if_pos (h0.2 e0)).trans (dif_neg (mt hz.1 m0))))
        rw [hunpack, hm, he, e0]
        rfl
    · have hunpack : ofUnpacked (UnpackedFloat.unpack .binary64 v) =
          finite (isMinus sign) (1#1 ++ @unpackMantissa .binary64 v).toNat
            ((@unpackExponent .binary64 v).toNat - 1075) :=
        hsign ▸ congrArg ofUnpacked ((if_neg (mt h7.1 e7)).trans (if_neg (mt h0.1 e0)))
      rw [if_neg e0, hunpack, toNat_leading, hm, he]
      rfl

end Parts

/-- **The bits of a double mean what its unpacked form says.** -/
theorem ofFloat_eq (x : Float) : ofFloat x = ofUnpacked x.toModel.unpack :=
  ofBits_toNat x.toModel.toBits.toBitVec

theorem lt_zero_iff {x : Float} :
    x < 0.0 ↔ ofFloat x = infinite true ∨ ∃ m e, 0 < m ∧ ofFloat x = finite true m e := by
  have h : x < 0.0 ↔ x.toModel.unpack.lt (.zero .positive) = true :=
    decide_eq_true_iff
  rw [h, ofFloat_eq]
  cases x.toModel.unpack with
  | notANumber =>
    refine iff_of_false Bool.false_ne_true ?_
    rintro (h | ⟨m, e, -, h⟩) <;> cases h
  | infinity s =>
    cases s with
    | positive =>
      refine iff_of_false Bool.false_ne_true ?_
      rintro (h | ⟨m, e, -, h⟩) <;> cases h
    | negative => exact iff_of_true rfl (Or.inl rfl)
  | zero s =>
    refine iff_of_false (by cases s <;> exact Bool.false_ne_true) ?_
    rintro (h | ⟨m, e, hm, h⟩)
    · cases h
    · have hzero : 0 = m := (Binary.finite.inj h).2.1
      omega
  | finite s m e hm =>
    cases s with
    | positive =>
      refine iff_of_false Bool.false_ne_true ?_
      rintro (h | ⟨m, e, -, h⟩) <;> cases h
    | negative => exact iff_of_true rfl (Or.inr ⟨m, e, hm, rfl⟩)

theorem signed_nonneg {negative : Bool} {n : Nat} (h : negative = true → n = 0) :
    0 ≤ signed negative n := by
  unfold signed
  split
  · rename_i hn
    rw [h hn]
    simp
  · exact Int.natCast_nonneg n

/-- Only a zero has a sign without lying below zero. -/
theorem mantissa_eq_zero {x : Float} (hx : ¬ x < 0.0) {negative : Bool} {m : Nat} {e : Int}
    (h : ofFloat x = finite negative m e) : negative = true → m = 0 := by
  rw [lt_zero_iff] at hx
  rintro rfl
  rcases Nat.eq_zero_or_pos m with h0 | h0
  · exact h0
  · exact absurd (Or.inr ⟨m, e, h0, h⟩) hx

theorem whole?_nonneg {x : Float} (hx : ¬ x < 0.0) {n : Int} (h : (ofFloat x).whole? = some n) :
    0 ≤ n := by
  cases hb : ofFloat x with
  | nan => rw [hb] at h; cases h
  | infinite s => rw [hb] at h; cases h
  | finite s m e =>
    rw [hb] at h
    have hm : s = true → m = 0 := mantissa_eq_zero hx hb
    cases e with
    | ofNat e =>
      simp only [whole?, Option.some.injEq] at h
      rw [← h]
      exact signed_nonneg fun hs => by rw [hm hs, Nat.zero_mul]
    | negSucc e =>
      simp only [whole?] at h
      split at h
      · simp only [Option.some.injEq] at h
        rw [← h]
        exact signed_nonneg fun hs => by rw [hm hs, Nat.zero_div]
      · cases h

theorem toRat?_nonneg {x : Float} (hx : ¬ x < 0.0) {r : Rat} (h : (ofFloat x).toRat? = some r) :
    0 ≤ r := by
  cases hb : ofFloat x with
  | nan => rw [hb] at h; cases h
  | infinite s => rw [hb] at h; cases h
  | finite s m e =>
    rw [hb] at h
    have hm : s = true → m = 0 := mantissa_eq_zero hx hb
    cases e with
    | ofNat e =>
      simp only [toRat?, Option.some.injEq] at h
      rw [← h]
      exact Rat.intCast_nonneg.2 (signed_nonneg fun hs => by rw [hm hs, Nat.zero_mul])
    | negSucc e =>
      simp only [toRat?, Option.some.injEq] at h
      rw [← h, ← Rat.divInt_ofNat]
      exact Rat.divInt_nonneg (signed_nonneg hm) (Int.natCast_nonneg _)

end Matchmaker.Decimal.Binary
