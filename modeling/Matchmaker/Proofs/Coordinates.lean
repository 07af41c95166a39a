import Mathlib.Tactic.Linarith
import Matchmaker.Proofs.Drawing
import Matchmaker.Proofs.Exact
import Matchmaker.Proofs.Rounding
import Matchmaker.Seed.Member

/-!
# Coordinates that are drawn

Read over the rationals, fixtures are drawn in exact numbers, and only what is stored is rounded to
doubles. A coordinate near one of the cities is then one of the globe.

* `Exact.sampling`: the rationals as numbers that fixtures are drawn in;
* `within_toDouble`: doubles nearest to degrees;
* **`gives_nearby`**: drawn coordinates.
-/

namespace Matchmaker

/-- The rationals as numbers that fixtures are drawn in. A number is stored as the nearest
double. -/
scoped instance Exact.sampling : Sampling ℚ where
  toScalar := Exact.scalar
  truncate q := .ok (Int.tdiv q.num q.den)
  toDouble q := Decimal.nearestQuotient q.num q.den

/-! ## Doubles in range -/

section Range

open Float.Model (UnpackedFloat)

variable {x y : Float} {m n : Nat} {e f : Int} {hm : 0 < m} {hn : 0 < n}

theorem le_of_positive (hx : x.toModel.unpack = .finite .positive m e hm)
    (hy : y.toModel.unpack = .finite .positive n f hn) (h : e < f ∨ e = f ∧ m ≤ n) : x ≤ y := by
  have hle : x ≤ y ↔ x.toModel.unpack.le y.toModel.unpack = true := decide_eq_true_iff
  rw [hle, hx, hy]
  show ((compare e f).then (compare m n)).isLE = true
  rcases h with h | ⟨rfl, h⟩
  · simp [Int.compare_eq_lt.2 h, Ordering.then]
  · rcases Nat.lt_or_eq_of_le h with h | rfl
    · simp [Nat.compare_eq_lt.2 h, Ordering.then]
    · simp

theorem le_of_negative (hx : x.toModel.unpack = .finite .negative m e hm)
    (hy : y.toModel.unpack = .finite .positive n f hn) : x ≤ y := by
  have hle : x ≤ y ↔ x.toModel.unpack.le y.toModel.unpack = true := decide_eq_true_iff
  rw [hle, hx, hy]
  rfl

open scoped Exact

theorem within_toDouble {q : ℚ} (hlow : 1 ≤ q) (hhigh : q ≤ 90) :
    (Quantity.real (Sampling.toDouble q)).within 90 = true ∧
      (Quantity.real (Sampling.toDouble q)).within 180 = true := by
  have hden : 0 < q.den := q.den_pos
  have hquotient : (q.num : ℚ) = q * q.den := (Rat.mul_den_eq_num q).symm
  have hnum₁ : (q.den : Int) ≤ q.num := by
    have : (q.den : ℚ) ≤ q.num := by
      rw [hquotient]
      exact le_mul_of_one_le_left (Nat.cast_nonneg _) hlow
    exact_mod_cast this
  have hnum₂ : q.num ≤ 90 * q.den := by
    have : (q.num : ℚ) ≤ 90 * q.den := by
      rw [hquotient]
      exact mul_le_mul_of_nonneg_right hhigh (Nat.cast_nonneg _)
    exact_mod_cast this
  have hdouble : Sampling.toDouble q = Decimal.nearestRatio q.num.natAbs q.den := by
    have hsign : (decide (q.num < 0) != decide ((q.den : Int) < 0)) = false := by
      rw [decide_eq_false (by omega), decide_eq_false (by omega)]
      rfl
    show Decimal.nearestQuotient q.num q.den = _
    unfold Decimal.nearestQuotient
    simp only [hsign, Bool.false_eq_true, if_false, Int.natAbs_natCast]
  obtain ⟨m, e, hm, hunpack, hbound⟩ := Decimal.unpack_nearestRatio (n := q.num.natAbs) (c := 90)
    (j := 6) hden (by omega) (by omega) (by decide) (by decide) (by decide)
  rw [← hdouble] at hunpack
  have hpos : 0 < 90 * 2 ^ 46 := by decide
  have hninety : (Float.ofNat 90).toModel.unpack = .finite .positive (90 * 2 ^ 46) (-46) hpos := rfl
  have hhalf : (Float.ofNat 180).toModel.unpack = .finite .positive (90 * 2 ^ 46) (-45) hpos := rfl
  have hninety' : (-(Float.ofNat 90)).toModel.unpack =
    .finite .negative (90 * 2 ^ 46) (-46) hpos := rfl
  have hhalf' : (-(Float.ofNat 180)).toModel.unpack =
    .finite .negative (90 * 2 ^ 46) (-45) hpos := rfl
  simp only [Quantity.within, Bool.and_eq_true, decide_eq_true_eq]
  exact ⟨⟨le_of_negative hninety' hunpack, le_of_positive hunpack hninety (by omega)⟩,
    le_of_negative hhalf' hunpack, le_of_positive hunpack hhalf (by omega)⟩

end Range

/-! ## Coordinates -/

namespace Seed

open scoped Exact

variable {σ : Type} [Source σ]

theorem cities_inside :
    ∀ c ∈ cities (α := ℚ), (2 ≤ c.lat ∧ c.lat ≤ 89) ∧ 2 ≤ c.lon ∧ c.lon ≤ 89 := by
  simp only [cities, List.forall_mem_cons]
  norm_num

theorem fraction_bounds {k : Nat} (hk : k < 9007199254740992) :
    (0 : ℚ) ≤ Scalar.ofInt (k : Nat) / 9007199254740992.0 ∧
      (Scalar.ofInt (k : Nat) / 9007199254740992.0 : ℚ) < 1 := by
  have hcast : (Scalar.ofInt (k : Nat) : ℚ) = k := Int.cast_natCast k
  have hliteral : (9007199254740992.0 : ℚ) = 9007199254740992 := by norm_num
  rw [hcast, hliteral, div_lt_one (by norm_num)]
  exact ⟨by positivity, by exact_mod_cast hk⟩

/-- **A coordinate near a city is one of the globe.** -/
theorem gives_nearby {x : ℚ} (hlow : 2 ≤ x) (hhigh : x ≤ 89) :
    Gives (nearby x : Draw σ Float) fun y =>
      (Quantity.real y).within 90 = true ∧ (Quantity.real y).within 180 = true := by
  refine gives_bind gives_fraction fun f hf => gives_pure ?_
  obtain ⟨k, hk, rfl⟩ := hf
  obtain ⟨hfraction₁, hfraction₂⟩ := fraction_bounds hk
  generalize (Scalar.ofInt (k : Nat) / 9007199254740992.0 : ℚ) = f at *
  apply within_toDouble
  · norm_num
    linarith
  · norm_num
    linarith

end Seed

end Matchmaker
