import Mathlib.Algebra.Order.Field.Basic
import Mathlib.Data.Rat.Cast.OfScientific
import Mathlib.Data.Rat.Cast.Order
import Mathlib.Tactic.NormNum
import Mathlib.Tactic.Positivity
import Matchmaker.Candidates
import Matchmaker.Proofs.Doubles

/-!
# Exact scores

Any ordered field can be read as scalars (`Exact.scalar`): a double counts as the number that it
is, and sums, products and the order are those of the field. Over it shares in percent have their
laws.

* `percent_of_total_ne_zero`: the share of a score in the total of the weights;
* **`percent_le`**, **`percent_mono`**: it is at most 100 and grows with the score;
* `reach_pos`: a search with a radius reaches beyond its start.
-/

namespace Matchmaker.Exact

variable {K : Type} [Field K] [LinearOrder K]

/-- An ordered field as scalars. What is no number counts as 0. -/
scoped instance scalar : Scalar K where
  ofInt n := n
  ofDouble x := ((Decimal.Binary.ofFloat x).toRat?.getD 0 : Rat)
  decLt := inferInstance
  decLe := inferInstance

theorem least_eq_min (x y : K) : Scalar.least x y = min x y := by
  unfold Scalar.least
  split
  · rename_i h
    exact (min_eq_right h.le).symm
  · rename_i h
    exact (min_eq_left (not_lt.1 h)).symm

theorem greatest_eq_max (x y : K) : Scalar.greatest x y = max x y := by
  unfold Scalar.greatest
  split
  · rename_i h
    exact (max_eq_right h.le).symm
  · rename_i h
    exact (max_eq_left (not_lt.1 h)).symm

variable [IsStrictOrderedRing K]

theorem isZero_iff {x : K} : Scalar.isZero x = true ↔ x = 0 := by
  have hzero : (0.0 : K) = 0 := by norm_num
  rw [Scalar.isZero, Bool.and_eq_true, decide_eq_true_eq, decide_eq_true_eq, hzero]
  exact ⟨fun h => le_antisymm h.1 h.2, fun h => ⟨h.le, h.ge⟩⟩

/-! ## Shares in percent -/

section Percent

variable {w : Weights}

theorem percent_of_total_eq_zero (h : w.total = 0) (x : K) : Scorecard.percent x w = 0 := by
  unfold Scorecard.percent
  rw [if_pos h]
  norm_num

theorem percent_of_total_ne_zero (h : w.total ≠ 0) (x : K) :
    Scorecard.percent x w = min (x / w.total * 100) 100 := by
  have hcast : (Scalar.ofInt (w.total : Int) : K) = w.total := Int.cast_natCast w.total
  have hhundred : (100.0 : K) = 100 := by norm_num
  unfold Scorecard.percent
  rw [if_neg h, least_eq_min, hcast, hhundred]

theorem percent_le (x : K) : Scorecard.percent x w ≤ 100 := by
  by_cases h : w.total = 0
  · rw [percent_of_total_eq_zero h]
    norm_num
  · rw [percent_of_total_ne_zero h]
    exact min_le_right _ _

theorem percent_mono {x y : K} (hxy : x ≤ y) : Scorecard.percent x w ≤ Scorecard.percent y w := by
  by_cases h : w.total = 0
  · rw [percent_of_total_eq_zero h, percent_of_total_eq_zero h]
  · rw [percent_of_total_ne_zero h, percent_of_total_ne_zero h]
    have htotal : (0 : K) ≤ w.total := Nat.cast_nonneg _
    have hshare : x / w.total ≤ y / w.total := div_le_div_of_nonneg_right hxy htotal
    exact min_le_min_right _ (mul_le_mul_of_nonneg_right hshare (by norm_num))

end Percent

/-! ## Radii -/

theorem toScalar_nonneg {q : Quantity} (h : q.isNegative = false) : (0 : K) ≤ q.toScalar := by
  cases q with
  | flag b =>
    have hb : (0 : Int) ≤ if b then 1 else 0 := by split <;> decide
    exact Int.cast_nonneg hb
  | whole n => exact Int.cast_nonneg (not_lt.1 (of_decide_eq_false h))
  | real x =>
    have hx : ¬ x < 0.0 := of_decide_eq_false h
    have hrat : 0 ≤ (Decimal.Binary.ofFloat x).toRat?.getD 0 := by
      cases hr : (Decimal.Binary.ofFloat x).toRat? with
      | none => exact le_refl 0
      | some r => exact Decimal.Binary.toRat?_nonneg hx hr
    exact Rat.cast_nonneg.2 hrat

theorem reach_eq (q : Quantity) : (Store.reach q : K) = q.toScalar + 1 / 1000000 := by
  have hslack : (slack : K) = 1 / 1000000 := by
    unfold slack
    norm_num
  unfold Store.reach
  rw [hslack]

theorem reach_pos {q : Quantity} (h : q.isNegative = false) : (0 : K) < Store.reach q := by
  have hq : (0 : K) ≤ q.toScalar := toScalar_nonneg h
  rw [reach_eq]
  positivity

end Matchmaker.Exact
