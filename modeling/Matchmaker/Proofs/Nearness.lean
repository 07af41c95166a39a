import Matchmaker.Proofs.Proportions

/-!
# Nearness counts

What nearness contributes over exact numbers. The share of the radius that a distance leaves falls
with the distance and grows with the radius. The factor falls with the distance too: the first step
that covers a nearer candidate stands no later in the table, and factors fall from step to step.

* `IsFalling`, `upliftBy_antitone`: tables of steps, and the factor of the first that covers a
  distance;
* `share_antitone`, `share_mono`, `share_eq_zero_iff`: the share of the radius;
* **`nearness_counts`**: the contribution falls with the distance, grows with the radius, lies
  between 0 and 1.3 times the weight, and vanishes without a weight and from the radius on only.
-/

namespace Matchmaker.Proximity

open scoped Exact

variable {K : Type} [Field K] [LinearOrder K]

/-! ## Steps -/

/-- A table of steps whose factors do not rise from one step to a later one, nor fall below 1. -/
structure IsFalling (steps : List (K × K)) : Prop where
  one_le : ∀ s ∈ steps, 1 ≤ s.2
  pairwise : steps.Pairwise fun s t => t.2 ≤ s.2

section Steps

variable [IsStrictOrderedRing K] {steps : List (K × K)}

/-- What holds of 1 and of the factors of a table holds of the factor at any distance. -/
theorem upliftBy_of {P : K → Prop} (hone : P 1) (h : ∀ s ∈ steps, P s.2) (d : K) :
    P (upliftBy d steps) := by
  induction steps with
  | nil =>
    have hnone : upliftBy d ([] : List (K × K)) = 1 := by norm_num [upliftBy]
    rwa [hnone]
  | cons s steps ih =>
    obtain ⟨hs, hsteps⟩ := List.forall_mem_cons.1 h
    rw [upliftBy]
    split_ifs
    · exact hs
    · exact ih hsteps

/-- **A nearer one has no smaller factor**: a step that covers the further distance covers the
nearer one as well, so that the nearer one stops at that step or at an earlier one. -/
theorem upliftBy_antitone (h : IsFalling steps) {d₁ d₂ : K} (hd : d₁ ≤ d₂) :
    upliftBy d₂ steps ≤ upliftBy d₁ steps := by
  induction steps with
  | nil => exact le_refl _
  | cons s steps ih =>
    obtain ⟨hs, hsteps⟩ := List.forall_mem_cons.1 h.one_le
    obtain ⟨hlater, hfalls⟩ := List.pairwise_cons.1 h.pairwise
    by_cases hcovers : d₁ ≤ s.1
    · have hnear : upliftBy d₁ (s :: steps) = s.2 := if_pos hcovers
      rw [hnear]
      exact upliftBy_of (P := fun u => u ≤ s.2) hs (List.forall_mem_cons.2 ⟨le_refl _, hlater⟩) d₂
    · have hnear : upliftBy d₁ (s :: steps) = upliftBy d₁ steps := if_neg hcovers
      have hfar : upliftBy d₂ (s :: steps) = upliftBy d₂ steps :=
        if_neg fun hd₂ => hcovers (hd.trans hd₂)
      rw [hnear, hfar]
      exact ih ⟨hsteps, hfalls⟩

theorem isFalling_uplifts : IsFalling (uplifts : List (K × K)) where
  one_le := by norm_num [uplifts]
  pairwise := by norm_num [uplifts]

theorem one_le_uplift (d : K) : 1 ≤ uplift d :=
  upliftBy_of (P := fun u : K => 1 ≤ u) (le_refl 1) isFalling_uplifts.one_le d

theorem uplift_le (d : K) : uplift d ≤ 13 / 10 :=
  upliftBy_of (P := fun u : K => u ≤ 13 / 10) (by norm_num) (by norm_num [uplifts]) d

theorem uplift_antitone {d₁ d₂ : K} (hd : d₁ ≤ d₂) : uplift d₂ ≤ uplift d₁ :=
  upliftBy_antitone isFalling_uplifts hd

end Steps

/-! ## The share of the radius -/

section Share

variable [IsStrictOrderedRing K] {d d₁ d₂ r r₁ r₂ : K}

theorem share_eq (d r : K) : share d r = min (max (1 - d / r) 0) 1 := by
  have hzero : (0.0 : K) = 0 := by norm_num
  have hone : (1.0 : K) = 1 := by norm_num
  rw [share, Exact.least_eq_min, Exact.greatest_eq_max, hzero, hone]

theorem share_nonneg (d r : K) : 0 ≤ share d r := by
  rw [share_eq]
  exact le_min (le_max_right _ _) zero_le_one

theorem share_le_one (d r : K) : share d r ≤ 1 := by
  rw [share_eq]
  exact min_le_right _ _

theorem share_le_share (h : d₂ / r₂ ≤ d₁ / r₁) : share d₁ r₁ ≤ share d₂ r₂ := by
  rw [share_eq, share_eq]
  exact min_le_min_right _ (max_le_max_right _ (sub_le_sub_left h 1))

theorem share_antitone (hr : 0 < r) (hd : d₁ ≤ d₂) : share d₂ r ≤ share d₁ r :=
  share_le_share (div_le_div_of_nonneg_right hd hr.le)

theorem share_mono (hd : 0 ≤ d) (hr₁ : 0 < r₁) (hr : r₁ ≤ r₂) : share d r₁ ≤ share d r₂ :=
  share_le_share (div_le_div_of_nonneg_left hd hr₁ hr)

theorem share_eq_zero_iff (hr : 0 < r) : share d r = 0 ↔ r ≤ d := by
  have hleft : max (1 - d / r) 0 ≤ 0 ↔ r ≤ d := by
    rw [max_le_iff, sub_nonpos, one_le_div hr]
    exact and_iff_left (le_refl 0)
  rw [← hleft, share_eq]
  constructor
  · intro hshare
    rcases min_choice (max (1 - d / r) 0) 1 with hmin | hmin
    · exact (hmin.symm.trans hshare).le
    · exact absurd (hmin.symm.trans hshare) one_ne_zero
  · intro hzero
    rw [min_eq_left (hzero.trans zero_le_one)]
    exact le_antisymm hzero (le_max_right _ _)

end Share

/-! ## The contribution -/

section Score

variable [IsStrictOrderedRing K] {d d₁ d₂ r r₁ r₂ w : K}

/-- Within a radius the contribution has one form, under no weight as well. -/
theorem score_eq (hr : 0 < r) (d w : K) :
    score (some d) r w = share d r * share d r * uplift d * w := by
  have hzero : (0.0 : K) = 0 := by norm_num
  unfold score
  rw [hzero, if_neg hr.not_ge]
  split_ifs with hw
  · rw [Exact.isZero_iff.1 hw, mul_zero]
  · rfl

theorem uplift_pos (d : K) : 0 < uplift d :=
  zero_lt_one.trans_le (one_le_uplift d)

theorem score_le_score (hw : 0 ≤ w) (hr₁ : 0 < r₁) (hr₂ : 0 < r₂)
    (hshare : share d₁ r₁ ≤ share d₂ r₂) (huplift : uplift d₁ ≤ uplift d₂) :
    score (some d₁) r₁ w ≤ score (some d₂) r₂ w := by
  rw [score_eq hr₁, score_eq hr₂]
  have hsquare : share d₁ r₁ * share d₁ r₁ ≤ share d₂ r₂ * share d₂ r₂ :=
    mul_self_le_mul_self (share_nonneg d₁ r₁) hshare
  have hraised : share d₁ r₁ * share d₁ r₁ * uplift d₁ ≤ share d₂ r₂ * share d₂ r₂ * uplift d₂ :=
    mul_le_mul hsquare huplift (uplift_pos d₁).le (mul_self_nonneg _)
  exact mul_le_mul_of_nonneg_right hraised hw

theorem score_nonneg (hw : 0 ≤ w) (hr : 0 < r) : 0 ≤ score (some d) r w := by
  rw [score_eq hr]
  exact mul_nonneg (mul_nonneg (mul_self_nonneg _) (uplift_pos d).le) hw

theorem score_le (hw : 0 ≤ w) (hr : 0 < r) : score (some d) r w ≤ 13 / 10 * w := by
  rw [score_eq hr]
  have hsquare : share d r * share d r ≤ 1 :=
    mul_le_one₀ (share_le_one d r) (share_nonneg d r) (share_le_one d r)
  have hraised : share d r * share d r * uplift d ≤ 1 * (13 / 10) :=
    mul_le_mul hsquare (uplift_le d) (uplift_pos d).le zero_le_one
  rw [one_mul] at hraised
  exact mul_le_mul_of_nonneg_right hraised hw

theorem score_eq_zero_iff (hr : 0 < r) : score (some d) r w = 0 ↔ w = 0 ∨ r ≤ d := by
  rw [score_eq hr, mul_eq_zero, mul_eq_zero, mul_self_eq_zero, share_eq_zero_iff hr, or_comm,
    or_iff_left (uplift_pos d).ne']

/-- **Nearness counts.** Under any weight, the contribution of a candidate within a radius never
falls when the candidate lives nearer, whichever steps the two distances meet, nor when the radius
grows; it lies between 0 and 1.3 times the weight, and it is 0 exactly without a weight and for
candidates who live at the radius or beyond it. -/
theorem nearness_counts (hw : 0 ≤ w) :
    (∀ r d₁ d₂ : K, 0 < r → d₁ ≤ d₂ → score (some d₂) r w ≤ score (some d₁) r w) ∧
      (∀ r₁ r₂ d : K, 0 < r₁ → r₁ ≤ r₂ → 0 ≤ d →
        score (some d) r₁ w ≤ score (some d) r₂ w) ∧
      ∀ r d : K, 0 < r →
        0 ≤ score (some d) r w ∧ score (some d) r w ≤ 13 / 10 * w ∧
          (score (some d) r w = 0 ↔ w = 0 ∨ r ≤ d) := by
  refine ⟨fun r d₁ d₂ hr hd => ?_, fun r₁ r₂ d hr₁ hr hd => ?_, fun r d hr => ?_⟩
  · exact score_le_score hw hr hr (share_antitone hr hd) (uplift_antitone hd)
  · exact score_le_score hw hr₁ (hr₁.trans_le hr) (share_mono hd hr₁ hr) (le_refl _)
  · exact ⟨score_nonneg hw hr, score_le hw hr, score_eq_zero_iff hr⟩

/-- Two candidates on different steps, two radii, and a candidate at the edge of the smaller one. -/
theorem nearness_counts_sample :
    score (some (5 : Rat)) 10 4 = 6 / 5 ∧ score (some (2 : Rat)) 10 4 = 416 / 125 ∧
      score (some (5 : Rat)) 10 4 ≤ score (some 2) 10 4 ∧
      score (some (5 : Rat)) 10 4 ≤ score (some 5) 20 4 ∧
      score (some (2 : Rat)) 10 4 ≤ 13 / 10 * 4 ∧ score (some (10 : Rat)) 10 4 = 0 := by
  obtain ⟨hnearer, hwider, hbounds⟩ := nearness_counts (K := Rat) (w := 4) (by decide)
  refine ⟨by decide +kernel, by decide +kernel, hnearer 10 2 5 (by decide) (by decide),
    hwider 10 20 5 (by decide) (by decide) (by decide), (hbounds 10 2 (by decide)).2.1, ?_⟩
  exact (hbounds 10 10 (by decide)).2.2.2 (Or.inr (le_refl _))

end Score

end Matchmaker.Proximity
