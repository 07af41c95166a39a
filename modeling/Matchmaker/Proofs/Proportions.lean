import Mathlib.Tactic.Ring
import Matchmaker.Proofs.Ranking
import Matchmaker.Proofs.Symmetry

/-!
# Only the proportions of the weights matter

Over exact scores a member who weights every dimension `k` times as much gives every candidate `k`
times the score: each of the six contributions is linear in its weight, that of nearness on all of
its branches. The total of the weights grows as much, so that the percentages stay, and with them
the threshold, the order and the ranking.

* `Weights.scale`, `Scorecard.scale`, `Entry.scale`: weights and what comes of them, `k` times as
  great;
* `percent_scale`, **`Scorecard.of_scale`**: percentages and the whole scorecard;
* **`rank_scale`**: a ranking under scores that are all `k` times as great;
* **`proportions_decide`**: candidates and rankings under weights `k` times as great.
-/

namespace Matchmaker

/-! ## Weights -/

namespace Weights

variable {k : Nat} {w : Weights}

/-- Weights that are all `k` times as great. -/
def scale (k : Nat) (w : Weights) : Weights :=
  PerDimension.ofFn fun d => k * w.get d

theorem get_scale (k : Nat) (w : Weights) (d : Dimension) : (w.scale k).get d = k * w.get d :=
  PerDimension.get_ofFn _ d

theorem total_scale (k : Nat) (w : Weights) : (w.scale k).total = k * w.total := by
  have hsum : ∀ ds : List Dimension, tally (w.scale k).get ds = k * tally w.get ds := by
    intro ds
    induction ds with
    | nil => rfl
    | cons d ds ih => rw [tally, tally, ih, get_scale, Nat.mul_add]
  exact hsum Dimension.all

theorem total_scale_eq_zero_iff (hk : 0 < k) : (w.scale k).total = 0 ↔ w.total = 0 := by
  rw [total_scale, Nat.mul_eq_zero]
  omega

end Weights

open scoped Exact

variable {K κ : Type} [Field K] [LinearOrder K]

/-! ## Exact numbers -/

namespace Exact

theorem ofInt_mul (k n : Nat) : (Scalar.ofInt ((k * n : Nat) : Int) : K) = k * Scalar.ofInt n := by
  show ((((k * n : Nat) : Int) : K)) = k * ((n : Int) : K)
  push_cast
  ring

variable [IsStrictOrderedRing K]

theorem sum_scale (k : K) (xs : List K) : Scalar.sum (xs.map (k * ·)) = k * Scalar.sum xs := by
  have hfold : ∀ x : K, (xs.map (k * ·)).foldl (· + ·) (k * x) = k * xs.foldl (· + ·) x := by
    induction xs with
    | nil => exact fun _ => rfl
    | cons y ys ih =>
      intro x
      rw [List.map_cons, List.foldl_cons, List.foldl_cons, ← mul_add, ih]
  have hzero : (0.0 : K) = k * 0.0 := by norm_num
  unfold Scalar.sum
  rw [hzero, hfold, ← hzero]

end Exact

/-! ## Scorecards -/

namespace Scorecard

variable {k : Nat}

/-- A scorecard with contributions and score `k` times as great, and the same percentage. -/
def scale (k : Nat) (c : Scorecard K) : Scorecard K where
  breakdown := PerDimension.ofFn fun d => k * c.breakdown.get d
  score := k * c.score
  percentage := c.percentage

theorem contribution_scale (k points weight : Nat) (worth : K) :
    contribution points (k * weight) worth = k * contribution points weight worth := by
  unfold contribution
  rw [show points * (k * weight) = k * (points * weight) by ring, Exact.ofInt_mul, mul_div_assoc]

variable [IsStrictOrderedRing K]

/-- Nearness contributes in proportion to its weight, with a radius, without one, at an unknown
distance and under no weight at all. -/
theorem proximity_scale (hk : 0 < k) (distance : Option K) (radius weight : K) :
    Proximity.score distance radius (k * weight) = k * Proximity.score distance radius weight := by
  have hzero : (0.0 : K) = 0 := by norm_num
  have hk' : (k : K) ≠ 0 := by exact_mod_cast hk.ne'
  have hweight : Scalar.isZero ((k : K) * weight) = Scalar.isZero weight := by
    rw [Bool.eq_iff_iff, Exact.isZero_iff, Exact.isZero_iff, mul_eq_zero]
    simp [hk']
  unfold Proximity.score
  rw [hweight, hzero]
  split_ifs
  · rw [mul_zero]
  · ring
  · cases distance with
    | none => rw [mul_zero]
    | some d => ring

theorem get_contributions_scale (hk : 0 < k) (w : Weights) (radius : K) (p q : Profile)
    (distance : Option K) (d : Dimension) :
    (contributions (w.scale k) radius p q distance).get d =
      k * (contributions w radius p q distance).get d := by
  cases d with
  | analogPassions | digitalDelights | collaboration | food | music =>
    exact contribution_scale k _ _ _
  | location =>
    show Proximity.score distance radius (Scalar.ofInt ((k * w.location : Nat) : Int)) = _
    rw [Exact.ofInt_mul, proximity_scale hk]
    rfl

theorem percent_scale (hk : 0 < k) (x : K) (w : Weights) :
    percent (k * x) (w.scale k) = percent x w := by
  by_cases htotal : w.total = 0
  · rw [Exact.percent_of_total_eq_zero htotal,
      Exact.percent_of_total_eq_zero ((Weights.total_scale_eq_zero_iff hk).2 htotal)]
  · have hk' : (k : K) ≠ 0 := by exact_mod_cast hk.ne'
    have hshare : (k : K) * x / (k * w.total) = x / w.total := mul_div_mul_left _ _ hk'
    rw [Exact.percent_of_total_ne_zero htotal,
      Exact.percent_of_total_ne_zero (mt (Weights.total_scale_eq_zero_iff hk).1 htotal),
      Weights.total_scale, Nat.cast_mul, hshare]

/-- **The scorecard under weights `k` times as great.** -/
theorem of_scale (hk : 0 < k) (w : Weights) (p q : Profile) (distance : Option K) :
    of (w.scale k) p q distance = (of w p q distance).scale k := by
  have hbreakdown : contributions (w.scale k) p.radius.toScalar p q distance =
      PerDimension.ofFn fun d => (k : K) * (contributions w p.radius.toScalar p q distance).get d :=
    PerDimension.ext_get fun d => by
      rw [get_contributions_scale hk, PerDimension.get_ofFn]
  have hscore : Scalar.sum (contributions (w.scale k) p.radius.toScalar p q distance).toList =
      (k : K) * Scalar.sum (contributions w p.radius.toScalar p q distance).toList := by
    rw [hbreakdown, ← Exact.sum_scale]
    rfl
  simp only [of, scale]
  rw [hscore, percent_scale hk, hbreakdown]

end Scorecard

/-! ## Rankings -/

namespace Ranking

variable {k : Nat}

/-- An entry with a score `k` times as great. -/
def Entry.scale (k : Nat) (e : Entry K κ) : Entry K κ :=
  { e with card := e.card.scale k }

theorem eligible_scale (k : Nat) (entries : List (Entry K κ)) :
    eligible (entries.map (Entry.scale k)) = (eligible entries).map (Entry.scale k) := by
  unfold eligible
  rw [List.filter_map]
  rfl

variable [IsStrictOrderedRing K]

theorem precedes_scale (hk : 0 < k) (x y : Entry K κ) :
    precedes (x.scale k) (y.scale k) = precedes x y := by
  have hk' : (0 : K) < k := by exact_mod_cast hk
  have hlt : ∀ a b : Entry K κ,
      (a.scale k).card.score < (b.scale k).card.score ↔ a.card.score < b.card.score :=
    fun a b => mul_lt_mul_iff_right₀ hk'
  simp only [precedes, hlt]
  rfl

/-- **A ranking under scores that are all `k` times as great** is the same but for the scores. -/
theorem rank_scale (hk : 0 < k) (entries : List (Entry K κ)) :
    rank (entries.map (Entry.scale k)) = (rank entries).map (Entry.scale k) := by
  have hsort : (ordered entries).map (Entry.scale k) = ordered (entries.map (Entry.scale k)) := by
    rw [ordered, ordered, eligible_scale]
    exact List.map_mergeSort fun x _ y _ => (precedes_scale hk x y).symm
  rw [rank, ← hsort, ← List.map_take, rank]

end Ranking

/-! ## Candidates -/

namespace Store

open Ranking (rank Entry)

variable [IsStrictOrderedRing K]

theorem scored_scale {k : Nat} (hk : 0 < k) (w : Weights) (me : Profile) :
    scored (α := K) (w.scale k) me = Entry.scale k ∘ scored w me := by
  funext c
  simp only [scored, Function.comp_apply, Entry.scale, Scorecard.of_scale hk]

/-- **Only the proportions of the weights decide.** Under weights that are all `k` times as great,
every candidate at any distance or none has `k` times the contributions and the score, and the same
percentage; and in every pool the same members are recommended in the same order, with the same
percentages and distances and with `k` times their scores. -/
theorem proportions_decide {k : Nat} (hk : 0 < k) (w : Weights) (me : Profile) :
    (∀ (other : Profile) (distance : Option K),
      (∀ d, (Scorecard.of (w.scale k) me other distance).breakdown.get d =
        k * (Scorecard.of w me other distance).breakdown.get d) ∧
      (Scorecard.of (w.scale k) me other distance).score =
        k * (Scorecard.of w me other distance).score ∧
      (Scorecard.of (w.scale k) me other distance).percentage =
        (Scorecard.of w me other distance).percentage) ∧
    ∀ pool : List (Candidate K),
      rank (pool.map (scored (w.scale k) me)) =
        (rank (pool.map (scored w me))).map (Entry.scale k) ∧
      (rank (pool.map (scored (w.scale k) me))).map Entry.user =
        (rank (pool.map (scored w me))).map Entry.user := by
  refine ⟨fun other distance => ?_, fun pool => ?_⟩
  · rw [Scorecard.of_scale hk]
    exact ⟨fun d => PerDimension.get_ofFn _ d, rfl, rfl⟩
  · have hrank : rank (pool.map (scored (w.scale k) me)) =
        (rank (pool.map (scored w me))).map (Entry.scale k) := by
      rw [scored_scale hk, ← List.map_map, Ranking.rank_scale hk]
    refine ⟨hrank, ?_⟩
    rw [hrank, List.map_map]
    rfl

/-- Three candidates of one member: one half a radius away, one who has told nothing and falls under
the threshold, and one at an unknown distance. -/
def hikers : List (Candidate Rat) :=
  [⟨Scorecard.hiker, some 5⟩, ⟨{ (default : Profile) with user := 4 }, some 5⟩,
    ⟨{ Scorecard.hiker with user := 3 }, none⟩]

/-- The weights of that member. -/
def hikerWeights : Weights := ⟨3, 0, 3, 5, 0, 4⟩

/-- The candidates that reach the threshold. -/
def hikersKept : List (Ranking.Entry Rat (Candidate Rat)) :=
  Ranking.eligible (hikers.map (scored hikerWeights Scorecard.guitarist))

/-- Under weights twice as great the candidates have twice the scores, and the same two are kept. -/
theorem proportions_decide_sample :
    0 < 2 ∧ (∀ d, (hikerWeights.scale 2).get d ≤ Weights.limit) ∧
      (rank (hikers.map (scored hikerWeights Scorecard.guitarist))).map (·.card.score) =
        [61 / 5, 11] ∧
      (rank (hikers.map (scored (hikerWeights.scale 2) Scorecard.guitarist))).map (·.card.score) =
        [122 / 5, 22] ∧
      (rank (hikers.map (scored (hikerWeights.scale 2) Scorecard.guitarist))).map Entry.user =
        [2, 3] := by
  obtain ⟨-, hranks⟩ :=
    proportions_decide (K := Rat) (k := 2) (by decide) hikerWeights Scorecard.guitarist
  obtain ⟨hrank, -⟩ := hranks hikers
  obtain ⟨hordered, hlength, hscores, hscaled, husers⟩ :
      hikersKept.Pairwise (fun x y => Ranking.precedes x y = true) ∧
        hikersKept.length ≤ Ranking.limit ∧ hikersKept.map (·.card.score) = [61 / 5, 11] ∧
        (hikersKept.map (Entry.scale 2)).map (·.card.score) = [122 / 5, 22] ∧
        (hikersKept.map (Entry.scale 2)).map Entry.user = [2, 3] := by decide +kernel
  have hkept : rank (hikers.map (scored hikerWeights Scorecard.guitarist)) = hikersKept := by
    show (hikersKept.mergeSort Ranking.precedes).take Ranking.limit = hikersKept
    rw [List.mergeSort_of_pairwise hordered]
    exact List.take_of_length_le hlength
  rw [hrank, hkept]
  exact ⟨by decide, by intro d; cases d <;> decide, hscores, hscaled, husers⟩

end Store

end Matchmaker
