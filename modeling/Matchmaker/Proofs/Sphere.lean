import Mathlib.Analysis.SpecialFunctions.Complex.Arg
import Matchmaker.Proofs.Exact

/-!
# Distances on the sphere

The formulas for places, read over the reals. The haversine distance of two places is the length of
the arc between them, whose cosine is that of the law of cosines, and no root that it takes is of a
negative number.

* `Exact.trig`: the reals with their trigonometric functions;
* `Geo.IsPlace`, `Geo.haversine`, `Geo.arc`: places, and the arc between two of them;
* `cos_arc`: the spherical law of cosines;
* **`distance_eq`**: the distance of two places is defined and is that of the arc.
-/

namespace Matchmaker

open Real (pi)

/-- The reals as numbers with the trigonometric functions. -/
noncomputable scoped instance Exact.trig : Trig ℝ where
  toScalar := Exact.scalar
  sqrt := Real.sqrt
  sin := Real.sin
  cos := Real.cos
  asin := Real.arcsin
  atan2 y x := Complex.arg ⟨x, y⟩
  pi := pi
  isInfinite _ := false

namespace Geo

open scoped Exact

/-! ## Degrees and radians -/

theorem radians_eq (x : ℝ) : radians x = x * (pi / 180) := by
  have h : (180.0 : ℝ) = 180 := by norm_num
  exact congrArg (fun y => x * (pi / y)) h

theorem degrees_eq (x : ℝ) : degrees x = x * (180 / pi) := by
  have h : (180.0 : ℝ) = 180 := by norm_num
  exact congrArg (fun y => x * (y / pi)) h

theorem radians_degrees (x : ℝ) : radians (degrees x) = x := by
  rw [radians_eq, degrees_eq]
  field_simp

theorem radians_sub (x y : ℝ) : radians (x - y) = radians x - radians y := by
  simp only [radians_eq, sub_mul]

theorem radians_add (x y : ℝ) : radians (x + y) = radians x + radians y := by
  simp only [radians_eq, add_mul]

theorem radians_le_radians {x y : ℝ} : radians x ≤ radians y ↔ x ≤ y := by
  have hpos : 0 < pi / 180 := by positivity
  rw [radians_eq, radians_eq, mul_le_mul_iff_left₀ hpos]

theorem radians_lt_radians {x y : ℝ} : radians x < radians y ↔ x < y :=
  lt_iff_lt_of_le_iff_le radians_le_radians

theorem radians_ninety : radians (90 : ℝ) = pi / 2 := by
  rw [radians_eq]
  ring

theorem radians_neg_ninety : radians (-90 : ℝ) = -(pi / 2) := by
  rw [radians_eq]
  ring

theorem radians_halfTurn : radians (180 : ℝ) = pi := by
  rw [radians_eq]
  ring

theorem radians_neg_halfTurn : radians (-180 : ℝ) = -pi := by
  rw [radians_eq]
  ring

/-! ## The functions with their domains -/

section Functions

variable {x : ℝ}

theorem settled_eq (x : ℝ) : Scalar.settled x = .ok x := rfl

theorem sin_eq (x : ℝ) : sin x = .ok (Real.sin x) := rfl

theorem cos_eq (x : ℝ) : cos x = .ok (Real.cos x) := rfl

theorem sqrt_eq (h : 0 ≤ x) : sqrt x = .ok (√x) := by
  have hzero : (0.0 : ℝ) = 0 := by norm_num
  unfold sqrt
  exact if_neg (hzero ▸ not_lt.2 h)

theorem asin_eq (h : -1 ≤ x) (h' : x ≤ 1) : asin x = .ok (Real.arcsin x) := by
  have hone : (1.0 : ℝ) = 1 := by norm_num
  have hlow : ¬ x < -1.0 := by
    rw [hone]
    exact not_lt.2 h
  have hhigh : ¬ 1.0 < x := by
    rw [hone]
    exact not_lt.2 h'
  unfold asin
  rw [if_neg hlow, if_neg hhigh]
  rfl

end Functions

/-! ## Places -/

/-- A place with a latitude and a longitude in degrees. -/
structure IsPlace (p : Point ℝ) : Prop where
  lat : p.lat ∈ Set.Icc (-90) 90
  lon : p.lon ∈ Set.Icc (-180) 180

/-- The square of half the chord between two places, on the unit sphere. -/
noncomputable def haversine (p q : Point ℝ) : ℝ :=
  Real.sin ((radians q.lat - radians p.lat) / 2) ^ 2 +
    Real.cos (radians p.lat) * Real.cos (radians q.lat) *
      Real.sin ((radians q.lon - radians p.lon) / 2) ^ 2

/-- The angle of the arc between two places. -/
noncomputable def arc (p q : Point ℝ) : ℝ :=
  2 * Real.arcsin √(haversine p q)

variable {p q : Point ℝ}

namespace IsPlace

theorem radians_lat (h : IsPlace p) : radians p.lat ∈ Set.Icc (-(pi / 2)) (pi / 2) := by
  rw [← radians_neg_ninety, ← radians_ninety]
  exact ⟨radians_le_radians.2 h.lat.1, radians_le_radians.2 h.lat.2⟩

theorem radians_lon (h : IsPlace p) : radians p.lon ∈ Set.Icc (-pi) pi := by
  rw [← radians_neg_halfTurn, ← radians_halfTurn]
  exact ⟨radians_le_radians.2 h.lon.1, radians_le_radians.2 h.lon.2⟩

theorem cos_lat_nonneg (h : IsPlace p) : 0 ≤ Real.cos (radians p.lat) :=
  Real.cos_nonneg_of_mem_Icc h.radians_lat

end IsPlace

/-! ## The arc between two places -/

theorem haversine_nonneg (hp : IsPlace p) (hq : IsPlace q) : 0 ≤ haversine p q := by
  have := hp.cos_lat_nonneg
  have := hq.cos_lat_nonneg
  unfold haversine
  positivity

/-- The spherical law of cosines, in terms of half the chord. -/
theorem one_sub_two_mul_haversine (p q : Point ℝ) : 1 - 2 * haversine p q =
    Real.sin (radians p.lat) * Real.sin (radians q.lat) +
      Real.cos (radians p.lat) * Real.cos (radians q.lat) *
        Real.cos (radians q.lon - radians p.lon) := by
  have hhalf : ∀ x : ℝ, 2 * Real.sin (x / 2) ^ 2 = 1 - Real.cos x := by
    intro x
    have hcos := Real.cos_two_mul (x / 2)
    have hsq := Real.sin_sq_add_cos_sq (x / 2)
    rw [mul_div_cancel₀ x two_ne_zero] at hcos
    linarith
  calc 1 - 2 * haversine p q
    _ = 1 - 2 * Real.sin ((radians q.lat - radians p.lat) / 2) ^ 2 -
          Real.cos (radians p.lat) * Real.cos (radians q.lat) *
            (2 * Real.sin ((radians q.lon - radians p.lon) / 2) ^ 2) := by
      unfold haversine
      ring
    _ = Real.cos (radians q.lat - radians p.lat) -
          Real.cos (radians p.lat) * Real.cos (radians q.lat) *
            (1 - Real.cos (radians q.lon - radians p.lon)) := by
      rw [hhalf, hhalf]
      ring
    _ = _ := by
      rw [Real.cos_sub (radians q.lat)]
      ring

theorem haversine_le_one (hp : IsPlace p) (hq : IsPlace q) : haversine p q ≤ 1 := by
  have hcosines := mul_nonneg hp.cos_lat_nonneg hq.cos_lat_nonneg
  -- no place is farther away than the one that lies opposite in longitude
  have hopposite : -1 ≤ Real.sin (radians p.lat) * Real.sin (radians q.lat) -
      Real.cos (radians p.lat) * Real.cos (radians q.lat) := by
    have := Real.cos_le_one (radians p.lat + radians q.lat)
    rw [Real.cos_add] at this
    linarith
  have hturn := mul_le_mul_of_nonneg_left
    (Real.neg_one_le_cos (radians q.lon - radians p.lon)) hcosines
  have hlaw := one_sub_two_mul_haversine p q
  linarith

theorem arc_nonneg (p q : Point ℝ) : 0 ≤ arc p q :=
  mul_nonneg zero_le_two (Real.arcsin_nonneg.2 (Real.sqrt_nonneg _))

theorem arc_le_pi (p q : Point ℝ) : arc p q ≤ pi := by
  have := Real.arcsin_le_pi_div_two √(haversine p q)
  unfold arc
  linarith

/-- **The spherical law of cosines.** -/
theorem cos_arc (hp : IsPlace p) (hq : IsPlace q) : Real.cos (arc p q) =
    Real.sin (radians p.lat) * Real.sin (radians q.lat) +
      Real.cos (radians p.lat) * Real.cos (radians q.lat) *
        Real.cos (radians q.lon - radians p.lon) := by
  have hroot : √(haversine p q) ≤ 1 := Real.sqrt_le_one.2 (haversine_le_one hp hq)
  have hsin : Real.sin (Real.arcsin √(haversine p q)) = √(haversine p q) :=
    Real.sin_arcsin (by linarith [Real.sqrt_nonneg (haversine p q)]) hroot
  rw [← one_sub_two_mul_haversine, arc, Real.cos_two_mul, Real.cos_sq', hsin,
    Real.sq_sqrt (haversine_nonneg hp hq)]
  ring

/-! ## The distance -/

theorem earthRadius_eq : (earthRadius : ℝ) = 6371 := by
  unfold earthRadius
  norm_num

theorem halfChord_eq (p q : Point ℝ) : halfChord p q = .ok (haversine p q) := by
  have htwo : (2.0 : ℝ) = 2 := by norm_num
  unfold halfChord haversine
  simp only [settled_eq, sin_eq, cos_eq, bind, Except.bind, pure, Except.pure, radians_sub, htwo,
    sq]

/-- The angle with the half chord and its complement as legs. -/
theorem atan2_eq_arcsin {x : ℝ} (h : 0 ≤ x) (h' : x ≤ 1) :
    Trig.atan2 (√x) (√(1 - x)) = Real.arcsin √x := by
  have hnorm : ‖(⟨√(1 - x), √x⟩ : ℂ)‖ = 1 := by
    rw [Complex.norm_def, Complex.normSq_mk, Real.mul_self_sqrt (sub_nonneg.2 h'),
      Real.mul_self_sqrt h]
    norm_num
  have harg := Complex.arg_of_re_nonneg (x := ⟨√(1 - x), √x⟩) (Real.sqrt_nonneg _)
  rw [hnorm, div_one] at harg
  exact harg

/-- **The distance of two places is that of the arc between them.** -/
theorem distance_eq (hp : IsPlace p) (hq : IsPlace q) :
    distance p q = .ok (6371 * arc p q) := by
  have hlow := haversine_nonneg hp hq
  have hhigh := haversine_le_one hp hq
  have hone : (1.0 : ℝ) = 1 := by norm_num
  have htwo : (2.0 : ℝ) = 2 := by norm_num
  unfold distance
  rw [halfChord_eq]
  simp only [bind, Except.bind, hone, htwo, earthRadius_eq, sqrt_eq hlow,
    sqrt_eq (sub_nonneg.2 hhigh), atan2_eq_arcsin hlow hhigh]
  rfl

end Geo

end Matchmaker
