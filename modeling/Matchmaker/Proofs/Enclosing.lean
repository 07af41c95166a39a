import Mathlib.Analysis.Real.Pi.Bounds
import Matchmaker.Proofs.Sphere

/-!
# The box encloses the circle

Read over the reals, the box of a radius holds every place within that radius. Latitudes are at
most an arc apart. A circle that reaches no pole is widest where a meridian touches it, and there
the sine of its longitude is that of its angle over the cosine of the latitude of its centre. Where
the box gives longitudes, they lie within one turn, and no place comes back into the circle from
behind.

* `abs_lat_sub_le_arc`: the latitudes of a circle;
* `SparesPoles`, `spread`, `abs_lon_sub_le_spread`: the longitudes of a circle without a pole;
* `box_of_pole`, `box_of_sparesPoles`: the box of a circle with a pole, and of one without;
* **`box_loses_nobody`**: the box of a little more than a radius holds what lies within the radius.
-/

namespace Matchmaker.Geo

open Real (pi)
open scoped Exact

variable {p q : Point ℝ} {a : ℝ}

/-! ## Latitudes -/

theorem abs_lat_sub_le_arc (hp : IsPlace p) (hq : IsPlace q) :
    |radians q.lat - radians p.lat| ≤ arc p q := by
  have hcosines := mul_nonneg hp.cos_lat_nonneg hq.cos_lat_nonneg
  have hturn := mul_le_mul_of_nonneg_left
    (Real.cos_le_one (radians q.lon - radians p.lon)) hcosines
  -- on one meridian the arc is the difference, and turning away from it makes it longer
  have hcos : Real.cos (arc p q) ≤ Real.cos |radians q.lat - radians p.lat| := by
    rw [cos_arc hp hq, Real.cos_abs, Real.cos_sub (radians q.lat)]
    linarith
  have hrange : |radians q.lat - radians p.lat| ≤ pi := by
    obtain ⟨hp₁, hp₂⟩ := hp.radians_lat
    obtain ⟨hq₁, hq₂⟩ := hq.radians_lat
    exact abs_le.2 ⟨by linarith, by linarith⟩
  exact (Real.strictAntiOn_cos.le_iff_ge ⟨arc_nonneg p q, arc_le_pi p q⟩
    ⟨abs_nonneg _, hrange⟩).1 hcos

/-! ## Longitudes -/

/-- The circle of an angle around a place reaches no pole. -/
structure SparesPoles (p : Point ℝ) (a : ℝ) : Prop where
  pos : 0 < a
  south : -(pi / 2) < radians p.lat - a
  north : radians p.lat + a < pi / 2

/-- How far a circle without a pole extends in longitude, to both sides. -/
noncomputable def spread (p : Point ℝ) (a : ℝ) : ℝ :=
  Real.arcsin (Real.sin a / Real.cos (radians p.lat))

namespace SparesPoles

theorem lt_half (h : SparesPoles p a) : a < pi / 2 - |radians p.lat| := by
  rcases abs_cases (radians p.lat) with ⟨habs, -⟩ | ⟨habs, -⟩
  · linarith [h.north]
  · linarith [h.south]

theorem lt_pi_div_two (h : SparesPoles p a) : a < pi / 2 := by
  linarith [h.lt_half, abs_nonneg (radians p.lat)]

theorem cos_lat_pos (h : SparesPoles p a) : 0 < Real.cos (radians p.lat) :=
  Real.cos_pos_of_mem_Ioo ⟨by linarith [h.south, h.pos], by linarith [h.north, h.pos]⟩

theorem sin_pos (h : SparesPoles p a) : 0 < Real.sin a :=
  Real.sin_pos_of_pos_of_lt_pi h.pos (by linarith [h.lt_pi_div_two, Real.pi_pos])

/-- The angle is shorter than the way to the nearest pole. -/
theorem sin_lt_cos_lat (h : SparesPoles p a) : Real.sin a < Real.cos (radians p.lat) := by
  have hlt : Real.sin a < Real.sin (pi / 2 - |radians p.lat|) :=
    Real.sin_lt_sin_of_lt_of_le_pi_div_two (by linarith [h.pos, Real.pi_pos])
      (by linarith [abs_nonneg (radians p.lat)]) h.lt_half
  rwa [Real.sin_pi_div_two_sub, Real.cos_abs] at hlt

theorem ratio_pos (h : SparesPoles p a) : 0 < Real.sin a / Real.cos (radians p.lat) :=
  div_pos h.sin_pos h.cos_lat_pos

theorem ratio_lt_one (h : SparesPoles p a) : Real.sin a / Real.cos (radians p.lat) < 1 :=
  (div_lt_one h.cos_lat_pos).2 h.sin_lt_cos_lat

theorem sin_spread (h : SparesPoles p a) :
    Real.sin (spread p a) = Real.sin a / Real.cos (radians p.lat) :=
  Real.sin_arcsin (by linarith [h.ratio_pos]) h.ratio_lt_one.le

theorem spread_pos (h : SparesPoles p a) : 0 < spread p a :=
  Real.arcsin_pos.2 h.ratio_pos

/-- Places in the circle lie on the near side of the sphere. -/
theorem cos_turn_pos (h : SparesPoles p a) (hp : IsPlace p) (hq : IsPlace q) (ha : arc p q < a) :
    0 < Real.cos (radians q.lon - radians p.lon) := by
  by_contra hturn
  have hfar := mul_nonpos_of_nonneg_of_nonpos
    (mul_nonneg hp.cos_lat_nonneg hq.cos_lat_nonneg) (not_lt.1 hturn)
  -- on the far side the nearest place is the nearer pole
  have hpole : Real.cos (arc p q) ≤ |Real.sin (radians p.lat)| := by
    have hprod : Real.sin (radians p.lat) * Real.sin (radians q.lat) ≤
        |Real.sin (radians p.lat)| := by
      calc Real.sin (radians p.lat) * Real.sin (radians q.lat)
        _ ≤ |Real.sin (radians p.lat) * Real.sin (radians q.lat)| := le_abs_self _
        _ = |Real.sin (radians p.lat)| * |Real.sin (radians q.lat)| := abs_mul _ _
        _ ≤ |Real.sin (radians p.lat)| :=
          mul_le_of_le_one_right (abs_nonneg _) (Real.abs_sin_le_one _)
    rw [cos_arc hp hq]
    linarith
  have hnear : |Real.sin (radians p.lat)| < Real.cos (arc p q) := by
    have hcos : Real.cos (pi / 2 - |radians p.lat|) < Real.cos (arc p q) :=
      Real.strictAntiOn_cos ⟨arc_nonneg p q, arc_le_pi p q⟩
        ⟨by linarith [h.lt_half, h.pos], by linarith [abs_nonneg (radians p.lat), Real.pi_pos]⟩
        (ha.trans h.lt_half)
    rw [Real.cos_pi_div_two_sub] at hcos
    obtain ⟨hsouth, hnorth⟩ := hp.radians_lat
    rwa [Real.abs_sin_eq_sin_abs_of_abs_le_pi
      (abs_le.2 ⟨by linarith [Real.pi_pos], by linarith [Real.pi_pos]⟩)]
  exact absurd hpole (not_le.2 hnear)

/-- The meridian of a place in the circle is no farther from the centre than the place. -/
theorem cos_lat_mul_sin_turn_sq_le (h : SparesPoles p a) (hp : IsPlace p) (hq : IsPlace q)
    (ha : arc p q < a) : (Real.cos (radians p.lat) *
      Real.sin (radians q.lon - radians p.lon)) ^ 2 ≤ Real.sin (arc p q) ^ 2 := by
  have hcos : 0 ≤ Real.cos (arc p q) := Real.cos_nonneg_of_mem_Icc
    ⟨by linarith [arc_nonneg p q, Real.pi_pos], by linarith [h.lt_pi_div_two]⟩
  have hlat := Real.sin_sq_add_cos_sq (radians q.lat)
  have hturn := Real.sin_sq_add_cos_sq (radians q.lon - radians p.lon)
  -- the law of cosines bounds the cosine by the length of what it projects on
  have hsplit : Real.sin (radians p.lat) ^ 2 +
      (Real.cos (radians p.lat) * Real.cos (radians q.lon - radians p.lon)) ^ 2 =
      Real.cos (arc p q) ^ 2 + (Real.sin (radians p.lat) * Real.cos (radians q.lat) -
        Real.cos (radians p.lat) * Real.cos (radians q.lon - radians p.lon) *
          Real.sin (radians q.lat)) ^ 2 := by
    rw [cos_arc hp hq, ← mul_one (Real.sin (radians p.lat) ^ 2 + _), ← hlat]
    ring
  have hsquare := sq_nonneg (Real.sin (radians p.lat) * Real.cos (radians q.lat) -
    Real.cos (radians p.lat) * Real.cos (radians q.lon - radians p.lon) * Real.sin (radians q.lat))
  have hmeridian : (Real.cos (radians p.lat) * Real.sin (radians q.lon - radians p.lon)) ^ 2 +
      (Real.cos (radians p.lat) * Real.cos (radians q.lon - radians p.lon)) ^ 2 =
      Real.cos (radians p.lat) ^ 2 := by
    rw [mul_pow, mul_pow, ← mul_add, hturn, mul_one]
  linarith [Real.sin_sq_add_cos_sq (radians p.lat), Real.sin_sq_add_cos_sq (arc p q)]

theorem cos_spread_lt (h : SparesPoles p a) (hp : IsPlace p) (hq : IsPlace q) (ha : arc p q < a) :
    Real.cos (spread p a) < Real.cos (radians q.lon - radians p.lon) := by
  have hsin : Real.sin (arc p q) < Real.sin a :=
    Real.sin_lt_sin_of_lt_of_le_pi_div_two (by linarith [arc_nonneg p q, Real.pi_pos])
      h.lt_pi_div_two.le ha
  have hsin_nonneg : 0 ≤ Real.sin (arc p q) :=
    Real.sin_nonneg_of_nonneg_of_le_pi (arc_nonneg p q) (arc_le_pi p q)
  have hspread : Real.cos (radians p.lat) * Real.sin (spread p a) = Real.sin a := by
    rw [h.sin_spread, mul_div_cancel₀ _ h.cos_lat_pos.ne']
  have hsines : (Real.cos (radians p.lat) * Real.sin (radians q.lon - radians p.lon)) ^ 2 <
      (Real.cos (radians p.lat) * Real.sin (spread p a)) ^ 2 := by
    calc (Real.cos (radians p.lat) * Real.sin (radians q.lon - radians p.lon)) ^ 2
      _ ≤ Real.sin (arc p q) ^ 2 := h.cos_lat_mul_sin_turn_sq_le hp hq ha
      _ < Real.sin a ^ 2 := pow_lt_pow_left₀ hsin hsin_nonneg two_ne_zero
      _ = (Real.cos (radians p.lat) * Real.sin (spread p a)) ^ 2 := by rw [hspread]
  have hsquares : Real.sin (radians q.lon - radians p.lon) ^ 2 < Real.sin (spread p a) ^ 2 := by
    rw [mul_pow, mul_pow] at hsines
    exact lt_of_mul_lt_mul_left hsines (sq_nonneg _)
  refine lt_of_pow_lt_pow_left₀ 2 (h.cos_turn_pos hp hq ha).le ?_
  rw [Real.cos_sq', Real.cos_sq']
  linarith

end SparesPoles

theorem abs_le_of_cos_lt {x d : ℝ} (hd : 0 ≤ d) (hx : |x| ≤ 2 * pi - d)
    (h : Real.cos d < Real.cos x) : |x| ≤ d := by
  by_contra hlt
  rw [not_le] at hlt
  rw [← Real.cos_abs x] at h
  refine absurd h (not_lt.2 ?_)
  rcases le_total |x| pi with hpi | hpi
  · exact Real.cos_le_cos_of_nonneg_of_le_pi hd hpi hlt.le
  · -- beyond half a turn the cosine is that of the rest of the turn
    rw [← Real.cos_two_pi_sub |x|]
    exact Real.cos_le_cos_of_nonneg_of_le_pi hd (by linarith) (by linarith)

/-- **The longitudes of a circle that reaches no pole**, where they do not cross the
antimeridian. -/
theorem abs_lon_sub_le_spread (h : SparesPoles p a) (hp : IsPlace p) (hq : IsPlace q)
    (ha : arc p q < a) (hwest : -pi ≤ radians p.lon - spread p a)
    (heast : radians p.lon + spread p a ≤ pi) :
    |radians q.lon - radians p.lon| ≤ spread p a := by
  obtain ⟨hq₁, hq₂⟩ := hq.radians_lon
  exact abs_le_of_cos_lt h.spread_pos.le (abs_le.2 ⟨by linarith, by linarith⟩)
    (h.cos_spread_lt hp hq ha)

/-! ## The box -/

section Box

variable {r : ℝ}

theorem sub_degrees_le_iff {x y : ℝ} : x - degrees a ≤ y ↔ radians x - a ≤ radians y := by
  rw [← radians_le_radians, radians_sub, radians_degrees]

theorem le_sub_degrees_iff {x y : ℝ} : y ≤ x - degrees a ↔ radians y ≤ radians x - a := by
  rw [← radians_le_radians, radians_sub, radians_degrees]

theorem le_add_degrees_iff {x y : ℝ} : y ≤ x + degrees a ↔ radians y ≤ radians x + a := by
  rw [← radians_le_radians, radians_add, radians_degrees]

theorem add_degrees_le_iff {x y : ℝ} : x + degrees a ≤ y ↔ radians x + a ≤ radians y := by
  rw [← radians_le_radians, radians_add, radians_degrees]

theorem sparesPoles_iff (hr : 0 < r) : SparesPoles p (r / 6371) ↔
    -90 < p.lat - degrees (r / 6371) ∧ p.lat + degrees (r / 6371) < 90 := by
  have hsouth : -90 < p.lat - degrees (r / 6371) ↔ -(pi / 2) < radians p.lat - r / 6371 := by
    rw [← radians_lt_radians, radians_neg_ninety, radians_sub, radians_degrees]
  have hnorth : p.lat + degrees (r / 6371) < 90 ↔ radians p.lat + r / 6371 < pi / 2 := by
    rw [← radians_lt_radians, radians_ninety, radians_add, radians_degrees]
  rw [hsouth, hnorth]
  exact ⟨fun h => ⟨h.south, h.north⟩, fun h => ⟨by positivity, h.1, h.2⟩⟩

theorem box_of_pole (hr : 0 < r) (h : ¬ SparesPoles p (r / 6371)) :
    box p r = .ok ⟨max (p.lat - degrees (r / 6371)) (-90), min (p.lat + degrees (r / 6371)) 90,
      none⟩ := by
  have hninety : (90.0 : ℝ) = 90 := by norm_num
  have hpole : p.lat - degrees (r / 6371) ≤ -90 ∨ 90 ≤ p.lat + degrees (r / 6371) := by
    rw [sparesPoles_iff hr, not_and_or, not_lt, not_lt] at h
    exact h
  unfold box
  simp only [settled_eq, bind, Except.bind, earthRadius_eq, hninety, Exact.greatest_eq_max,
    Exact.least_eq_min]
  rw [if_pos hpole]
  rfl

theorem box_of_sparesPoles (hr : 0 < r) (h : SparesPoles p (r / 6371)) :
    box p r = .ok ⟨p.lat - degrees (r / 6371), p.lat + degrees (r / 6371),
      if p.lon - degrees (spread p (r / 6371)) < -180 ∨ 180 < p.lon + degrees (spread p (r / 6371))
        then none
        else some (p.lon - degrees (spread p (r / 6371)),
          p.lon + degrees (spread p (r / 6371)))⟩ := by
  have hninety : (90.0 : ℝ) = 90 := by norm_num
  have hhalf : (180.0 : ℝ) = 180 := by norm_num
  have hone : (1.0 : ℝ) = 1 := by norm_num
  have hnopole : ¬ (p.lat - degrees (r / 6371) ≤ -90 ∨ 90 ≤ p.lat + degrees (r / 6371)) := by
    obtain ⟨hsouth, hnorth⟩ := (sparesPoles_iff hr).1 h
    exact not_or.2 ⟨not_le.2 hsouth, not_le.2 hnorth⟩
  have hspread : asin (min 1 (Real.sin (r / 6371) / Real.cos (radians p.lat))) =
      .ok (spread p (r / 6371)) := by
    rw [min_eq_right h.ratio_lt_one.le]
    exact asin_eq (by linarith [h.ratio_pos]) h.ratio_lt_one.le
  unfold box
  simp only [settled_eq, sin_eq, cos_eq, bind, Except.bind, earthRadius_eq, hninety, hhalf, hone,
    Exact.least_eq_min, hspread]
  rw [if_neg hnopole]
  split <;> rfl

/-! ## Nobody is lost -/

theorem holds_iff {b : Box ℝ} : b.holds q = true ↔ b.minLat ≤ q.lat ∧ q.lat ≤ b.maxLat ∧
    ∀ lons ∈ b.lons, lons.1 ≤ q.lon ∧ q.lon ≤ lons.2 := by
  obtain ⟨minLat, maxLat, lons⟩ := b
  cases lons <;> simp [Box.holds, and_assoc]

/-- The box of a radius holds what lies in the circle, its edge apart. -/
theorem exists_box (hp : IsPlace p) (hr : 0 < r) : ∃ b, box p r = .ok b ∧
    ∀ q, IsPlace q → arc p q < r / 6371 → b.holds q = true := by
  by_cases h : SparesPoles p (r / 6371)
  · refine ⟨_, box_of_sparesPoles hr h, fun q hq harc => ?_⟩
    obtain ⟨hlow, hhigh⟩ := abs_le.1 ((abs_lat_sub_le_arc hp hq).trans harc.le)
    refine holds_iff.2 ⟨sub_degrees_le_iff.2 (by linarith), le_add_degrees_iff.2 (by linarith), ?_⟩
    intro lons hlons
    split at hlons
    · cases hlons
    · rename_i hturn
      cases hlons
      rw [not_or, not_lt, not_lt, le_sub_degrees_iff, add_degrees_le_iff, radians_neg_halfTurn,
        radians_halfTurn] at hturn
      obtain ⟨hwest, heast⟩ :=
        abs_le.1 (abs_lon_sub_le_spread h hp hq harc hturn.1 hturn.2)
      exact ⟨sub_degrees_le_iff.2 (by linarith), le_add_degrees_iff.2 (by linarith)⟩
  · refine ⟨_, box_of_pole hr h, fun q hq harc => ?_⟩
    obtain ⟨hlow, hhigh⟩ := abs_le.1 ((abs_lat_sub_le_arc hp hq).trans harc.le)
    refine holds_iff.2 ⟨max_le (sub_degrees_le_iff.2 (by linarith)) hq.lat.1,
      le_min (le_add_degrees_iff.2 (by linarith)) hq.lat.2, ?_⟩
    rintro lons ⟨⟩

/-- **The box loses nobody.** For all places on the globe and every radius, the distance and the box
of a little more than the radius are defined, that is, no root and no arc sine is asked for outside
its domain, and whoever is no farther away than the radius lies in the box. -/
theorem box_loses_nobody {r : ℝ} (hp : IsPlace p) (hq : IsPlace q) (hr : 0 < r) :
    ∃ d b, distance p q = .ok d ∧ box p (r + slack) = .ok b ∧ (d ≤ r → b.holds q = true) := by
  have hslack : (0 : ℝ) < slack := by
    unfold slack
    norm_num
  obtain ⟨b, hb, hholds⟩ := exists_box hp (add_pos hr hslack)
  refine ⟨6371 * arc p q, b, distance_eq hp hq, hb, fun hd => hholds q hq ?_⟩
  -- the slack keeps what lies on the edge of the circle off that of the box
  rw [lt_div_iff₀' (by norm_num)]
  linarith

/-- Two places on the equator, a sixth of the globe apart. -/
theorem box_loses_nobody_sample :
    let p : Point ℝ := ⟨0, 0⟩
    let q : Point ℝ := ⟨0, 60⟩
    IsPlace p ∧ IsPlace q ∧ (0 : ℝ) < 7000 ∧ ∃ d b, distance p q = .ok d ∧ d ≤ 7000 ∧
      box p (7000 + slack) = .ok b ∧ b.holds q = true := by
  intro p q
  have hp : IsPlace p := ⟨by norm_num [p], by norm_num [p]⟩
  have hq : IsPlace q := ⟨by norm_num [q], by norm_num [q]⟩
  have hr : (0 : ℝ) < 7000 := by norm_num
  obtain ⟨d, b, hd, hb, hholds⟩ := box_loses_nobody hp hq hr
  have hsixty : radians (60 : ℝ) = pi / 3 := by
    rw [radians_eq]
    ring
  have harc : arc p q = pi / 3 := by
    refine Real.injOn_cos ⟨arc_nonneg p q, arc_le_pi p q⟩
      ⟨by positivity, by linarith [Real.pi_pos]⟩ ?_
    rw [cos_arc hp hq, ← hsixty]
    simp [p, q, radians_eq]
  have hle : d ≤ 7000 := by
    rw [distance_eq hp hq, harc] at hd
    rw [← Except.ok.inj hd]
    linarith [Real.pi_lt_d2]
  exact ⟨hp, hq, hr, d, b, hd, hle, hb, hholds hle⟩

end Box

end Matchmaker.Geo
