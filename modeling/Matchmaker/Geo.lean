import Matchmaker.Scalar

/-!
# Places on the sphere

Great-circle distances and bounding boxes, in kilometres and degrees. The formulas are stated over
a number type with the trigonometric functions (`Trig`), so that they can be read over the reals.

* `Geo.distance`: the haversine distance of two places;
* `Geo.box`: the latitudes and longitudes that enclose a circle. The longitudes are left open where
  the circle reaches a pole or crosses the antimeridian;
* `Geo.Box.holds`: a place inside a box.

The sine or cosine of an infinity, the root of a negative number and the arc sine of a number
beyond ±1 are outside the domain. A fault in a number that is given comes before these.
-/

namespace Matchmaker

/-- Numbers with the trigonometric functions. -/
class Trig (α : Type) extends Scalar α where
  sqrt : α → α
  sin : α → α
  cos : α → α
  asin : α → α
  atan2 : α → α → α
  pi : α
  /-- A number that no angle is. -/
  isInfinite : α → Bool

instance : Trig Float where
  sqrt := Float.sqrt
  sin := Float.sin
  cos := Float.cos
  asin := Float.asin
  atan2 := Float.atan2
  pi := 3.141592653589793
  isInfinite := Float.isInf

/-- A place on the sphere, in degrees. -/
structure Point (α : Type) where
  lat : α
  lon : α
  deriving DecidableEq, Repr

namespace Geo

variable {α : Type} [Trig α]

/-- The radius of the earth in kilometres. -/
def earthRadius : α := 6371.0

/-- Degrees as radians. -/
def radians (x : α) : α := x * (Trig.pi / 180.0)

/-- Radians as degrees. -/
def degrees (x : α) : α := x * (180.0 / Trig.pi)

/-- The sine of an angle. -/
def sin (x : α) : Except Fault α :=
  if Trig.isInfinite x then .error .outsideDomain else .ok (Trig.sin x)

/-- The cosine of an angle. -/
def cos (x : α) : Except Fault α :=
  if Trig.isInfinite x then .error .outsideDomain else .ok (Trig.cos x)

/-- The root of a number that is not negative. -/
def sqrt (x : α) : Except Fault α :=
  if x < 0.0 then .error .outsideDomain else .ok (Trig.sqrt x)

/-- The arc sine of a number from -1 to 1. -/
def asin (x : α) : Except Fault α :=
  if x < -1.0 then .error .outsideDomain
  else if 1.0 < x then .error .outsideDomain
  else .ok (Trig.asin x)

/-- The square of half the chord between two places, on the unit sphere. -/
def halfChord (p q : Point α) : Except Fault α := do
  let latP ← Scalar.settled (radians p.lat)
  let latQ ← Scalar.settled (radians q.lat)
  let rise ← Scalar.settled (radians (q.lat - p.lat))
  let turn ← Scalar.settled (radians (q.lon - p.lon))
  let north ← sin (rise / 2.0)
  let cosP ← cos latP
  let cosQ ← cos latQ
  let east ← sin (turn / 2.0)
  return north * north + cosP * cosQ * (east * east)

/-- The great-circle distance of two places, by the haversine formula. -/
def distance (p q : Point α) : Except Fault α := do
  let a ← halfChord p q
  let up ← sqrt a
  let down ← sqrt (1.0 - a)
  return earthRadius * (2.0 * Trig.atan2 up down)

/-- Bounds for latitude and, where they are known, for longitude. -/
structure Box (α : Type) where
  minLat : α
  maxLat : α
  lons : Option (α × α)
  deriving DecidableEq, Repr

/-- The box that encloses the circle around a place. -/
def box (p : Point α) (radius : α) : Except Fault (Box α) := do
  let angle := radius / earthRadius
  let minLat ← Scalar.settled (p.lat - degrees angle)
  let maxLat ← Scalar.settled (p.lat + degrees angle)
  if minLat ≤ -90.0 ∨ 90.0 ≤ maxLat then
    return ⟨Scalar.greatest minLat (-90.0), Scalar.least maxLat 90.0, none⟩
  let rise ← sin angle
  let width ← cos (radians p.lat)
  let spread ← asin (Scalar.least 1.0 (rise / width))
  let minLon ← Scalar.settled (p.lon - degrees spread)
  let maxLon ← Scalar.settled (p.lon + degrees spread)
  if minLon < -180.0 ∨ 180.0 < maxLon then
    return ⟨minLat, maxLat, none⟩
  return ⟨minLat, maxLat, some (minLon, maxLon)⟩

/-- A place lies in a box, its edges included. -/
def Box.holds {α : Type} [Scalar α] (b : Box α) (p : Point α) : Bool :=
  decide (b.minLat ≤ p.lat) && decide (p.lat ≤ b.maxLat) &&
    match b.lons with
    | none => true
    | some (minLon, maxLon) => decide (minLon ≤ p.lon) && decide (p.lon ≤ maxLon)

end Geo

end Matchmaker
