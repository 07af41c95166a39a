import Matchmaker.Geo
import Matchmaker.Quantity

/-!
# Profiles

What a member tells about themselves. A profile is seen by others once it is complete; a search
radius that is missing or 0 is no limit.

* `Profile.place?`: where the member is, when both coordinates are known;
* `Profile.radius`: the search radius, 0 for none;
* `Profile.toValue`: the profile with all its columns.
-/

namespace Matchmaker

/-- A member's profile. -/
structure Profile where
  user : Int
  displayName : String
  aboutMe : Option String
  city : Option String
  /-- A double, once it is stored. -/
  lat : Option Quantity
  /-- A double, once it is stored. -/
  lon : Option Quantity
  maxRadius : Option Quantity
  /-- A list of texts, as far as it was saved through the service. -/
  analogPassions : Option Json.Value
  /-- A list of texts, as far as it was saved through the service. -/
  digitalDelights : Option Json.Value
  collaboration : Option String
  food : Option String
  music : Option String
  preferences : Option Json.Value
  complete : Bool
  deriving Repr, Inhabited

namespace Profile

open Json (Value)

/-- Where the member is. -/
def place? (p : Profile) : Option (Point Quantity) :=
  match p.lat, p.lon with
  | some lat, some lon => some ⟨lat, lon⟩
  | _, _ => none

/-- The search radius in kilometres, 0 for none. -/
def radius (p : Profile) : Quantity :=
  match p.maxRadius with
  | some q => if q.isZero then .whole 0 else q
  | none => .whole 0

/-- The short form of a profile in listings. -/
def summary (p : Profile) : Except Fault String := do
  let complete ← (Value.bool p.complete).spelling
  let radius ← p.radius.text
  return "<Profile user=" ++ toString p.user ++ " complete=" ++ complete ++ " radius=" ++ radius ++
    ">"

/-- A profile with all its columns. -/
def toValue (p : Profile) : Value :=
  .obj [("user_id", .int p.user), ("display_name", .str p.displayName),
    ("about_me", Value.ofText? p.aboutMe), ("location_city", Value.ofText? p.city),
    ("location_lat", (p.lat.map Quantity.toValue).getD .null),
    ("location_lon", (p.lon.map Quantity.toValue).getD .null),
    ("max_radius_km", (p.maxRadius.map Quantity.toValue).getD .null),
    ("analog_passions", p.analogPassions.getD .null),
    ("digital_delights", p.digitalDelights.getD .null),
    ("collaboration_interests", Value.ofText? p.collaboration),
    ("favorite_food", Value.ofText? p.food), ("favorite_music", Value.ofText? p.music),
    ("match_preferences", p.preferences.getD .null), ("is_complete", .bool p.complete)]

/-- What other members may see of a profile. -/
def toPublicValue (p : Profile) : Value :=
  .obj [("user_id", .int p.user), ("display_name", .str p.displayName),
    ("about_me", Value.ofText? p.aboutMe), ("location_city", Value.ofText? p.city),
    ("analog_passions", p.analogPassions.getD .null),
    ("digital_delights", p.digitalDelights.getD .null),
    ("collaboration_interests", Value.ofText? p.collaboration),
    ("favorite_food", Value.ofText? p.food), ("favorite_music", Value.ofText? p.music)]

end Profile

end Matchmaker
